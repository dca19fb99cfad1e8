import PatternLexer.Lexer.Run
import PatternLexer.Session.Setup
import PatternLexer.Settings.Document
import PatternLexer.Table.Loading

set_option autoImplicit false

namespace PatternLexer.Session

def conclude (s : Session) (x : Attempt Table) : Except LoadError Table × Session :=
  (x.result, s.publishAll x.notices)

def tableOfBindings (s : Session) (bs : List Binding) : Except LoadError Table × Session :=
  s.conclude (Table.build bs)

def tableOfJson (s : Session) (text : String) : Except LoadError Table × Session :=
  s.conclude (Table.buildJson text)

def loadTable (s : Session) (path : String) : Except LoadError Table × Session :=
  s.conclude (Table.buildFile s.files path)

def builtinTable (s : Session) : Except LoadError Table × Session :=
  if s.builtinReady then (Table.builtin, s)
  else
    match s.tableOfJson Table.builtinText with
    | (.ok t, s) => (.ok t, { s with builtinReady := true })
    | (.error e, s) => (.error e, s)

def createLexer (s : Session) (table : Table) (preferences : LexingPreferences)
    (pattern : String) : Except LexError Lexer × Session :=
  (Lexer.create table preferences pattern, s.publishAll (Lexer.createNotices pattern))

def nextToken (s : Session) (l : Lexer) : Except LexError Token × Lexer × Session :=
  let r := l.nextToken
  (r.result, r.lexer, s.publishAll r.notices)

def nextItem (s : Session) (l : Lexer) : Option (Except LexError Token) × Lexer × Session :=
  let (item, l, notices) := l.next
  (item, l, s.publishAll notices)

def items (s : Session) (l : Lexer) : List (Except LexError Token) × Lexer × Session :=
  let (items, l, notices) := l.collect
  (items, l, s.publishAll notices)

def tokenize (s : Session) (table : Table) (preferences : LexingPreferences) (pattern : String) :
    Except LexError TokenStream × Session :=
  let (r, notices) := PatternLexer.tokenize table preferences pattern
  (r, s.publishAll notices)

def announceLimits (s : Session) : Option SetupError × Session :=
  match unregistered? with
  | some e => (some e, s)
  | none => (none, s.publish limitsNotice)

def loadSettings (s : Session) (path : String) : Except LoadError Settings :=
  Settings.load s.environment s.files path

end PatternLexer.Session
