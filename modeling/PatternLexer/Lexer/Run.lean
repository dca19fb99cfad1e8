import PatternLexer.Lexer.Basic

set_option autoImplicit false

namespace PatternLexer

namespace Lexer

-- The items `taken` have the last one first.
def collectOnto (l : Lexer) (taken : List (Except LexError Token)) (logged : List Log.Notice) :
    List (Except LexError Token) × Lexer × List Log.Notice :=
  match _came : l.next with
  | (some item, after, notices) => collectOnto after (item :: taken) (logged ++ notices)
  | (none, after, notices) => (taken.reverse, after, logged ++ notices)
termination_by l.left
decreasing_by
  have := left_next_lt (l := l) (r := item) (by rw [_came])
  rwa [_came] at this

def collect (l : Lexer) : List (Except LexError Token) × Lexer × List Log.Notice :=
  l.collectOnto [] []

structure Run where
  result : Except LexError (List Token)
  lexer : Lexer
  notices : List Log.Notice
deriving DecidableEq

def runOnto (l : Lexer) (taken : List Token) (logged : List Log.Notice) : Run :=
  match _came : l.nextToken with
  | ⟨.error e, after, notices⟩ => ⟨.error e, after, logged ++ notices⟩
  | ⟨.ok k, after, notices⟩ =>
    if _more : k = .finish then ⟨.ok (k :: taken).reverse, after, logged ++ notices⟩
    else runOnto after (k :: taken) (logged ++ notices)
termination_by l.tape.distance
decreasing_by
  have := distance_nextToken_lt (l := l) (k := k) (by rw [_came]) (by assumption)
  rwa [_came] at this

def run (l : Lexer) : Run := l.runOnto [] []

end Lexer

def completedEvent (m : Metrics) : Log.Event :=
  .timed .tokenized "Tokenization completed" Log.unmeasured
    [("tokens", toString m.tokens), ("escapes", toString m.escapes),
      ("negated", toString m.negated), ("unicode", toString m.properties)]

def tokenize (table : Table) (preferences : LexingPreferences) (pattern : String) :
    Except LexError TokenStream × List Log.Notice :=
  match Lexer.create table preferences pattern with
  | .error e => (.error e, Lexer.createNotices pattern)
  | .ok l =>
    let run := l.run
    match run.result with
    | .ok tokens =>
      (.ok (.ofList tokens),
        Lexer.createNotices pattern ++ run.notices ++ [.always (completedEvent run.lexer.metrics)])
    | .error e => (.error e, Lexer.createNotices pattern ++ run.notices)

def limitsNotice : Log.Notice :=
  .whenDebugging "Lexical limits initialized"
    [("max_pattern_length", toString patternLimit),
      ("max_logged_fragment_length", toString fragmentLimit)]

end PatternLexer
