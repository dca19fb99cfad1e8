set_option autoImplicit false

namespace PatternLexer

inductive Symbol where
  | leftBracket | rightBracket | leftParenthesis | rightParenthesis | leftBrace | rightBrace
  | hat | dollar | minus | comma | pipe | dot | star | plus | question | colon | exclamation
  | equal | lower | greater | slash | hash | underscore | quote | doubleQuote | ampersand | atSign
  | percent | tilde | semicolon | backtick
deriving DecidableEq

inductive Literal where
  | integer | char | backslash
deriving DecidableEq

inductive Shorthand where
  | digit | word | space
deriving DecidableEq

inductive Property where
  | x
  | letter | lowercaseLetter | uppercaseLetter | titlecaseLetter | casedLetter | modifierLetter
  | otherLetter
  | mark | nonSpacingMark | spacingCombiningMark | enclosingMark
  | separator | spaceSeparator | lineSeparator | paragraphSeparator
  | symbol | mathSymbol | currencySymbol | modifierSymbol | otherSymbol
  | number | decimalDigitNumber | letterNumber | otherNumber
  | punctuation | dashPunctuation | openPunctuation | closePunctuation | initialPunctuation
  | finalPunctuation | connectorPunctuation | otherPunctuation
  | other | control | format | privateUse | unassigned | surrogate
  | common | arabic | armenian | bengali | cyrillic | devanagari | georgian | greek | han | hangul
  | hebrew | hiragana | katakana | latin | thai | tibetan
deriving DecidableEq

inductive Kind where
  | symbol (s : Symbol)
  | literal (l : Literal)
  | shorthand (s : Shorthand)
  | property (p : Property)
deriving DecidableEq

namespace Symbol

def all : List Symbol :=
  [.leftBracket, .rightBracket, .leftParenthesis, .rightParenthesis, .leftBrace, .rightBrace, .hat,
    .dollar, .minus, .comma, .pipe, .dot, .star, .plus, .question, .colon, .exclamation, .equal,
    .lower, .greater, .slash, .hash, .underscore, .quote, .doubleQuote, .ampersand, .atSign, .percent,
    .tilde, .semicolon, .backtick]

def name : Symbol → String
  | leftBracket => "LEFT_BRACKET"
  | rightBracket => "RIGHT_BRACKET"
  | leftParenthesis => "LEFT_PARENTHESIS"
  | rightParenthesis => "RIGHT_PARENTHESIS"
  | leftBrace => "LEFT_BRACE"
  | rightBrace => "RIGHT_BRACE"
  | hat => "HAT"
  | dollar => "DOLLAR"
  | minus => "MINUS"
  | comma => "COMMA"
  | pipe => "PIPE"
  | dot => "DOT"
  | star => "STAR"
  | plus => "PLUS"
  | question => "QUESTION"
  | colon => "COLON"
  | exclamation => "EXCLAMATION"
  | equal => "EQUAL"
  | lower => "LOWER"
  | greater => "GREATER"
  | slash => "SLASH"
  | hash => "HASH"
  | underscore => "UNDERSCORE"
  | quote => "QUOTE"
  | doubleQuote => "DOUBLE_QUOTE"
  | ampersand => "AMPERSAND"
  | atSign => "AT"
  | percent => "PERCENT"
  | tilde => "TILDE"
  | semicolon => "SEMICOLON"
  | backtick => "BACKTICK"

theorem mem_all (s : Symbol) : s ∈ all := by cases s <;> decide

end Symbol

namespace Literal

def all : List Literal := [.integer, .char, .backslash]

def name : Literal → String
  | integer => "INTEGER"
  | char => "CHAR"
  | backslash => "BACKSLASH"

theorem mem_all (l : Literal) : l ∈ all := by cases l <;> decide

end Literal

namespace Shorthand

def all : List Shorthand := [.digit, .word, .space]

def name : Shorthand → String
  | digit => "DIGIT"
  | word => "WORD"
  | space => "SPACE"

theorem mem_all (s : Shorthand) : s ∈ all := by cases s <;> decide

end Shorthand

namespace Property

def all : List Property :=
  [.x, .letter, .lowercaseLetter, .uppercaseLetter, .titlecaseLetter, .casedLetter,
    .modifierLetter, .otherLetter, .mark, .nonSpacingMark, .spacingCombiningMark, .enclosingMark,
    .separator, .spaceSeparator, .lineSeparator, .paragraphSeparator, .symbol, .mathSymbol,
    .currencySymbol, .modifierSymbol, .otherSymbol, .number, .decimalDigitNumber, .letterNumber,
    .otherNumber, .punctuation, .dashPunctuation, .openPunctuation, .closePunctuation,
    .initialPunctuation, .finalPunctuation, .connectorPunctuation, .otherPunctuation, .other,
    .control, .format, .privateUse, .unassigned, .surrogate, .common, .arabic, .armenian, .bengali,
    .cyrillic, .devanagari, .georgian, .greek, .han, .hangul, .hebrew, .hiragana, .katakana, .latin,
    .thai, .tibetan]

def name : Property → String
  | x => "X"
  | letter => "LETTER"
  | lowercaseLetter => "LOWERCASE_LETTER"
  | uppercaseLetter => "UPPERCASE_LETTER"
  | titlecaseLetter => "TITLECASE_LETTER"
  | casedLetter => "CASED_LETTER"
  | modifierLetter => "MODIFIER_LETTER"
  | otherLetter => "OTHER_LETTER"
  | mark => "MARK"
  | nonSpacingMark => "NON_SPACING_MARK"
  | spacingCombiningMark => "SPACING_COMBINING_MARK"
  | enclosingMark => "ENCLOSING_MARK"
  | separator => "SEPARATOR"
  | spaceSeparator => "SPACE_SEPARATOR"
  | lineSeparator => "LINE_SEPARATOR"
  | paragraphSeparator => "PARAGRAPH_SEPARATOR"
  | symbol => "SYMBOL"
  | mathSymbol => "MATH_SYMBOL"
  | currencySymbol => "CURRENCY_SYMBOL"
  | modifierSymbol => "MODIFIER_SYMBOL"
  | otherSymbol => "OTHER_SYMBOL"
  | number => "NUMBER"
  | decimalDigitNumber => "DECIMAL_DIGIT_NUMBER"
  | letterNumber => "LETTER_NUMBER"
  | otherNumber => "OTHER_NUMBER"
  | punctuation => "PUNCTUATION"
  | dashPunctuation => "DASH_PUNCTUATION"
  | openPunctuation => "OPEN_PUNCTUATION"
  | closePunctuation => "CLOSE_PUNCTUATION"
  | initialPunctuation => "INITIAL_PUNCTUATION"
  | finalPunctuation => "FINAL_PUNCTUATION"
  | connectorPunctuation => "CONNECTOR_PUNCTUATION"
  | otherPunctuation => "OTHER_PUNCTUATION"
  | other => "OTHER"
  | control => "CONTROL"
  | format => "FORMAT"
  | privateUse => "PRIVATE_USE"
  | unassigned => "UNASSIGNED"
  | surrogate => "SURROGATE"
  | common => "COMMON"
  | arabic => "ARABIC"
  | armenian => "ARMENIAN"
  | bengali => "BENGALI"
  | cyrillic => "CYRILLIC"
  | devanagari => "DEVANAGARI"
  | georgian => "GEORGIAN"
  | greek => "GREEK"
  | han => "HAN"
  | hangul => "HANGUL"
  | hebrew => "HEBREW"
  | hiragana => "HIRAGANA"
  | katakana => "KATAKANA"
  | latin => "LATIN"
  | thai => "THAI"
  | tibetan => "TIBETAN"

theorem mem_all (p : Property) : p ∈ all := by cases p <;> decide

end Property

namespace Kind

-- Every kind, in the order that decides ties and comparisons.
def all : List Kind :=
  Symbol.all.map .symbol ++ Literal.all.map .literal ++ Shorthand.all.map .shorthand ++
    Property.all.map .property

theorem mem_all (k : Kind) : k ∈ all := by
  cases k with
  | symbol s => simp [all, Symbol.mem_all]
  | literal l => simp [all, Literal.mem_all]
  | shorthand s => simp [all, Shorthand.mem_all]
  | property p => simp [all, Property.mem_all]

def name : Kind → String
  | symbol s => s.name
  | literal l => l.name
  | shorthand s => "ANY_" ++ s.name
  | property p => "UNICODE_" ++ p.name

def ofName? (name : String) : Option Kind :=
  all.find? (·.name == name)

theorem of_name (k : Kind) : ofName? k.name = some k := by
  have named : ∀ k ∈ all, ofName? k.name = some k := by decide +kernel
  exact named k (mem_all k)

theorem of_name_iff (name : String) (k : Kind) : ofName? name = some k ↔ k.name = name := by
  constructor
  · intro found
    simpa using List.find?_some found
  · rintro rfl
    exact of_name k

def index (k : Kind) : Nat :=
  all.idxOf k

instance : Ord Kind := ⟨fun a b => compare a.index b.index⟩

def isProperty : Kind → Bool
  | property _ => true
  | _ => false

def isShorthand : Kind → Bool
  | shorthand _ => true
  | _ => false

theorem property_marked (k : Kind) : k.isProperty = true ↔ "UNICODE".toList <+: k.name.toList := by
  cases k with
  | symbol s => cases s <;> simp [isProperty, name, Symbol.name]
  | literal l => cases l <;> simp [isProperty, name, Literal.name]
  | shorthand s => simp [isProperty, name]
  | property p => simp [isProperty, name]

theorem shorthand_marked (k : Kind) : k.isShorthand = true ↔ "ANY".toList <+: k.name.toList := by
  cases k with
  | symbol s => cases s <;> simp [isShorthand, name, Symbol.name]
  | literal l => cases l <;> simp [isShorthand, name, Literal.name]
  | shorthand s => simp [isShorthand, name]
  | property p => simp [isShorthand, name]

def isLiteral : Kind → Bool
  | literal _ => true
  | _ => false

def isDirect (k : Kind) : Bool :=
  !k.isProperty && !k.isShorthand

end Kind

end PatternLexer
