import PatternLexer.Proofs.Lexer.Calls
import PatternLexer.Proofs.Pattern.Splitting

set_option autoImplicit false

namespace PatternLexer

def Form.family : Form → Family
  | bound => .structural
  | digit | letter | backslash | escaped => .literal
  | property | cluster => .unicodeProperty
  | shorthand | negated => .shorthandClass

-- The name of a property may be bound to a kind of any sort, and the token then has that kind.
def Misnamed (t : Table) (f : Form) (k : Token) : Prop :=
  f = .property ∧ ∃ kind, t.kindOf? k.lexeme = some kind ∧ kind.isProperty = false

variable {t : Table}

theorem direct_family {k : Kind} (direct : k.isDirect = true) (bindable : k.isLiteral = false) :
    k.family = .structural := by
  cases k with
  | symbol s => rfl
  | literal l => cases bindable
  | shorthand s => cases direct
  | property p => cases direct

theorem shorthand_family {k : Kind} (shorthand : k.isShorthand = true) : k.family = .shorthandClass := by
  cases k with
  | shorthand s => rfl
  | _ => cases shorthand

theorem property_family_iff (k : Kind) : k.family = .unicodeProperty ↔ k.isProperty = true := by
  cases k <;> simp [Kind.family, Kind.isProperty]

theorem named_iff {name : String} {k : Kind} (negated : Bool) (kind : t.kindOf? name = some k) :
    ¬ Misnamed t .property (.escape k name negated) ↔ k.isProperty = true := by
  have known : t.kindOf? (Token.escape k name negated).lexeme = some k := kind
  simp [Misnamed, known]

theorem named_family {name : String} {k : Kind} (negated : Bool) (kind : t.kindOf? name = some k) :
    (Token.escape k name negated).family = Form.property.family ↔
      ¬ Misnamed t .property (.escape k name negated) := by
  rw [named_iff negated kind]
  exact property_family_iff k

theorem writes_family (lawful : t.Lawful) {f : Form} {span ahead : List Char} {k : Token}
    (writes : Writes t f span ahead k) : k.family = f.family ↔ ¬ Misnamed t f k := by
  cases writes with
  | bound _ kind direct =>
      have family := direct_family direct (Table.lawful_bindable lawful kind)
      simp [Misnamed, Form.family, Token.family, Token.kind?, family]
  | short _ _ _ kind => exact named_family _ kind
  | braced _ _ _ _ kind => exact named_family _ kind
  | shorthand _ _ _ family =>
      simp [Misnamed, Form.family, Token.family, Token.kind?, shorthand_family family]
  | negated _ _ _ family =>
      simp [Misnamed, Form.family, Token.family, Token.kind?, shorthand_family family]
  | _ => simp [Misnamed, Form.family, Token.family, Token.kind?, Kind.family]

theorem not_direct {k : Kind} (family : k.isProperty = true ∨ k.isShorthand = true) : k.isDirect = false := by
  rcases family with family | family <;> simp [Kind.isDirect, family]

theorem writes_escape {f : Form} {span ahead : List Char} {k : Token} (writes : Writes t f span ahead k)
    (escape : k.isEscape = true) (named : ¬ Misnamed t f k) :
    ∃ kind, k.kind? = some kind ∧ kind.isDirect = false := by
  cases writes with
  | short _ _ _ kind => exact ⟨_, rfl, not_direct (.inl ((named_iff _ kind).mp named))⟩
  | braced _ _ _ _ kind => exact ⟨_, rfl, not_direct (.inl ((named_iff _ kind).mp named))⟩
  | cluster => exact ⟨_, rfl, rfl⟩
  | shorthand _ _ _ family => exact ⟨_, rfl, not_direct (.inr family)⟩
  | negated _ _ _ family => exact ⟨_, rfl, not_direct (.inr family)⟩
  | _ => cases escape

theorem call_first {l : Lexer} (open' : l.Open) (lawful : l.table.Lawful) {text : List Char}
    (fresh : l.tape.Stands [] text) (calls : List Call) {c : Call} {k : Token}
    (emitted : ((l.after calls).call c).1 = some (.ok k)) (more : k ≠ .finish) :
    ∃ f behind span ahead, text = behind ++ (span ++ ahead) ∧
      (l.after calls).tape.Stands behind (span ++ ahead) ∧
      ((l.after calls).call c).2.1.tape.Stands (behind ++ span) ahead ∧ First l.table f span ahead k := by
  obtain ⟨behind, rest, rfl, stands⟩ := Lexer.after_stands fresh calls
  rw [List.nil_append] at stands
  obtain ⟨came, moved, -⟩ := Lexer.call_emits open' calls emitted more
  obtain ⟨f, span, ahead, rfl, first, onward⟩ := first_of_read lawful stands came more
  exact ⟨f, behind, span, ahead, rfl, stands, by rwa [moved], first⟩

theorem emitted_family {bs : List Binding} {t : Table} (accepted : Table.ofBindings bs = .ok t)
    (preferences : LexingPreferences) (pattern : String) :
    (∀ l, Lexer.create t preferences pattern = .ok l → ∀ (calls : List Call) (c : Call) (k : Token),
      ((l.after calls).call c).1 = some (.ok k) → k ≠ .finish →
      ∃ f behind span ahead, pattern.toList = behind ++ (span ++ ahead) ∧
        (l.after calls).tape.Stands behind (span ++ ahead) ∧
        ((l.after calls).call c).2.1.tape.Stands (behind ++ span) ahead ∧
        First t f span ahead k ∧ (k.family = f.family ↔ ¬ Misnamed t f k) ∧
        (k.isEscape = true → ¬ Misnamed t f k → ∃ kind, k.kind? = some kind ∧ kind.isDirect = false)) ∧
    ∀ stream, (tokenize t preferences pattern).1 = .ok stream → ∀ (i : Nat) (k : Token),
      stream.toList[i]? = some k → ∃ l, Lexer.create t preferences pattern = .ok l ∧
        ((l.after (List.replicate i .token)).call .token).1 = some (.ok k) := by
  have lawful := Table.lawful_of_bindings accepted
  refine ⟨fun l created calls c k emitted more => ?_, fun stream read i k at' => ?_⟩
  · obtain ⟨-, rfl⟩ := (Lexer.create_ok_iff t preferences pattern l).mp created
    obtain ⟨f, behind, span, ahead, text, before, after, first⟩ :=
      call_first (Lexer.of_tape_open t preferences _) lawful (.inl rfl) calls emitted more
    exact ⟨f, behind, span, ahead, text, before, after, first, writes_family lawful first.writes,
      writes_escape first.writes⟩
  · obtain ⟨short, ts, tokens, rfl⟩ := (tokenize_ok_iff t preferences pattern stream).mp read
    have created := (Lexer.create_ok_iff t preferences pattern _).mpr ⟨short, rfl⟩
    obtain ⟨open', -, same⟩ := Lexer.collect_created created
    have listed : (ts ++ [.finish])[i]? = some k := by simpa [Tape.ofList, Tape.toList] using at'
    exact ⟨_, created, Lexer.token_answers open' ts (by rw [same, tokens]) i listed⟩

theorem emitted_family_misnamed :
    let bs : List Binding := [⟨.symbol .rightBracket, "]"⟩]
    let t := ({} : Table).insert ⟨.symbol .rightBracket, "]"⟩
    let pattern := "\\p\x7b]\x7d"
    let l := Lexer.ofTape t {} (.ofList pattern.toList)
    let k := Token.escape (.symbol .rightBracket) "]" false
    Table.ofBindings bs = .ok t ∧ Lexer.create t {} pattern = .ok l ∧
      ((l.after []).call .token).1 = some (.ok k) ∧ k.family = .structural ∧ Misnamed t .property k ∧
      ∃ f behind span ahead, pattern.toList = behind ++ (span ++ ahead) ∧ First t f span ahead k ∧
        (k.family = f.family ↔ ¬ Misnamed t f k) := by
  intro bs t pattern l k
  have accepted : Table.ofBindings bs = .ok t := by decide +kernel
  have created : Lexer.create t {} pattern = .ok l := by decide +kernel
  have emitted : ((l.after []).call .token).1 = some (.ok k) := by decide +kernel
  have misnamed : Misnamed t .property k := ⟨rfl, .symbol .rightBracket, by decide +kernel, rfl⟩
  obtain ⟨f, behind, span, ahead, text, -, -, first, family, -⟩ :=
    (emitted_family accepted {} pattern).1 l created [] .token k emitted nofun
  exact ⟨accepted, created, emitted, rfl, misnamed, f, behind, span, ahead, text, first, family⟩

end PatternLexer
