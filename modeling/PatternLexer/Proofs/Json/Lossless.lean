import PatternLexer.Proofs.Json.Inversion
import PatternLexer.Tape.Json
import PatternLexer.Token.Json

set_option autoImplicit false

namespace PatternLexer

namespace Json

def named (name : String) (ms : List (Option String × Json)) : Nat := ms.countP fun m => m.1 == some name

variable {name : String} {ms ms' : List (Option String × Json)}

theorem named_beside (f : String) (v : Json) :
    named f (ms ++ (some name, v) :: ms') = named f (ms ++ ms') + if name = f then 1 else 0 := by
  simp only [named, List.countP_append, List.countP_cons, beq_iff_eq, Option.some.injEq]
  omega

theorem member_beside {f : String} (apart : name ≠ f) (v : Json) :
    (object (ms ++ (some name, v) :: ms')).member? f = (object (ms ++ ms')).member? f := by
  simp [member?, List.find?_append, apart]

theorem named_omitted (omitted : ∀ m ∈ ms, m.1 ≠ some name) : named name ms = 0 := by
  rw [named, List.countP_eq_zero]
  intro m member
  simpa using omitted m member

theorem member_omitted (omitted : ∀ m ∈ ms, m.1 ≠ some name) : (object ms).member? name = none := by
  rw [member?, Option.map_eq_none_iff, List.find?_eq_none]
  intro m member
  simpa using omitted m member

theorem member_given (omitted : ∀ m ∈ ms ++ ms', m.1 ≠ some name) (v : Json) :
    (object (ms ++ (some name, v) :: ms')).member? name = some v := by
  have before : ms.find? (fun m => m.1 == some name) = none := by
    rw [List.find?_eq_none]
    intro m member
    simpa using omitted m (List.mem_append_left ms' member)
  simp [member?, List.find?_append, before]

theorem fields_beside {fields : List String} (other : name ∉ fields) (v : Json) :
    fields? fields (object (ms ++ (some name, v) :: ms')) = fields? fields (object (ms ++ ms')) := by
  have apart : ∀ f ∈ fields, name ≠ f := by
    rintro f member rfl
    exact other member
  have known : (ms ++ (some name, v) :: ms').all (·.1.isSome) = (ms ++ ms').all (·.1.isSome) := by simp
  have counts : fields.all (fun f => named f (ms ++ (some name, v) :: ms') ≤ 1) =
      fields.all (fun f => named f (ms ++ ms') ≤ 1) := by
    rw [Bool.eq_iff_iff, List.all_eq_true, List.all_eq_true]
    refine forall₂_congr fun f member => ?_
    rw [named_beside, if_neg (apart f member), Nat.add_zero]
  have values : (fields.map fun f => (object (ms ++ (some name, v) :: ms')).member? f) =
      fields.map fun f => (object (ms ++ ms')).member? f :=
    List.map_congr_left fun f member => member_beside (apart f member) v
  unfold named at counts
  simp only [fields?, known, counts, values]

theorem fields_snoc (fields : List String) (once : named name ms ≤ 1) :
    fields? (fields ++ [name]) (object ms) =
      (fields? fields (object ms)).map (· ++ [(object ms).member? name]) := by
  simp only [named] at once
  simp only [fields?, List.all_append, List.all_cons, List.all_nil, once, decide_true, Bool.and_true, List.map_append,
    List.map_cons, List.map_nil]
  split <;> rfl

end Json

theorem kind_read (k : Kind) : Kind.ofJson? k.toJson = some k := Kind.of_name k

namespace Token

open Json

theorem escape_unmarked {ms ms' : List (Option String × Json)}
    (omitted : ∀ m ∈ ms ++ ms', m.1 ≠ some "negated") :
    escapeOfJson? (object (ms ++ (some "negated", .bool false) :: ms')) = escapeOfJson? (object (ms ++ ms')) := by
  have other : "negated" ∉ ["kind", "lexeme"] := by decide
  have once : named "negated" (ms ++ (some "negated", .bool false) :: ms') ≤ 1 :=
    Nat.le_of_eq (by rw [named_beside, if_pos rfl, named_omitted omitted])
  have never : named "negated" (ms ++ ms') ≤ 1 := by
    rw [named_omitted omitted]
    exact Nat.zero_le 1
  have given := fields_snoc ["kind", "lexeme"] once
  have missing := fields_snoc ["kind", "lexeme"] never
  rw [fields_beside other, member_given omitted] at given
  rw [member_omitted omitted] at missing
  simp only [List.cons_append, List.nil_append] at given missing
  rw [escapeOfJson?, escapeOfJson?, given, missing]
  cases fields? ["kind", "lexeme"] (object (ms ++ ms')) with
  | none => rfl
  | some values => rcases values with - | ⟨- | kind, - | ⟨- | lexeme, - | ⟨v, - | ⟨w, values⟩⟩⟩⟩ <;> rfl

theorem token_read (k : Token) : ofJson? k.toJson = some k := by
  cases k with
  | plain k l => simp [toJson, ofJson?, alternative?, record, plainOfJson?, fields?, member?, kind_read, text?, text]
  | escape k l negated =>
      simp [toJson, ofJson?, alternative?, record, escapeOfJson?, fields?, member?, kind_read, text?, text, bool?]
  | finish => rfl

def unmarked (k : Kind) (lexeme : String) : Json :=
  .record [("Escape", .record [("kind", k.toJson), ("lexeme", .text lexeme)])]

theorem unmarked_read (k : Kind) (lexeme : String) :
    ofJson? (unmarked k lexeme) = some (.escape k lexeme false) := by
  simp [unmarked, ofJson?, alternative?, record, escapeOfJson?, fields?, member?, kind_read, text?, text, bool?]

theorem exact_alternative (name : String) {v : Json} (exact' : Exact v) : Exact (record [(name, v)]) :=
  exact_record (by simpa using exact')

theorem exact_token (k : Token) : Exact k.toJson := by
  have kind (k : Kind) : Exact k.toJson := .text k.name
  cases k with
  | plain k l => exact exact_alternative "Plain" (exact_record (by simp [kind, Exact.text]))
  | escape k l negated => exact exact_alternative "Escape" (exact_record (by simp [kind, Exact.text, Exact.bool]))
  | finish => exact .text "End"

theorem exact_unmarked (k : Kind) (lexeme : String) : Exact (unmarked k lexeme) :=
  have kind : Exact k.toJson := .text k.name
  exact_alternative "Escape" (exact_record (by simp [kind, Exact.text]))

end Token

def Word (n : Int) : Prop := -9223372036854775808 ≤ n ∧ n ≤ 9223372036854775807

namespace Tape

open Json

variable {α : Type} {item : α → Json} {item? : Json → Option α}

theorem word_read (n : Int) : (Json.int n).int64? = some n ↔ Word n := by
  have high : (Nat.pow 2 63 : Nat) = 9223372036854775808 := by decide
  simp only [int64?, int?, high, Word]
  split
  · rename_i inside
    refine ⟨fun _ => ⟨inside.1, by omega⟩, fun _ => rfl⟩
  · rename_i outside
    refine ⟨nofun, fun inside => absurd ⟨inside.1, by omega⟩ outside⟩

variable {t : Tape α}

theorem items_read {xs : List α} (read : ∀ x ∈ xs, item? (item x) = some x) :
    (Json.array (xs.map item)).listOf? item? = some xs := by
  change (xs.map item).mapM item? = some xs
  induction xs with
  | nil => rfl
  | cons x xs ih =>
      rw [List.forall_mem_cons] at read
      simp [List.mapM_cons, read.1, ih read.2]

theorem tape_read (read : ∀ x ∈ t.toList, item? (item x) = some x) :
    ofJson? item? (t.toJson item) = some t ↔ Word t.cursor := by
  have given : (t.toJson item).fields? ["items", "cursor"] =
      some [some (.array (t.toList.map item)), some (.int t.cursor)] := by
    simp [toJson, record, fields?, member?]
  rw [ofJson?, given, ← word_read]
  simp only [items_read read]
  obtain ⟨items, cursor⟩ := t
  cases (Json.int cursor).int64? <;> simp [toList]

theorem char_read (c : Char) : char? (charToJson c) = some c := by
  simp [charToJson, char?, text?, text]

theorem exact_tape (exact' : ∀ x ∈ t.toList, Exact (item x)) : Exact (t.toJson item) := by
  have items : Exact (.array (t.toList.map item)) := .array fun v member => by
    obtain ⟨x, held, rfl⟩ := List.mem_map.mp member
    exact exact' x held
  exact exact_record (by simp [items, Exact.int])

def written (item : α → Json) (t : Tape α) : String := (t.toJson item).write

def ofText? (item? : Json → Option α) (text : String) : Option (Tape α) := (parse? text).bind (ofJson? item?)

theorem tape_written (exact' : ∀ x ∈ t.toList, Exact (item x)) (read : ∀ x ∈ t.toList, item? (item x) = some x) :
    ofText? item? (t.written item) = some t ↔ Word t.cursor := by
  rw [ofText?, written, parse_write (exact_tape exact'), Option.bind_some, tape_read read]

end Tape

def Token.written (k : Token) : String := k.toJson.write

def Token.ofText? (text : String) : Option Token := (Json.parse? text).bind Token.ofJson?

-- Leaving the mark out of an escape is the same as writing that it is false.
theorem written_read_back :
    (∀ k : Token, Token.ofText? k.written = some k) ∧
      (∀ ts : TokenStream, Tape.ofText? Token.ofJson? (ts.written Token.toJson) = some ts ↔ Word ts.cursor) ∧
      (∀ cs : Tape Char, Tape.ofText? Json.char? (cs.written Tape.charToJson) = some cs ↔ Word cs.cursor) ∧
      (∀ (k : Kind) (lexeme : String),
        Token.ofText? (Token.unmarked k lexeme).write = some (.escape k lexeme false)) ∧
      ∀ (text marked : String) (ms ms' : List (Option String × Json)),
        (∀ m ∈ ms ++ ms', m.1 ≠ some "negated") →
        Json.parse? text = some (.object [(some "Escape", .object (ms ++ ms'))]) →
        Json.parse? marked =
          some (.object [(some "Escape", .object (ms ++ (some "negated", .bool false) :: ms'))]) →
        Token.ofText? text = Token.ofText? marked := by
  refine ⟨fun k => ?_, fun ts => ?_, fun cs => ?_, fun k lexeme => ?_, fun text marked ms ms' omitted plain given => ?_⟩
  · rw [Token.ofText?, Token.written, Json.parse_write (Token.exact_token k)]
    exact Token.token_read k
  · exact Tape.tape_written (fun k _ => Token.exact_token k) fun k _ => Token.token_read k
  · exact Tape.tape_written (fun c _ => .text _) fun c _ => Tape.char_read c
  · rw [Token.ofText?, Json.parse_write (Token.exact_unmarked k lexeme)]
    exact Token.unmarked_read k lexeme
  · rw [Token.ofText?, Token.ofText?, plain, given]
    exact (Token.escape_unmarked omitted).symm

theorem written_read_back_marked :
    let k : Token := .escape (.property .greek) "\"\\/\n\x01ü😀" true
    let ts : TokenStream := ⟨#[k, .finish], 9223372036854775807⟩
    let kind : Option String × Json := (some "kind", .text "ANY_DIGIT")
    let lexeme : Option String × Json := (some "lexeme", .text "D")
    let text := (Json.object [(some "Escape", .object [kind, lexeme])]).write
    let marked := (Json.object [(some "Escape", .object [kind, (some "negated", .bool false), lexeme])]).write
    Token.ofText? k.written = some k ∧ Tape.ofText? Token.ofJson? (ts.written Token.toJson) = some ts ∧
      Token.ofText? text = some (.escape (.shorthand .digit) "D" false) ∧
      Token.ofText? text = Token.ofText? marked := by
  intro k ts kind lexeme text marked
  obtain ⟨token, stream, -, unmarked, same⟩ := written_read_back
  have omitted : ∀ m ∈ [kind] ++ [lexeme], m.1 ≠ some "negated" := by decide
  have last : Word ts.cursor := ⟨by decide, by decide⟩
  have fields : Json.Exact (.record [("kind", .text "ANY_DIGIT"), ("negated", .bool false), ("lexeme", .text "D")]) :=
    Json.exact_record (by simp [Json.Exact.text, Json.Exact.bool])
  exact ⟨token k, (stream ts).mpr last, unmarked (.shorthand .digit) "D",
    same text marked [kind] [lexeme] omitted (Json.parse_write (Token.exact_unmarked (.shorthand .digit) "D"))
      (Json.parse_write (Token.exact_alternative "Escape" fields))⟩

end PatternLexer
