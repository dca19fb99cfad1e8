import PatternLexer.Log.Event
import PatternLexer.Proofs.Json.Lossless

set_option autoImplicit false

namespace PatternLexer

namespace Json

open Reader

def Shown (cs : List Char) : Prop := ∀ c ∈ cs, 0x20 ≤ c.toNat

variable {cs ds : List Char}

theorem shown_cons {c : Char} (first : 0x20 ≤ c.toNat) (others : Shown cs) : Shown (c :: cs) :=
  List.forall_mem_cons.mpr ⟨first, others⟩

theorem shown_append (front : Shown cs) (back : Shown ds) : Shown (cs ++ ds) :=
  List.forall_mem_append.mpr ⟨front, back⟩

theorem hex_digit_shown (n : Nat) : 0x20 ≤ (hexDigit n).toNat := by
  have all : ∀ m < 16, 0x20 ≤ (Nat.digitChar m).toNat := by decide
  exact all (n % 16) (Nat.mod_lt n (by decide))

theorem letter_shown {x c : Char} (short : unescape? x = some c) : 0x20 ≤ x.toNat := by
  refine Nat.not_lt.mp fun control => ?_
  -- A control is none of the letters, all of which show.
  have other (d : Char) (shown : 0x20 ≤ d.toNat) : x ≠ d := by
    rintro rfl
    exact Nat.not_lt.mpr shown control
  rw [unescape?, if_neg (other '"' (by decide)), if_neg (other '\\' (by decide)), if_neg (other '/' (by decide)),
    if_neg (other 'b' (by decide)), if_neg (other 'f' (by decide)), if_neg (other 'n' (by decide)),
    if_neg (other 'r' (by decide)), if_neg (other 't' (by decide))] at short
  cases short

theorem escape_shown (c : Char) : Shown (escape c).toList := by
  have back : 0x20 ≤ '\\'.toNat := by decide
  rcases escape_cases c with ⟨x, short, spelled⟩ | ⟨-, spelled⟩ | ⟨-, -, shown, spelled⟩
  · rw [spelled]
    exact shown_cons back (shown_cons (letter_shown short) nofun)
  · rw [spelled]
    exact shown_cons back (shown_cons (by decide) (shown_cons (by decide) (shown_cons (by decide)
      (shown_cons (hex_digit_shown _) (shown_cons (hex_digit_shown _) nofun)))))
  · rw [spelled]
    exact shown_cons (Nat.not_lt.mp shown) nofun

theorem string_shown (s : String) : Shown (spellString (some s)) := by
  refine shown_cons (by decide) (shown_append (fun d member => ?_) (shown_cons (by decide) nofun))
  obtain ⟨c, -, inner⟩ := List.mem_flatMap.mp member
  exact escape_shown c d inner

theorem digits_shown (n : Nat) : Shown (Nat.toDigits 10 n) := by
  intro d member
  have digit := digits_all member
  simp only [Char.isDigit, Bool.and_eq_true, decide_eq_true_eq, ge_iff_le, UInt32.le_iff_toNat_le] at digit
  exact Nat.le_trans (by decide) digit.1

theorem integer_shown (n : Int) : Shown (spell (int n)) := by
  cases n with
  | ofNat m => exact (spell_nat m).symm ▸ digits_shown m
  | negSucc m => exact (spell_negative m).symm ▸ shown_cons (by decide) (digits_shown (m + 1))

theorem items_shown {vs : List Json} (each : ∀ v ∈ vs, Shown (spell v)) : Shown (spellItems vs) := by
  induction vs with
  | nil => nofun
  | cons v vs ih =>
      rw [List.forall_mem_cons] at each
      exact shown_cons (by decide) (shown_append each.1 (ih each.2))

theorem member_shown {m : Option String × Json} (named : m.1.isSome = true) (value : Shown (spell m.2)) :
    Shown (spellMember m) := by
  obtain ⟨name, v⟩ := m
  obtain ⟨s, rfl⟩ := Option.isSome_iff_exists.mp named
  exact shown_append (string_shown s) (shown_cons (by decide) value)

theorem members_shown {ms : List (Option String × Json)} (names : ∀ m ∈ ms, m.1.isSome = true)
    (each : ∀ m ∈ ms, Shown (spell m.2)) : Shown (spellMembers ms) := by
  induction ms with
  | nil => nofun
  | cons m ms ih =>
      rw [List.forall_mem_cons] at names each
      exact shown_cons (by decide) (shown_append (member_shown names.1 each.1) (ih names.2 each.2))

theorem exact_shown {v : Json} (exact' : Exact v) : Shown (spell v) := by
  induction exact' with
  | null => simp [spell, Shown]
  | bool b => cases b <;> simp [spell, Shown]
  | int n => exact integer_shown n
  | text s => exact string_shown s
  | @array vs _ ih =>
      cases vs with
      | nil => simp [spell, Shown]
      | cons v vs =>
          rw [List.forall_mem_cons] at ih
          exact shown_cons (by decide)
            (shown_append ih.1 (shown_append (items_shown ih.2) (shown_cons (by decide) nofun)))
  | @object ms names _ ih =>
      cases ms with
      | nil => simp [spell, Shown]
      | cons m ms =>
          rw [List.forall_mem_cons] at names ih
          exact shown_cons (by decide) (shown_append (member_shown names.1 ih.1)
            (shown_append (members_shown names.2 ih.2) (shown_cons (by decide) nofun)))

theorem write_shown {v : Json} (exact' : Exact v) : Shown (write v).toList := by
  rw [write_spell]
  exact exact_shown exact'

variable {members : List (String × Json)} {name : String} {v : Json}

theorem name_omitted (other : name ∉ members.map Prod.fst) :
    ∀ m ∈ members.map fun m => (some m.1, m.2), m.1 ≠ some name := by
  intro m member same
  obtain ⟨m', member', rfl⟩ := List.mem_map.mp member
  obtain rfl := Option.some.inj same
  exact other (List.mem_map_of_mem member')

theorem record_other (other : name ∉ members.map Prod.fst) : (record members).member? name = none :=
  member_omitted (name_omitted other)

theorem record_member (distinct : (members.map Prod.fst).Nodup) (member : (name, v) ∈ members) :
    (record members).member? name = some v := by
  obtain ⟨before, after, rfl⟩ := List.append_of_mem member
  rw [List.map_append, List.map_cons, List.perm_middle.nodup_iff, List.nodup_cons, ← List.map_append] at distinct
  have omitted := name_omitted distinct.1
  rw [List.map_append] at omitted
  rw [record, List.map_append, List.map_cons]
  exact member_given omitted v

end Json

namespace Log.Event

open Json

inductive Member (e : Event) : String → Json → Prop where
  | timestamp : Member e "timestamp" (.text e.timeText)
  | level : Member e "level" (.text e.level.label)
  | code : Member e "code" (.text e.code.text)
  | message : Member e "message" (.text e.message)
  | category : Member e "category" (.text e.code.category)
  | severity : Member e "severity" (.text e.code.severity.name)
  | metadata (failed : e.level = .error) :
      Member e "error_metadata" (.record [("description", .text e.code.description),
        ("requires_halt", .bool e.code.requiresHalt)])
  | position {p : Int} (set : e.position = some p) : Member e "position" (.int p)
  | context (detailed : e.context.isEmpty = false) :
      Member e "context" (.record (e.context.toList.map fun d => (d.1, .text d.2)))

variable {e : Event} {name : String} {v : Json}

theorem member_listed : (name, v) ∈ e.members ↔ e.Member name v := by
  have failed : e.isError = true ↔ e.level = .error := by simp [isError]
  simp only [members, List.mem_append, List.mem_cons, List.not_mem_nil, or_false, Prod.mk.injEq,
    List.mem_ite_nil_left, List.mem_ite_nil_right, failed, Bool.not_eq_true]
  constructor
  · intro listed
    rcases listed with (((((⟨rfl, rfl⟩ | ⟨rfl, rfl⟩) | ⟨detailed, rfl, rfl⟩) | ⟨failed, rfl, rfl⟩) |
      ⟨rfl, rfl⟩ | ⟨rfl, rfl⟩) | placed) | ⟨rfl, rfl⟩ | ⟨rfl, rfl⟩
    · exact .category
    · exact .code
    · exact .context detailed
    · exact .metadata failed
    · exact .level
    · exact .message
    · split at placed
      · rename_i p set
        simp only [List.mem_singleton, Prod.mk.injEq] at placed
        obtain ⟨rfl, rfl⟩ := placed
        exact .position set
      · cases placed
    · exact .severity
    · exact .timestamp
  · intro member
    cases member with
    | position set => simp [set]
    | metadata failed => simp [failed]
    | context detailed => simp [detailed, contextJson]
    | _ => simp

theorem members_distinct (e : Event) : (e.members.map Prod.fst).Nodup := by
  rw [members]
  cases e.context.isEmpty <;> cases e.isError <;> cases e.position <;> simp

theorem exact_member (member : e.Member name v) : Exact v := by
  cases member with
  | metadata failed => exact exact_record (by simp [Exact.text, Exact.bool])
  | position set => exact .int _
  | context detailed =>
      refine exact_record fun m member => ?_
      obtain ⟨d, -, rfl⟩ := List.mem_map.mp member
      exact .text d.2
  | _ => exact .text _

theorem exact_event (e : Event) : Exact e.toJson :=
  exact_record fun _ member => exact_member (member_listed.mp member)

theorem member_told (told : e.Member name v) : e.toJson.member? name = some v :=
  record_member (members_distinct e) (member_listed.mpr told)

theorem member_untold (untold : ∀ v, ¬ e.Member name v) : e.toJson.member? name = none := by
  refine record_other fun named => ?_
  obtain ⟨m, member, rfl⟩ := List.mem_map.mp named
  exact untold m.2 (member_listed.mp member)

theorem position_told (e : Event) : e.toJson.member? "position" = e.position.map .int := by
  cases set : e.position with
  | some p => exact member_told (.position set)
  | none =>
      refine member_untold fun v told => ?_
      generalize named : "position" = name at told
      cases told with
      | position set' => cases set.symm.trans set'
      | _ => exact absurd named (by decide)

theorem detail_told (details : Context) (k v : String) :
    ((Json.record (details.toList.map fun d => (d.1, .text d.2))).member? k).bind Json.text? = some v ↔
      details[k]? = some v := by
  have names : (details.toList.map fun d => (d.1, Json.text d.2)).map Prod.fst = details.keys := by
    rw [List.map_map, ← Std.ExtTreeMap.map_fst_toList_eq_keys]
    rfl
  have distinct : ((details.toList.map fun d => (d.1, Json.text d.2)).map Prod.fst).Nodup :=
    names ▸ Std.ExtTreeMap.nodup_keys
  cases found : details[k]? with
  | some w =>
      have listed : (k, w) ∈ details.toList := Std.ExtTreeMap.mem_toList_iff_getElem?_eq_some.mpr found
      rw [record_member distinct (List.mem_map_of_mem listed)]
      rfl
  | none =>
      have missing : k ∉ details.keys := by
        rw [Std.ExtTreeMap.mem_keys, Std.ExtTreeMap.mem_iff_isSome_getElem?, found]
        nofun
      rw [record_other (names ▸ missing)]
      rfl

theorem details_told (e : Event) (k v : String) :
    ((e.toJson.member? "context").bind (Json.member? k)).bind Json.text? = some v ↔ e.context[k]? = some v := by
  cases detailed : e.context.isEmpty with
  | false => exact member_told (.context detailed) ▸ detail_told e.context k v
  | true =>
      have untold : e.toJson.member? "context" = none := by
        refine member_untold fun v told => ?_
        generalize named : "context" = name at told
        cases told with
        | context detailed' => cases detailed.symm.trans detailed'
        | _ => exact absurd named (by decide)
      have missing : e.context[k]? = none := by
        rw [Std.ExtTreeMap.isEmpty_iff.mp detailed]
        exact Std.ExtTreeMap.getElem?_empty
      rw [untold, missing]
      rfl

theorem json_line_faithful (e : Event) :
    (∀ c ∈ e.jsonLine.toList, 0x20 ≤ c.toNat) ∧
      ∃ ms : List (String × Json), Json.parse? e.jsonLine = some (.record ms) ∧ (ms.map Prod.fst).Nodup ∧
        (∀ name v, (name, v) ∈ ms ↔ e.Member name v) ∧
        (Json.record ms).member? "message" = some (.text e.message) ∧
        (Json.record ms).member? "position" = e.position.map .int ∧
        ∀ k v, (((Json.record ms).member? "context").bind (Json.member? k)).bind Json.text? = some v ↔
          e.context[k]? = some v :=
  ⟨write_shown (exact_event e), e.members, parse_write (exact_event e), members_distinct e, fun _ _ => member_listed,
    member_told .message, position_told e, details_told e⟩

theorem json_line_faithful_forged :
    let e := ((Event.error .unknownProperty "x\n\"level\":\"INFO\"\x00").withPosition (-1)).withContext "\"" "\\\r"
    '\x7b' ∈ e.jsonLine.toList ∧ 0x20 ≤ '\x7b'.toNat ∧
      ∃ ms : List (String × Json), Json.parse? e.jsonLine = some (.record ms) ∧
        (∀ v, ("level", v) ∈ ms ↔ e.Member "level" v) ∧
        (Json.record ms).member? "message" = some (.text "x\n\"level\":\"INFO\"\x00") ∧
        (Json.record ms).member? "position" = some (.int (-1)) ∧
        (((Json.record ms).member? "context").bind (Json.member? "\"")).bind Json.text? = some "\\\r" := by
  intro e
  obtain ⟨shown, ms, read, -, listed, message, position, details⟩ := json_line_faithful e
  have opened : '\x7b' ∈ e.jsonLine.toList := by
    rw [jsonLine, write_spell]
    exact List.mem_cons_self
  refine ⟨opened, shown _ opened, ms, read, listed "level", message, position, (details _ _).mpr ?_⟩
  exact Std.ExtTreeMap.getElem?_insert_self

end Log.Event

end PatternLexer
