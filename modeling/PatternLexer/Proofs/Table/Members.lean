import Mathlib.Data.List.Dedup
import PatternLexer.Proofs.Json.Inversion
import PatternLexer.Proofs.Table.Exact
import PatternLexer.Table.Json

set_option autoImplicit false

namespace PatternLexer

namespace Table

def textRecord (members : List (String × String)) : Json := .record (members.map fun m => (m.1, .text m.2))

def gather (members : List (String × String)) : Named := members.foldl (fun n m => n.insert m.1 m.2) ∅

def Last (members : List (String × String)) (name lexeme : String) : Prop :=
  ∃ before after, members = before ++ (name, lexeme) :: after ∧ ∀ m ∈ after, m.1 ≠ name

def BoundUnder (t : Table) (name lexeme : String) : Prop := ∃ k : Kind, k.name = name ∧ t.kindOf? lexeme = some k

variable {members : List (String × String)} {name lexeme : String}

theorem gather_snoc (members : List (String × String)) (m : String × String) :
    gather (members ++ [m]) = (gather members).insert m.1 m.2 := by
  rw [gather, List.foldl_append]
  rfl

theorem named_snoc (ms : List (Option String × Json)) (m : Option String × Json) :
    named? (.object (ms ++ [m])) =
      match named? (.object ms), m with
      | some n, (some name, .string (some lexeme)) => some (n.insert name lexeme)
      | _, _ => none := by
  rw [named?, List.foldl_append]
  rfl

theorem named_gathered (members : List (String × String)) : named? (textRecord members) = some (gather members) := by
  induction members using List.reverseRecOn with
  | nil => rfl
  | append_singleton members m ih =>
      simp only [textRecord, Json.record, List.map_append] at ih ⊢
      rw [gather_snoc]
      exact (named_snoc _ _).trans (by rw [ih]; rfl)

theorem named_iff (j : Json) (n : Named) :
    named? j = some n ↔ ∃ members, j = textRecord members ∧ n = gather members := by
  constructor
  · intro read
    cases j with
    | object ms =>
        -- The reader folds from the front, so the member that comes in last is taken off.
        induction ms using List.reverseRecOn generalizing n with
        | nil => exact ⟨[], rfl, (Option.some.inj read).symm⟩
        | append_singleton ms m ih =>
            rw [named_snoc] at read
            split at read
            · rename_i n' name lexeme front
              obtain ⟨members, object, rfl⟩ := ih n' front
              refine ⟨members ++ [(name, lexeme)], ?_, ?_⟩
              · rw [Json.object.inj object]
                simp [textRecord, Json.record, Json.text]
              · rw [gather_snoc]
                exact (Option.some.inj read).symm
            · cases read
    | _ => cases read
  · rintro ⟨members, rfl, rfl⟩
    exact named_gathered members

theorem text_record_read (members : List (String × String)) :
    Json.parse? (textRecord members).write = some (textRecord members) := by
  refine Json.parse_write (Json.exact_record fun m member => ?_)
  obtain ⟨m', -, rfl⟩ := List.mem_map.mp member
  exact .text m'.2

theorem last_snoc (m : String × String) :
    Last (members ++ [m]) name lexeme ↔ if m.1 = name then m.2 = lexeme else Last members name lexeme := by
  constructor
  · rintro ⟨before, after, split, later⟩
    rcases List.eq_nil_or_concat' after with rfl | ⟨after', m', rfl⟩
    · obtain ⟨-, last⟩ := List.append_inj' split rfl
      rw [List.cons.inj last |>.1, if_pos rfl]
    · rw [← List.cons_append, ← List.append_assoc] at split
      obtain ⟨front, last⟩ := List.append_inj' split rfl
      rw [List.cons.inj last |>.1, if_neg (later m' (by simp))]
      exact ⟨before, after', front, fun m member => later m (List.mem_append_left _ member)⟩
  · split
    · rename_i same
      rintro rfl
      exact ⟨members, [], by rw [← same], nofun⟩
    · rename_i other
      rintro ⟨before, after, rfl, later⟩
      refine ⟨before, after ++ [m], by simp, fun m' member => ?_⟩
      rcases List.mem_append.mp member with front | last
      · exact later m' front
      · rw [List.mem_singleton.mp last]
        exact other

theorem gathered_iff : (gather members)[name]? = some lexeme ↔ Last members name lexeme := by
  induction members using List.reverseRecOn with
  | nil => simp [gather, Last]
  | append_singleton members m ih =>
      rw [gather_snoc, Std.ExtTreeMap.getElem?_insert, last_snoc, ← ih]
      simp only [Std.compare_eq_iff_eq]
      split
      · exact Option.some_inj
      · exact .rfl

theorem gathered_names : name ∈ gather members ↔ name ∈ members.map Prod.fst := by
  induction members using List.reverseRecOn with
  | nil => simp [gather]
  | append_singleton members m ih =>
      rw [gather_snoc, Std.ExtTreeMap.mem_insert, ih, Std.compare_eq_iff_eq, List.map_append, List.mem_append, or_comm,
        List.map_singleton, List.mem_singleton, eq_comm]

theorem gathered_size (members : List (String × String)) :
    (gather members).toList.length = (members.map Prod.fst).dedup.length := by
  rw [← List.length_map Prod.fst, Std.ExtTreeMap.map_fst_toList_eq_keys]
  refine ((List.perm_ext_iff_of_nodup Std.ExtTreeMap.nodup_keys (List.nodup_dedup _)).mpr fun name => ?_).length_eq
  rw [Std.ExtTreeMap.mem_keys, List.mem_dedup, gathered_names]

theorem last_member (last : Last members name lexeme) : (name, lexeme) ∈ members := by
  obtain ⟨before, after, rfl, -⟩ := last
  simp

theorem last_unique {lexeme' : String} (last : Last members name lexeme) (last' : Last members name lexeme') :
    lexeme = lexeme' :=
  Option.some.inj ((gathered_iff.mpr last).symm.trans (gathered_iff.mpr last'))

theorem last_exists (member : (name, lexeme) ∈ members) : ∃ lexeme', Last members name lexeme' := by
  have known : name ∈ gather members := gathered_names.mpr (List.mem_map_of_mem member)
  obtain ⟨lexeme', found⟩ := Option.isSome_iff_exists.mp (Std.ExtTreeMap.mem_iff_isSome_getElem?.mp known)
  exact ⟨lexeme', gathered_iff.mp found⟩

theorem all_last_iff : (∀ m ∈ members, Last members m.1 m.2) ↔
    ∀ m ∈ members, ∀ m' ∈ members, m.1 = m'.1 → m.2 = m'.2 := by
  constructor
  · rintro last ⟨name, lexeme⟩ member ⟨name', lexeme'⟩ member' same
    obtain rfl : name = name' := same
    exact last_unique (last _ member) (last _ member')
  · rintro same ⟨name, lexeme⟩ member
    obtain ⟨lexeme', last⟩ := last_exists member
    obtain rfl : lexeme = lexeme' := same _ member _ (last_member last) rfl
    exact last

theorem bindings_iff (ms : List (String × String)) (bs : List Binding) :
    bindings ms = .ok bs ↔ ms = bs.map fun b => (b.kind.name, b.lexeme) := by
  induction ms generalizing bs with
  | nil => cases bs <;> simp [bindings]
  | cons m ms ih =>
      obtain ⟨name, lexeme⟩ := m
      constructor
      · intro named
        rw [bindings] at named
        split at named
        · cases named
        · rename_i k known
          split at named
          · rename_i rest read
            obtain rfl := Except.ok.inj named
            rw [List.map_cons, ← (ih rest).mp read, (Kind.of_name_iff name k).mp known]
          · cases named
      · intro given
        cases bs with
        | nil => cases given
        | cons b bs =>
            obtain ⟨first, rest⟩ := List.cons.inj given
            obtain ⟨rfl, rfl⟩ := Prod.mk.inj first
            rw [bindings, Kind.of_name, (ih bs).mpr rest]

theorem of_named_iff (n : Named) (t : Table) :
    ofNamed n = .ok t ↔ ∃ bs, n.toList = bs.map (fun b => (b.kind.name, b.lexeme)) ∧ ofBindings bs = .ok t := by
  constructor
  · intro accepted
    rw [ofNamed] at accepted
    split at accepted
    · rename_i bs named
      exact ⟨bs, (bindings_iff _ _).mp named, accepted⟩
    · cases accepted
  · rintro ⟨bs, named, built⟩
    rw [ofNamed, (bindings_iff _ _).mpr named]
    exact built

theorem json_gathered {text : String} (read : Json.parse? text = some (textRecord members)) :
    ofJson text = ofNamed (gather members) := by
  rw [ofJson, read, Option.bind_some, named_gathered]

theorem json_members {text : String} {t : Table} (accepted : ofJson text = .ok t) :
    ∃ members, Json.parse? text = some (textRecord members) := by
  rw [ofJson] at accepted
  split at accepted
  · rename_i n read
    obtain ⟨j, parsed, object⟩ := Option.bind_eq_some_iff.mp read
    obtain ⟨members, rfl, -⟩ := (named_iff j n).mp object
    exact ⟨members, parsed⟩
  · cases accepted

theorem named_holds {n : Named} {t : Table} (accepted : ofNamed n = .ok t) :
    ∃ bs, n.toList = bs.map (fun b => (b.kind.name, b.lexeme)) ∧ t.Holds bs := by
  obtain ⟨bs, named, built⟩ := (of_named_iff n t).mp accepted
  obtain ⟨fitting, records⟩ := built_fitting built
  exact ⟨bs, named, records_holds records fitting.distinct⟩

theorem named_bound_iff {n : Named} {t : Table} (accepted : ofNamed n = .ok t) :
    t.BoundUnder name lexeme ↔ n[name]? = some lexeme := by
  obtain ⟨bs, named, holds⟩ := named_holds accepted
  rw [← Std.ExtTreeMap.mem_toList_iff_getElem?_eq_some, named, List.mem_map]
  constructor
  · rintro ⟨k, rfl, bound⟩
    exact ⟨⟨k, lexeme⟩, (holds.kinds lexeme k).mp bound, rfl⟩
  · rintro ⟨b, member, same⟩
    cases same
    exact ⟨b.kind, rfl, (holds.kinds b.lexeme b.kind).mpr member⟩

theorem named_size {n : Named} {t : Table} (accepted : ofNamed n = .ok t) : t.size = n.toList.length := by
  obtain ⟨bs, named, holds⟩ := named_holds accepted
  rw [holds.size, named, List.length_map]

end Table

-- Of the members with one name the table holds the last. Nothing reports the others.
theorem members_kept_iff {text : String} {t : Table} (accepted : Table.ofJson text = .ok t) :
    (∃ members, Json.parse? text = some (Table.textRecord members)) ∧
      ∀ members, Json.parse? text = some (Table.textRecord members) →
        (∀ name lexeme, t.BoundUnder name lexeme ↔ Table.Last members name lexeme) ∧
        t.size = (members.map Prod.fst).dedup.length ∧
        ((∀ m ∈ members, t.BoundUnder m.1 m.2) ↔ ∀ m ∈ members, ∀ m' ∈ members, m.1 = m'.1 → m.2 = m'.2) ∧
        (t.size = members.length ↔ (members.map Prod.fst).Nodup) := by
  refine ⟨Table.json_members accepted, fun members read => ?_⟩
  rw [Table.json_gathered read] at accepted
  have bound (name lexeme : String) : t.BoundUnder name lexeme ↔ Table.Last members name lexeme :=
    (Table.named_bound_iff accepted).trans Table.gathered_iff
  have size : t.size = (members.map Prod.fst).dedup.length :=
    (Table.named_size accepted).trans (Table.gathered_size members)
  refine ⟨bound, size, ?_, ?_⟩
  · rw [← Table.all_last_iff]
    exact forall₂_congr fun m _ => bound m.1 m.2
  · rw [size, ← List.length_map Prod.fst, ← List.dedup_eq_self]
    exact ⟨(List.dedup_sublist _).eq_of_length, congrArg List.length⟩

theorem members_kept_iff_repeated :
    let text := "\x7b\"STAR\":\"*\",\"STAR\":\"+\"\x7d"
    let members := [("STAR", "*"), ("STAR", "+")]
    let t := ({} : Table).insert ⟨.symbol .star, "+"⟩
    Table.ofJson text = .ok t ∧ Json.parse? text = some (Table.textRecord members) ∧
      t.BoundUnder "STAR" "+" ∧ ¬ t.BoundUnder "STAR" "*" ∧ t.size = 1 := by
  intro text members t
  have accepted : Table.ofJson text = .ok t := by decide +kernel
  have written : (Table.textRecord members).write = text := by decide +kernel
  have read : Json.parse? text = some (Table.textRecord members) := by rw [← written, Table.text_record_read]
  obtain ⟨bound, size, -⟩ := (members_kept_iff accepted).2 members read
  have last : Table.Last members "STAR" "+" := ⟨[("STAR", "*")], [], rfl, nofun⟩
  refine ⟨accepted, read, (bound _ _).mpr last, fun first => ?_, size.trans (by decide)⟩
  exact absurd (Table.last_unique ((bound _ _).mp first) last) (by decide)

end PatternLexer
