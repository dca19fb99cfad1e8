import PatternLexer.Proofs.Json.Listed
import PatternLexer.Proofs.Session.Loading
import PatternLexer.Proofs.Table.Members
import PatternLexer.Proofs.Text.ByteOrder

set_option autoImplicit false

namespace PatternLexer

namespace Table

def Unknown (name : String) : Prop := ∀ k : Kind, k.name ≠ name

inductive Faulted (members : List (String × String)) : LoadError → Prop where
  | unknown {m : String × String} (given : m ∈ members) (unknown : Unknown m.1)
      (least : ∀ m' ∈ members, Unknown m'.1 → m'.1 = m.1 ∨ bytes m.1 < bytes m'.1) :
      Faulted members (.unknownKind m.1)
  | refused {earlier later : List Binding} {b : Binding} {e : LoadError}
      (known : ((earlier ++ b :: later).map fun b => (b.kind.name, b.lexeme)).Perm members)
      (ordered : (earlier ++ b :: later).Pairwise fun b b' => bytes b.kind.name < bytes b'.kind.name)
      (fitting : Fitting earlier) (refused : b.Refused earlier e) : Faulted members e

variable {members members' : List (String × String)} {name lexeme : String} {e : LoadError}

theorem gathered_member (distinct : (members.map Prod.fst).Nodup) :
    (gather members)[name]? = some lexeme ↔ (name, lexeme) ∈ members := by
  rw [gathered_iff]
  refine ⟨last_member, fun member => all_last_iff.mpr ?_ _ member⟩
  intro m given m' given' same
  rw [List.inj_on_of_nodup_map distinct given given' same]

theorem gathered_alike (distinct : (members.map Prod.fst).Nodup) (distinct' : (members'.map Prod.fst).Nodup)
    (same : ∀ m, m ∈ members' ↔ m ∈ members) : gather members' = gather members := by
  refine Std.ExtTreeMap.ext_getElem? fun name => Option.ext fun lexeme => ?_
  rw [gathered_member distinct', gathered_member distinct, same]

theorem gathered_perm (distinct : (members.map Prod.fst).Nodup) : (gather members).toList.Perm members := by
  have keys : ((gather members).toList.map Prod.fst).Nodup := by
    rw [Std.ExtTreeMap.map_fst_toList_eq_keys]
    exact Std.ExtTreeMap.nodup_keys
  refine (List.perm_ext_iff_of_nodup (.of_map _ keys) (.of_map _ distinct)).mpr fun ⟨name, lexeme⟩ => ?_
  rw [Std.ExtTreeMap.mem_toList_iff_getElem?_eq_some, gathered_member distinct]

theorem gathered_ordered (members : List (String × String)) :
    (gather members).toList.Pairwise fun m m' => bytes m.1 < bytes m'.1 :=
  Std.ExtTreeMap.ordered_keys_toList.imp fun less => (compare_bytes _ _).mp less

theorem named_or_unknown (ms : List (String × String)) :
    (∃ bs : List Binding, ms = bs.map fun b => (b.kind.name, b.lexeme)) ∨
      ∃ before m after, ms = before ++ m :: after ∧ (∀ m' ∈ before, ¬ Unknown m'.1) ∧ Unknown m.1 := by
  induction ms with
  | nil => exact .inl ⟨[], rfl⟩
  | cons m ms ih =>
      by_cases known : ∃ k : Kind, k.name = m.1
      · obtain ⟨k, named⟩ := known
        rcases ih with ⟨bs, rfl⟩ | ⟨before, m', after, rfl, known, unknown⟩
        · exact .inl ⟨⟨k, m.2⟩ :: bs, by rw [List.map_cons, named]⟩
        · refine .inr ⟨m :: before, m', after, rfl, ?_, unknown⟩
          exact List.forall_mem_cons.mpr ⟨fun none => none k named, known⟩
      · exact .inr ⟨[], m, ms, rfl, nofun, fun k named => known ⟨k, named⟩⟩

theorem bindings_unknown {m : String × String} (before after : List (String × String))
    (known : ∀ m' ∈ before, ¬ Unknown m'.1) (unknown : Unknown m.1) :
    bindings (before ++ m :: after) = .error (.unknownKind m.1) := by
  induction before with
  | nil =>
      have none : Kind.ofName? m.1 = none := by
        cases found : Kind.ofName? m.1 with
        | none => rfl
        | some k => exact absurd ((Kind.of_name_iff _ _).mp found) (unknown k)
      rw [List.nil_append, bindings, none]
  | cons m' before ih =>
      obtain ⟨first, others⟩ := List.forall_mem_cons.mp known
      obtain ⟨k, named⟩ := not_forall_not.mp first
      rw [List.cons_append, bindings, (Kind.of_name_iff _ _).mpr named, ih others]

theorem named_bound {n : Named} {bs : List Binding} (named : n.toList = bs.map fun b => (b.kind.name, b.lexeme)) :
    ofNamed n = ofBindings bs := by
  rw [ofNamed, (bindings_iff _ _).mpr named]

theorem named_unknown {n : Named} {m : String × String} {before after : List (String × String)}
    (split : n.toList = before ++ m :: after) (known : ∀ m' ∈ before, ¬ Unknown m'.1) (unknown : Unknown m.1) :
    ofNamed n = .error (.unknownKind m.1) := by
  rw [ofNamed, split, bindings_unknown before after known unknown]

theorem faulted_failed (distinct : (members.map Prod.fst).Nodup) (faulted : Faulted members e) :
    ofNamed (gather members) = .error e := by
  have perm := gathered_perm distinct
  have ordered := gathered_ordered members
  cases faulted with
  | @unknown m given unknown least =>
      obtain ⟨before, after, split⟩ := List.append_of_mem (perm.mem_iff.mpr given)
      refine named_unknown split (fun m' earlier unknown' => ?_) unknown
      rw [split, List.pairwise_append] at ordered
      -- The map goes by name, so a name in front of this one would be a smaller unknown one.
      have less : bytes m'.1 < bytes m.1 := ordered.2.2 m' earlier m List.mem_cons_self
      have listed : m' ∈ members := perm.mem_iff.mp (split ▸ List.mem_append_left _ earlier)
      rcases least m' listed unknown' with same | greater
      · exact List.lt_irrefl _ (same ▸ less)
      · exact List.lt_asymm less greater
  | refused known ordered' fitting refused =>
      -- One order by name is left for the members, whatever order they were given in.
      have same := List.Perm.eq_of_pairwise (fun m m' _ _ less greater => absurd greater (List.lt_asymm less))
        ordered (List.pairwise_map.mpr ordered') (perm.trans known.symm)
      rw [named_bound same, refused_built fitting refused]

theorem failed_faulted (distinct : (members.map Prod.fst).Nodup) (failed : ofNamed (gather members) = .error e) :
    Faulted members e := by
  have perm := gathered_perm distinct
  have ordered := gathered_ordered members
  rcases named_or_unknown (gather members).toList with ⟨bs, named⟩ | ⟨before, m, after, split, known, unknown⟩
  · rw [named] at perm ordered
    rw [named_bound named] at failed
    rcases fitting_or_refused bs with fitting | ⟨earlier, b, later, e', rfl, fitting, refused⟩
    · obtain ⟨t, built, -⟩ := fitting_built fitting
      cases failed.symm.trans built
    · obtain rfl := Except.error.inj (failed.symm.trans (refused_built fitting refused later))
      rw [List.pairwise_map] at ordered
      exact .refused perm ordered fitting refused
  · obtain rfl := Except.error.inj (failed.symm.trans (named_unknown split known unknown))
    rw [split] at perm ordered
    refine .unknown (perm.mem_iff.mp (by simp)) unknown fun m' listed unknown' => ?_
    rcases List.mem_append.mp (perm.mem_iff.mpr listed) with earlier | others
    · exact absurd unknown' (known m' earlier)
    · rcases List.mem_cons.mp others with rfl | later
      · exact .inl rfl
      · exact .inr (List.rel_of_pairwise_cons (List.pairwise_append.mp ordered).2.1 later)

end Table

-- The names are all looked up before a lexeme is bound, so an unknown name comes before every fault of a binding.
theorem members_reordered {members members' : List (String × String)} (distinct : (members.map Prod.fst).Nodup)
    (distinct' : (members'.map Prod.fst).Nodup) (same : ∀ m, m ∈ members' ↔ m ∈ members) {text text' : String}
    (lists : Json.Lists members text) (lists' : Json.Lists members' text') :
    Table.ofJson text' = Table.ofJson text ∧ (∀ e, Table.ofJson text = .error e ↔ Table.Faulted members e) ∧
      ∀ s : Session, s.tableOfJson text' = s.tableOfJson text ∧ (s.tableOfJson text).1 = Table.ofJson text ∧
        ∀ e, Table.ofJson text = .error e → (s.tableOfJson text).2 = s.log e.event := by
  have read : Table.ofJson text = Table.ofNamed (Table.gather members) :=
    Table.json_gathered ((Json.lists_iff members text).mpr lists)
  have read' : Table.ofJson text' = Table.ofNamed (Table.gather members') :=
    Table.json_gathered ((Json.lists_iff members' text').mpr lists')
  have alike : Table.ofJson text' = Table.ofJson text := by
    rw [read', read, Table.gathered_alike distinct distinct' same]
  refine ⟨alike, fun e => ?_, fun s => ?_⟩
  · rw [read]
    exact ⟨Table.failed_faulted distinct, Table.faulted_failed distinct⟩
  · have done : s.tableOfJson text = _ := s.table_from_source (.text text)
    have done' : s.tableOfJson text' = _ := s.table_from_source (.text text')
    refine ⟨?_, by rw [done]; rfl, fun e failed => ?_⟩
    · rw [done', done, Source.table, Source.table, alike]
      cases Table.ofJson text <;> rfl
    · rw [done, Source.table, failed]
      rfl

theorem members_reordered_faults :
    let unknown := [("STAR", "*"), ("WILDCARD", "?"), ("PLUS", "*"), ("ANYTHING", ".")]
    let text := (Table.textRecord unknown).write
    let text' := (Table.textRecord unknown.reverse).write
    let known := [("STAR", "*"), ("PLUS", "*")]
    let taken := "\x7b\"STAR\":\"*\",\"PLUS\":\"*\"\x7d"
    let taken' := "\t\x7b \"PLUS\" : \"\\u002A\",\n\"STAR\":\"*\" \x7d\n"
    Json.Lists unknown text ∧ Json.Lists unknown.reverse text' ∧
      Table.ofJson text' = .error (.unknownKind "ANYTHING") ∧ Table.Faulted unknown (.unknownKind "ANYTHING") ∧
      Json.Lists known taken ∧ Json.Lists known.reverse taken' ∧
      Table.ofJson taken' = .error (.duplicateLexeme "*" (.symbol .plus) (.symbol .star)) := by
  intro unknown text text' known taken taken'
  have lists : Json.Lists unknown text := Json.record_lists unknown
  have lists' : Json.Lists unknown.reverse text' := Json.record_lists unknown.reverse
  have listsTaken : Json.Lists known taken := by
    rw [show taken = (Table.textRecord known).write by decide +kernel]
    exact Json.record_lists known
  have listsTaken' : Json.Lists known.reverse taken' := by
    have none : Json.Blank [] := nofun
    have blank (c : Char) (blank : Json.Reader.isBlank c = true) : Json.Blank [c] := List.forall_mem_singleton.mpr blank
    have number : Json.Written '*' ['\\', 'u', '0', '0', '2', 'A'] := .number (by decide)
    have plus := Json.LaidMember.parts (m := ("PLUS", "*")) (blank ' ' rfl) (Json.string_written _) (blank ' ' rfl)
      (blank ' ' rfl) (.quotes (.cons number .nil)) none
    have star := Json.LaidMember.parts (m := ("STAR", "*")) (blank '\n' rfl) (Json.string_written _) none none
      (Json.string_written _) (blank ' ' rfl)
    refine Eq.mp (congrArg (Json.Lists known.reverse) ?_)
      (Json.Lists.some (blank '\t' rfl) (.more plus (.last star)) (blank '\n' rfl))
    decide +kernel
  obtain ⟨alike, failed, -⟩ := members_reordered (by decide) (by decide) (fun _ => List.mem_reverse) lists lists'
  obtain ⟨alikeTaken, -⟩ := members_reordered (by decide) (by decide) (fun _ => List.mem_reverse) listsTaken listsTaken'
  have unknownFirst : Table.ofJson text = .error (.unknownKind "ANYTHING") := by decide +kernel
  have takenFirst : Table.ofJson taken = .error (.duplicateLexeme "*" (.symbol .plus) (.symbol .star)) := by
    decide +kernel
  exact ⟨lists, lists', alike.trans unknownFirst, (failed _).mp unknownFirst, listsTaken, listsTaken',
    alikeTaken.trans takenFirst⟩

end PatternLexer
