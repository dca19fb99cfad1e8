import Mathlib.Data.List.Induction
import Mathlib.Data.List.Nodup
import PatternLexer.Proofs.Table.Lawful

set_option autoImplicit false

namespace PatternLexer

structure Fitting (bs : List Binding) : Prop where
  sound : ∀ b ∈ bs, b.Sound
  distinct : (bs.map Binding.lexeme).Nodup

namespace Binding

-- A cause is given only where those listed before it do not apply.
inductive Refused (earlier : List Binding) (b : Binding) : LoadError → Prop where
  | reserved (literal : b.kind.isLiteral = true) : Refused earlier b (.reservedKind b.kind)
  | empty (bindable : b.kind.isLiteral = false) (empty : b.lexeme = "") : Refused earlier b (.emptyLexeme b.kind)
  | shadowing (bindable : b.kind.isLiteral = false) (backslash : b.lexeme = "\\") (direct : b.kind.isDirect = true) :
      Refused earlier b (.backslashShadowed b.kind)
  | letter (nonempty : b.lexeme ≠ "") (shorthand : b.kind.isShorthand = true)
      (other : ∀ c : Char, b.lexeme = String.singleton c → c.isLower = false) :
      Refused earlier b (.invalidShorthand b.kind b.lexeme)
  | taken {first : Binding} (sound : b.Sound) (before : first ∈ earlier) (same : first.lexeme = b.lexeme) :
      Refused earlier b (.duplicateLexeme b.lexeme first.kind b.kind)

variable {earlier : List Binding} {b : Binding}

theorem shorthand_bindable {k : Kind} (shorthand : k.isShorthand = true) : k.isLiteral = false ∧ k.isDirect = false := by
  cases k with
  | shorthand s => exact ⟨rfl, rfl⟩
  | _ => cases shorthand

theorem sound_or_refused (earlier : List Binding) (b : Binding) : b.Sound ∨ ∃ e, Refused earlier b e := by
  cases bindable : b.kind.isLiteral with
  | true => exact .inr ⟨_, .reserved bindable⟩
  | false =>
      by_cases empty : b.lexeme = ""
      · exact .inr ⟨_, .empty bindable empty⟩
      · by_cases shadowing : b.lexeme = "\\" ∧ b.kind.isDirect = true
        · exact .inr ⟨_, .shadowing bindable shadowing.1 shadowing.2⟩
        · by_cases letter : ∃ c : Char, b.lexeme = String.singleton c ∧ c.isLower = true
          · refine .inl ⟨bindable, empty, fun backslash => ?_, fun _ => letter⟩
            exact Bool.eq_false_iff.mpr fun direct => shadowing ⟨backslash, direct⟩
          · by_cases shorthand : b.kind.isShorthand = true
            · refine .inr ⟨_, .letter empty shorthand fun c single => ?_⟩
              exact Bool.eq_false_iff.mpr fun lower => letter ⟨c, single, lower⟩
            · refine .inl ⟨bindable, empty, fun backslash => ?_, fun small => absurd small shorthand⟩
              exact Bool.eq_false_iff.mpr fun direct => shadowing ⟨backslash, direct⟩

theorem fits_or_refused (earlier : List Binding) (b : Binding) :
    (b.Sound ∧ ∀ first ∈ earlier, first.lexeme ≠ b.lexeme) ∨ ∃ e, Refused earlier b e := by
  rcases sound_or_refused earlier b with sound | refused
  · by_cases taken : ∃ first ∈ earlier, first.lexeme = b.lexeme
    · obtain ⟨first, before, same⟩ := taken
      exact .inr ⟨_, .taken sound before same⟩
    · exact .inl ⟨sound, fun first before same => taken ⟨first, before, same⟩⟩
  · exact .inr refused

theorem refused_fault {e : LoadError} (refused : Refused earlier b e) :
    b.fault? = some e ∨ b.fault? = none ∧ ∃ first ∈ earlier, first.lexeme = b.lexeme ∧
      e = .duplicateLexeme b.lexeme first.kind b.kind := by
  cases refused with
  | reserved literal => exact .inl (by rw [fault?, if_pos literal])
  | empty bindable empty => exact .inl (by simp [fault?, bindable, empty])
  | shadowing bindable backslash direct => exact .inl (by simp [fault?, bindable, backslash, direct])
  | letter nonempty shorthand other =>
      obtain ⟨bindable, indirect⟩ := shorthand_bindable shorthand
      have small : isShorthandLexeme b.lexeme = false := by
        rw [Bool.eq_false_iff]
        intro small
        obtain ⟨c, single, lower⟩ := (shorthand_lexeme_iff b.lexeme).mp small
        cases lower.symm.trans (other c single)
      exact .inl (by simp [fault?, bindable, nonempty, indirect, shorthand, small])
  | @taken first sound before same => exact .inr ⟨(fault_none_iff b).mpr sound, first, before, same, rfl⟩

end Binding

open Binding

variable {bs earlier later : List Binding} {b : Binding} {e : LoadError}

theorem fitting_next (fitting : Fitting (earlier ++ b :: later)) :
    b.Sound ∧ ∀ first ∈ earlier, first.lexeme ≠ b.lexeme := by
  refine ⟨fitting.sound b (by simp), fun first before same => ?_⟩
  have distinct := fitting.distinct
  rw [List.map_append, List.nodup_append] at distinct
  exact distinct.2.2 first.lexeme (List.mem_map_of_mem before) b.lexeme (by simp) same

theorem fitting_snoc (fitting : Fitting earlier) (sound : b.Sound) (new : ∀ first ∈ earlier, first.lexeme ≠ b.lexeme) :
    Fitting (earlier ++ [b]) where
  sound b' member := by
    rcases List.mem_append.mp member with before | last
    · exact fitting.sound b' before
    · rw [List.mem_singleton.mp last]
      exact sound
  distinct := by
    rw [List.map_append, List.nodup_append]
    refine ⟨fitting.distinct, List.nodup_singleton _, fun l before l' last => ?_⟩
    obtain ⟨first, member, rfl⟩ := List.mem_map.mp before
    rw [List.mem_singleton.mp last]
    exact new first member

theorem fitting_perm {bs' : List Binding} (fitting : Fitting bs) (perm : bs'.Perm bs) : Fitting bs' where
  sound b member := fitting.sound b (perm.mem_iff.mp member)
  distinct := (perm.map Binding.lexeme).nodup_iff.mpr fitting.distinct

theorem fitting_or_refused (bs : List Binding) :
    Fitting bs ∨ ∃ earlier b later e, bs = earlier ++ b :: later ∧ Fitting earlier ∧ Refused earlier b e := by
  induction bs using List.reverseRecOn with
  | nil => exact .inl ⟨nofun, List.nodup_nil⟩
  | append_singleton bs b ih =>
      rcases ih with fitting | ⟨earlier, first, later, e, rfl, fitting, refused⟩
      · rcases fits_or_refused bs b with ⟨sound, new⟩ | ⟨e, refused⟩
        · exact .inl (fitting_snoc fitting sound new)
        · exact .inr ⟨bs, b, [], e, rfl, fitting, refused⟩
      · exact .inr ⟨earlier, first, later ++ [b], e, by simp, fitting, refused⟩

namespace Table

variable {t : Table}

def Records (t : Table) (bs : List Binding) : Prop := ∀ lexeme k, t.kindOf? lexeme = some k ↔ Binding.mk k lexeme ∈ bs

theorem records_nothing : ({} : Table).Records [] := by
  intro lexeme k
  simp [kind_of_empty]

theorem records_unbound (records : t.Records earlier) (new : ∀ first ∈ earlier, first.lexeme ≠ b.lexeme) :
    t.kindOf? b.lexeme = none := by
  cases bound : t.kindOf? b.lexeme with
  | none => rfl
  | some k => exact absurd rfl (new ⟨k, b.lexeme⟩ ((records b.lexeme k).mp bound))

theorem records_insert (records : t.Records earlier) (new : ∀ first ∈ earlier, first.lexeme ≠ b.lexeme) :
    (t.insert b).Records (earlier ++ [b]) := by
  intro lexeme k
  rw [kind_of_insert, List.mem_append, List.mem_singleton]
  by_cases same : b.lexeme = lexeme
  · subst same
    have other : Binding.mk k b.lexeme ∉ earlier := fun member => new _ member rfl
    rw [if_pos rfl, Option.some.injEq, eq_comm]
    exact ⟨fun kind => .inr (by rw [kind]), fun member => congrArg Binding.kind (member.resolve_left other)⟩
  · rw [if_neg same, records lexeme k]
    exact ⟨.inl, fun member => member.resolve_right fun last => same (congrArg Binding.lexeme last).symm⟩

theorem bind_fitting (records : t.Records earlier) (sound : b.Sound)
    (new : ∀ first ∈ earlier, first.lexeme ≠ b.lexeme) : t.bind b = .ok (t.insert b) := by
  rw [bind, (fault_none_iff b).mpr sound, records_unbound records new]

theorem bind_refused (records : t.Records earlier) (refused : Refused earlier b e) : t.bind b = .error e := by
  rcases refused_fault refused with fault | ⟨free, first, before, same, rfl⟩
  · rw [bind, fault]
  · have bound : t.kindOf? b.lexeme = some first.kind := by
      rw [← same]
      exact (records first.lexeme first.kind).mpr before
    rw [bind, free, bound]

theorem bind_all_fitting (records : t.Records earlier) (bs : List Binding) (fitting : Fitting (earlier ++ bs))
    (later : List Binding) : ∃ t' : Table, t.bindAll (bs ++ later) = t'.bindAll later ∧ t'.Records (earlier ++ bs) := by
  induction bs generalizing t earlier with
  | nil => exact ⟨t, rfl, by rwa [List.append_nil]⟩
  | cons b bs ih =>
      obtain ⟨sound, new⟩ := fitting_next fitting
      have still : Fitting ((earlier ++ [b]) ++ bs) := by rwa [List.append_assoc]
      obtain ⟨t', onward, records'⟩ := ih (records_insert records new) still
      rw [List.append_assoc] at records'
      refine ⟨t', ?_, records'⟩
      rw [List.cons_append, bindAll, bind_fitting records sound new]
      exact onward

theorem fitting_built (fitting : Fitting bs) : ∃ t, ofBindings bs = .ok t ∧ t.Records bs := by
  obtain ⟨t, built, records⟩ := bind_all_fitting records_nothing bs fitting []
  rw [List.append_nil] at built
  exact ⟨t, built, records⟩

theorem refused_built (fitting : Fitting earlier) (refused : Refused earlier b e) (later : List Binding) :
    ofBindings (earlier ++ b :: later) = .error e := by
  obtain ⟨t, onward, records⟩ := bind_all_fitting records_nothing earlier fitting (b :: later)
  rw [ofBindings, onward, bindAll, bind_refused records refused]

theorem built_fitting {t : Table} (accepted : ofBindings bs = .ok t) : Fitting bs ∧ t.Records bs := by
  rcases fitting_or_refused bs with fitting | ⟨earlier, b, later, e, rfl, fitting, refused⟩
  · obtain ⟨t', built, records⟩ := fitting_built fitting
    obtain rfl := Except.ok.inj (accepted.symm.trans built)
    exact ⟨fitting, records⟩
  · cases accepted.symm.trans (refused_built fitting refused later)

theorem records_unique {t' : Table} (records : t.Records bs) (records' : t'.Records bs) : t = t' := by
  have same : t.kinds = t'.kinds := Std.ExtTreeMap.ext_getElem? fun lexeme =>
    Option.ext fun k => (records lexeme k).trans (records' lexeme k).symm
  obtain ⟨kinds⟩ := t
  exact congrArg Table.mk same

def firstLexeme? (order : List (String × Kind)) (k : Kind) : Option String :=
  (order.find? fun b => b.2 == k).map (·.1)

-- The order in which a table is gone through may decide which lexeme of a kind is shown, but not whether one is.
structure Holds (t : Table) (bs : List Binding) : Prop where
  kinds : ∀ lexeme k, t.kindOf? lexeme = some k ↔ Binding.mk k lexeme ∈ bs
  contains : ∀ lexeme, t.contains lexeme = true ↔ ∃ b ∈ bs, b.lexeme = lexeme
  size : t.size = bs.length
  listed : t.toList.Perm (bs.map fun b => (b.lexeme, b.kind))
  lexemes : ∀ k lexeme, t.lexemeOf? k = some lexeme → t.kindOf? lexeme = some k
  unnamed : ∀ k, t.lexemeOf? k = none ↔ ∀ b ∈ bs, b.kind ≠ k
  ordered : ∀ order : List (String × Kind), order.Perm t.toList → ∀ k,
    (firstLexeme? order k = none ↔ t.lexemeOf? k = none) ∧
      ∀ lexeme, firstLexeme? order k = some lexeme → t.kindOf? lexeme = some k

theorem listed_iff (t : Table) (lexeme : String) (k : Kind) : (lexeme, k) ∈ t.toList ↔ t.kindOf? lexeme = some k :=
  Std.ExtTreeMap.mem_toList_iff_getElem?_eq_some

theorem list_distinct (t : Table) : t.toList.Nodup := by
  have keys : (t.toList.map Prod.fst).Nodup := by
    rw [toList, Std.ExtTreeMap.map_fst_toList_eq_keys]
    exact Std.ExtTreeMap.nodup_keys
  exact List.Nodup.of_map Prod.fst keys

theorem records_listed (records : t.Records bs) (distinct : (bs.map Binding.lexeme).Nodup) :
    t.toList.Perm (bs.map fun b => (b.lexeme, b.kind)) := by
  have pairs : (bs.map fun b => (b.lexeme, b.kind)).Nodup := by
    refine List.Nodup.of_map Prod.fst ?_
    rwa [List.map_map]
  refine (List.perm_ext_iff_of_nodup (list_distinct t) pairs).mpr fun ⟨lexeme, k⟩ => ?_
  rw [listed_iff, records lexeme k, List.mem_map]
  constructor
  · intro member
    exact ⟨_, member, rfl⟩
  · rintro ⟨b, member, same⟩
    cases same
    exact member

theorem first_lexeme_bound {order : List (String × Kind)} (same : order.Perm t.toList) {k : Kind} {lexeme : String}
    (found : firstLexeme? order k = some lexeme) : t.kindOf? lexeme = some k := by
  obtain ⟨⟨lexeme', k'⟩, first, rfl⟩ := Option.map_eq_some_iff.mp found
  have kind : k' = k := by simpa using List.find?_some first
  rw [← kind]
  exact (listed_iff t lexeme' k').mp (same.mem_iff.mp (List.mem_of_find?_eq_some first))

theorem first_lexeme_none_iff {order : List (String × Kind)} (same : order.Perm t.toList) (k : Kind) :
    firstLexeme? order k = none ↔ ∀ lexeme, t.kindOf? lexeme ≠ some k := by
  rw [firstLexeme?, Option.map_eq_none_iff, List.find?_eq_none]
  constructor
  · intro none lexeme bound
    exact none _ (same.mem_iff.mpr ((listed_iff t lexeme k).mpr bound)) (by simp)
  · rintro unbound ⟨lexeme, k'⟩ member kind
    obtain rfl : k' = k := by simpa using kind
    exact unbound lexeme ((listed_iff t lexeme k').mp (same.mem_iff.mp member))

theorem lexeme_of_none_iff (t : Table) (k : Kind) : t.lexemeOf? k = none ↔ ∀ lexeme, t.kindOf? lexeme ≠ some k :=
  first_lexeme_none_iff (.refl t.toList) k

theorem records_holds (records : t.Records bs) (distinct : (bs.map Binding.lexeme).Nodup) : t.Holds bs where
  kinds := records
  contains lexeme := by
    rw [contains, Std.ExtTreeMap.contains_eq_isSome_getElem?, Option.isSome_iff_exists]
    constructor
    · rintro ⟨k, bound⟩
      exact ⟨_, (records lexeme k).mp bound, rfl⟩
    · rintro ⟨b, member, rfl⟩
      exact ⟨b.kind, (records b.lexeme b.kind).mpr member⟩
  size := by
    rw [← List.length_map fun b : Binding => (b.lexeme, b.kind), ← (records_listed records distinct).length_eq]
    exact Std.ExtTreeMap.length_toList.symm
  listed := records_listed records distinct
  lexemes _ _ := first_lexeme_bound (.refl t.toList)
  unnamed k := by
    rw [lexeme_of_none_iff]
    constructor
    · rintro unbound b member rfl
      exact unbound b.lexeme ((records b.lexeme b.kind).mpr member)
    · intro other lexeme bound
      exact other _ ((records lexeme k).mp bound) rfl
  ordered order same k := by
    rw [first_lexeme_none_iff same k, lexeme_of_none_iff]
    exact ⟨.rfl, fun lexeme => first_lexeme_bound same⟩

end Table

theorem of_bindings_exact (bs : List Binding) :
    ((∃ t, Table.ofBindings bs = .ok t) ↔ (∀ b ∈ bs, b.Sound) ∧ (bs.map Binding.lexeme).Nodup) ∧
    (∀ t, Table.ofBindings bs = .ok t →
      t.Holds bs ∧ ∀ bs' : List Binding, bs'.Perm bs → Table.ofBindings bs' = .ok t) ∧
    ∀ e, Table.ofBindings bs = .error e ↔
      ∃ earlier b later, bs = earlier ++ b :: later ∧ Fitting earlier ∧ Refused earlier b e := by
  refine ⟨⟨?_, ?_⟩, fun t accepted => ?_, fun e => ⟨fun failed => ?_, ?_⟩⟩
  · rintro ⟨t, accepted⟩
    obtain ⟨⟨sound, distinct⟩, -⟩ := Table.built_fitting accepted
    exact ⟨sound, distinct⟩
  · rintro ⟨sound, distinct⟩
    obtain ⟨t, built, -⟩ := Table.fitting_built ⟨sound, distinct⟩
    exact ⟨t, built⟩
  · obtain ⟨fitting, records⟩ := Table.built_fitting accepted
    refine ⟨Table.records_holds records fitting.distinct, fun bs' perm => ?_⟩
    obtain ⟨t', built, records'⟩ := Table.fitting_built (fitting_perm fitting perm)
    have same : t'.Records bs := fun lexeme k => (records' lexeme k).trans perm.mem_iff
    rw [built, Table.records_unique same records]
  · rcases fitting_or_refused bs with fitting | ⟨earlier, b, later, e', rfl, fitting, refused⟩
    · obtain ⟨t, built, -⟩ := Table.fitting_built fitting
      cases failed.symm.trans built
    · obtain rfl := Except.error.inj (failed.symm.trans (Table.refused_built fitting refused later))
      exact ⟨earlier, b, later, rfl, fitting, refused⟩
  · rintro ⟨earlier, b, later, rfl, fitting, refused⟩
    exact Table.refused_built fitting refused later

theorem of_bindings_exact_twice :
    let star : Binding := ⟨.symbol .star, "*"⟩
    let bs : List Binding := [star, ⟨.shorthand .digit, "d"⟩, ⟨.symbol .star, "x"⟩]
    let t := ((({} : Table).insert star).insert ⟨.shorthand .digit, "d"⟩).insert ⟨.symbol .star, "x"⟩
    Table.ofBindings bs = .ok t ∧ t.Holds bs ∧ bs.reverse.Perm bs ∧ Table.ofBindings bs.reverse = .ok t ∧
      (∀ b ∈ bs, b.Sound) ∧ (bs.map Binding.lexeme).Nodup ∧
      Table.ofBindings [star, ⟨.symbol .plus, "*"⟩, ⟨.literal .char, ""⟩] =
        .error (.duplicateLexeme "*" (.symbol .star) (.symbol .plus)) := by
  intro star bs t
  have accepted : Table.ofBindings bs = .ok t := by decide +kernel
  obtain ⟨fit, made, -⟩ := of_bindings_exact bs
  obtain ⟨holds, ordered⟩ := made t accepted
  obtain ⟨sound, distinct⟩ := fit.mp ⟨t, accepted⟩
  have first : star.Sound := sound star List.mem_cons_self
  have second : (Binding.mk (.symbol .plus) "*").Sound := ⟨rfl, first.nonempty, fun back => absurd back (by decide), nofun⟩
  have fitting : Fitting [star] := ⟨List.forall_mem_singleton.mpr first, List.nodup_singleton _⟩
  refine ⟨accepted, holds, List.reverse_perm bs, ordered _ (List.reverse_perm bs), sound, distinct, ?_⟩
  exact ((of_bindings_exact _).2.2 _).mpr ⟨[star], _, _, rfl, fitting, .taken second List.mem_cons_self rfl⟩

end PatternLexer
