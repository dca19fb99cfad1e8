import Mathlib.Data.List.Basic
import Mathlib.Data.List.Induction
import PatternLexer.Proofs.Lexer.Returned

set_option autoImplicit false

namespace PatternLexer

def Kind.Leads (number : Kind → Nat) (k : Kind) : Prop :=
  0 < number k ∧ ∀ j, number j < number k ∨ number j = number k ∧ k.index ≤ j.index

theorem Kind.index_inj {j k : Kind} (same : j.index = k.index) : j = k :=
  (List.idxOf_inj (Kind.mem_all j)).mp same

namespace Usage

variable {u v : Usage} {a b c : Kind × Nat}

-- Two entries can each be no greater than the other only if they have one kind.
def Ahead (a b : Kind × Nat) : Prop := b.2 < a.2 ∨ b.2 = a.2 ∧ a.1.index ≤ b.1.index

theorem order_greater_iff (a b : Kind × Nat) :
    order a b = .gt ↔ b.2 < a.2 ∨ b.2 = a.2 ∧ a.1.index < b.1.index := by
  have kinds : compare b.1 a.1 = compare b.1.index a.1.index := rfl
  rw [order, kinds, Ordering.then_eq_gt, Nat.compare_eq_gt, Nat.compare_eq_eq, Nat.compare_eq_gt, eq_comm (a := a.2)]

theorem ahead_refl (a : Kind × Nat) : Ahead a a := .inr ⟨rfl, Nat.le_refl _⟩

theorem ahead_trans (first : Ahead a b) (second : Ahead b c) : Ahead a c := by
  unfold Ahead at *
  omega

theorem ahead_kinds (first : Ahead a b) (second : Ahead b a) : a.1 = b.1 := by
  have same : a.1.index = b.1.index := by
    unfold Ahead at *
    omega
  exact Kind.index_inj same

theorem lead_ahead (b a : Kind × Nat) : ∃ c, lead (some b) a = some c ∧ (c = b ∨ c = a) ∧ Ahead c b ∧ Ahead c a := by
  by_cases greater : order b a = .gt
  · refine ⟨b, by rw [lead, if_pos greater], .inl rfl, ahead_refl b, ?_⟩
    rw [order_greater_iff] at greater
    exact greater.imp id (And.imp id Nat.le_of_lt)
  · refine ⟨a, by rw [lead, if_neg greater], .inr rfl, ?_, ahead_refl a⟩
    rw [order_greater_iff] at greater
    unfold Ahead
    omega

theorem lead_all (u : Usage) (b : Kind × Nat) :
    ∃ c, u.foldl lead (some b) = some c ∧ c ∈ b :: u ∧ ∀ d ∈ b :: u, Ahead c d := by
  induction u generalizing b with
  | nil => exact ⟨b, rfl, List.mem_cons_self, List.forall_mem_singleton.mpr (ahead_refl b)⟩
  | cons a u ih =>
      obtain ⟨c, kept, one, behind, behind'⟩ := lead_ahead b a
      -- The greater of two entries goes on as the best one, and what it beats stays behind it.
      obtain ⟨d, last, member, all⟩ := ih c
      have best : Ahead d c := all c List.mem_cons_self
      refine ⟨d, by rw [List.foldl_cons, kept, last], ?_, ?_⟩
      · rcases List.mem_cons.mp member with rfl | later
        · rcases one with rfl | rfl <;> simp
        · simp [later]
      · intro e entry
        rcases List.mem_cons.mp entry with rfl | entry
        · exact ahead_trans best behind
        · rcases List.mem_cons.mp entry with rfl | later
          · exact ahead_trans best behind'
          · exact all e (List.mem_cons_of_mem c later)

theorem most_used_none_iff (u : Usage) : u.mostUsed? = none ↔ u = [] := by
  cases u with
  | nil => simp [mostUsed?]
  | cons b u =>
      obtain ⟨c, last, -⟩ := lead_all u b
      simp [mostUsed?, lead, last]

theorem most_used_iff (u : Usage) (k : Kind) :
    u.mostUsed? = some k ↔ ∃ n, (k, n) ∈ u ∧ ∀ d ∈ u, Ahead (k, n) d := by
  cases u with
  | nil => simp [mostUsed?]
  | cons b u =>
      obtain ⟨⟨j, m⟩, last, member, all⟩ := lead_all u b
      have found : mostUsed? (b :: u) = some j := by rw [mostUsed?, List.foldl_cons, lead, last, Option.map_some]
      rw [found, Option.some.injEq]
      constructor
      · rintro rfl
        exact ⟨m, member, all⟩
      · rintro ⟨n, member', all'⟩
        exact ahead_kinds (all _ member') (all' _ member)

theorem most_used_perm (perm : v.Perm u) : v.mostUsed? = u.mostUsed? := by
  refine Option.ext fun k => ?_
  rw [most_used_iff, most_used_iff]
  simp only [perm.mem_iff]

theorem entry_count (distinct : (u.map (·.1)).Nodup) {k : Kind} {n : Nat} (member : (k, n) ∈ u) : u.count k = n := by
  induction u with
  | nil => cases member
  | cons c u ih =>
      obtain ⟨i, m⟩ := c
      obtain ⟨fresh, rest⟩ := List.nodup_cons.mp distinct
      rw [count_cons]
      rcases List.mem_cons.mp member with first | later
      · obtain ⟨rfl, rfl⟩ := Prod.mk.inj first
        rw [if_pos rfl]
      · have other : i ≠ k := by
          rintro rfl
          exact fresh (List.mem_map.mpr ⟨_, later, rfl⟩)
        rw [if_neg other, ih rest later]

section Tallies

variable {number : Kind → Nat}

theorem tallies_entry_iff (tallies : u.Tallies number) (k : Kind) (n : Nat) :
    (k, n) ∈ u ↔ 0 < number k ∧ n = number k := by
  constructor
  · intro member
    refine ⟨(tallies.present k).mp (List.mem_map_of_mem member), ?_⟩
    rw [← tallies.counts k, entry_count tallies.distinct member]
  · rintro ⟨counted, rfl⟩
    obtain ⟨⟨j, n⟩, member, rfl⟩ := List.mem_map.mp ((tallies.present k).mpr counted)
    rw [← tallies.counts j, entry_count tallies.distinct member]
    exact member

theorem tallies_none_iff (tallies : u.Tallies number) : u.mostUsed? = none ↔ ∀ k, number k = 0 := by
  rw [most_used_none_iff]
  constructor
  · rintro rfl k
    exact Nat.eq_zero_of_not_pos fun counted => absurd ((tallies.present k).mpr counted) List.not_mem_nil
  · intro none
    refine List.eq_nil_iff_forall_not_mem.mpr fun ⟨k, n⟩ member => ?_
    exact absurd (none k) (Nat.ne_of_gt ((tallies_entry_iff tallies k n).mp member).1)

theorem tallies_leads_iff (tallies : u.Tallies number) (k : Kind) : u.mostUsed? = some k ↔ k.Leads number := by
  rw [most_used_iff]
  constructor
  · rintro ⟨n, member, all⟩
    obtain ⟨counted, rfl⟩ := (tallies_entry_iff tallies k n).mp member
    refine ⟨counted, fun j => ?_⟩
    -- A kind that has no entry has the number zero.
    by_cases used : 0 < number j
    · exact all (j, number j) ((tallies_entry_iff tallies j _).mpr ⟨used, rfl⟩)
    · exact .inl (by omega)
  · rintro ⟨counted, all⟩
    refine ⟨number k, (tallies_entry_iff tallies k _).mpr ⟨counted, rfl⟩, fun ⟨j, n⟩ member => ?_⟩
    obtain ⟨-, rfl⟩ := (tallies_entry_iff tallies j n).mp member
    exact all j

end Tallies

end Usage

namespace Metrics

def recordAll (came : List (LexingPreferences × Token)) : Metrics := came.foldl (fun m x => m.record x.1 x.2) {}

theorem record_all_tally (came : List (LexingPreferences × Token)) : (recordAll came).Tally came := by
  induction came using List.reverseRecOn with
  | nil => exact tally_nothing
  | append_singleton came x ih =>
      rw [recordAll, List.foldl_append]
      exact tally_record ih x.1 x.2

theorem tracked_tallies {came : List (LexingPreferences × Token)} (on : ∀ x ∈ came, x.1.trackKinds = true) :
    (recordAll came).usage.Tallies fun k => came.countP fun x => x.2.kind? = some k := by
  have kinds := (record_all_tally came).kinds
  have same (k : Kind) :
      (came.countP fun x => tracked x.1 x.2 = some k) = came.countP fun x => x.2.kind? = some k :=
    List.countP_congr fun x member => by rw [tracked, if_pos (on x member)]
  simpa only [same] using kinds

end Metrics

theorem most_used_order_free {came : List (LexingPreferences × Token)} (on : ∀ x ∈ came, x.1.trackKinds = true) :
    let used := (Metrics.recordAll came).usage
    let number (k : Kind) : Nat := came.countP fun x => x.2.kind? = some k
    (used.mostUsed? = none ↔ ∀ x ∈ came, x.2.kind? = none) ∧
      (∀ k, used.mostUsed? = some k ↔ k.Leads number) ∧
      (∀ order : Usage, order.Perm used → order.mostUsed? = used.mostUsed?) ∧
      ∀ came' : List (LexingPreferences × Token), came'.Perm came →
        (Metrics.recordAll came').usage.mostUsed? = used.mostUsed? := by
  intro used number
  have tallies : used.Tallies number := Metrics.tracked_tallies on
  refine ⟨?_, Usage.tallies_leads_iff tallies, fun order => Usage.most_used_perm, fun came' perm => ?_⟩
  · rw [Usage.tallies_none_iff tallies]
    constructor
    · intro none x member
      refine Option.eq_none_iff_forall_ne_some.mpr fun k kind => ?_
      have counted := List.countP_eq_zero.mp (none k) x member
      exact counted (decide_eq_true kind)
    · intro none k
      refine List.countP_eq_zero.mpr fun x member kind => ?_
      cases (none x member).symm.trans (of_decide_eq_true kind)
  · have tallies' : (Metrics.recordAll came').usage.Tallies number := by
      have kinds := Metrics.tracked_tallies fun x member => on x (perm.mem_iff.mp member)
      simpa only [number, perm.countP_eq] using kinds
    refine Option.ext fun k => ?_
    rw [Usage.tallies_leads_iff tallies', Usage.tallies_leads_iff tallies]

theorem most_used_order_free_tied :
    let p : LexingPreferences := { trackKinds := true }
    let came : List (LexingPreferences × Token) :=
      [(p, .plain (.literal .integer) "1"), (p, .plain (.literal .char) "a"), (p, .plain (.symbol .dot) "."),
        (p, .plain (.literal .integer) "2"), (p, .plain (.symbol .dot) "."), (p, .finish)]
    (∀ x ∈ came, x.1.trackKinds = true) ∧ (Metrics.recordAll came).usage.mostUsed? = some (.symbol .dot) ∧
      Kind.Leads (fun k => came.countP fun x => x.2.kind? = some k) (.symbol .dot) ∧
      Usage.mostUsed? (Metrics.recordAll came).usage.reverse = some (.symbol .dot) ∧
      (Metrics.recordAll came.reverse).usage.mostUsed? = some (.symbol .dot) := by
  intro p came
  have on : ∀ x ∈ came, x.1.trackKinds = true := by decide +kernel
  have dot : (Metrics.recordAll came).usage.mostUsed? = some (.symbol .dot) := by decide +kernel
  obtain ⟨-, leads, histogram, recordings⟩ := most_used_order_free on
  exact ⟨on, dot, (leads _).mp dot, (histogram _ (List.reverse_perm _)).trans dot,
    (recordings _ (List.reverse_perm _)).trans dot⟩

end PatternLexer
