import PatternLexer.Proofs.Log.Memory
import PatternLexer.Proofs.Log.Writing

set_option autoImplicit false

namespace PatternLexer.Log

inductive MemoryCall where
  | request (r : Request)
  | direct (e : Event)
  | clear
deriving DecidableEq

namespace MemoryCall

def request? : MemoryCall → Option Request
  | request r => some r
  | _ => none

def accepted? (limit : Level) : MemoryCall → Option Event
  | request r => r.event?.filter fun e => limit.admits e.level
  | direct e => some e
  | clear => none

end MemoryCall

namespace Service

def perform (s : Service) : MemoryCall → Service
  | .request r => (s.handle r).1
  | .direct e => s.mapMemory (·.add e)
  | .clear => s.mapMemory Memory.clear

def performAll (s : Service) (calls : List MemoryCall) : Service := calls.foldl perform s

def moments (s : Service) : List MemoryCall → List (Service × MemoryCall)
  | [] => []
  | c :: calls => (s, c) :: (s.perform c).moments calls

-- The events brought by the calls after the last one that clears the memory.
def sinceClear (s : Service) (calls : List MemoryCall) : List Event :=
  ((s.moments calls).rtakeWhile fun m => m.2 ≠ .clear).filterMap fun m => m.2.accepted? m.1.limit

-- What the memory held at first counts until it is cleared.
def brought (held : Memory) (s : Service) (calls : List MemoryCall) : List Event :=
  (if .clear ∈ calls then [] else held.toList) ++ s.sinceClear calls

theorem log_held (held : Memory) (limit : Level) (e : Event) :
    ∃ held' : Memory, ((Service.mk (.memory held) limit).log e).1 = ⟨.memory held', limit⟩ ∧
      held'.toList =
        (held.toList ++ ((some e).filter fun e => limit.admits e.level).toList).rtake Memory.capacity := by
  rw [log, shouldLog]
  cases admits : limit.admits e.level with
  | true => exact ⟨held.add e, rfl, by simp [Option.filter, admits, held.held_add]⟩
  | false => exact ⟨held, rfl, by simp [Option.filter, admits, held.held_fits]⟩

theorem perform_held (held : Memory) (limit : Level) (c : MemoryCall) :
    ∃ held' : Memory,
      (Service.mk (.memory held) limit).perform c = ⟨.memory held', (c.request?.bind Request.limit?).getD limit⟩ ∧
      held'.toList =
        (if c = .clear then [] else held.toList ++ (c.accepted? limit).toList).rtake Memory.capacity := by
  cases c with
  | clear => exact ⟨{}, rfl, by simp [Memory.toList]⟩
  | direct e => exact ⟨held.add e, rfl, held.held_add e⟩
  | request r =>
      cases r with
      | setLimit limit' => exact ⟨held, rfl, by simp [MemoryCall.accepted?, Request.event?, held.held_fits]⟩
      | _ => exact log_held held limit _

theorem moments_concat (s : Service) (calls : List MemoryCall) (c : MemoryCall) :
    s.moments (calls ++ [c]) = s.moments calls ++ [(s.performAll calls, c)] := by
  induction calls generalizing s with
  | nil => rfl
  | cons d calls ih => exact congrArg ((s, d) :: ·) (ih (s.perform d))

theorem brought_concat (held : Memory) (s : Service) (calls : List MemoryCall) (c : MemoryCall) :
    brought held s (calls ++ [c]) =
      if c = .clear then [] else brought held s calls ++ (c.accepted? (s.performAll calls).limit).toList := by
  rw [brought, sinceClear, moments_concat, List.rtakeWhile_concat]
  by_cases clears : c = .clear
  · simp [clears]
  · cases accepted : c.accepted? (s.performAll calls).limit <;>
      simp [clears, Ne.symm clears, accepted, brought, sinceClear]

theorem perform_all_concat (s : Service) (calls : List MemoryCall) (c : MemoryCall) :
    s.performAll (calls ++ [c]) = (s.performAll calls).perform c := List.foldl_concat ..

theorem latest_limit_concat (limit : Level) (calls : List MemoryCall) (c : MemoryCall) :
    latestLimit limit ((calls ++ [c]).filterMap MemoryCall.request?) =
      (c.request?.bind Request.limit?).getD (latestLimit limit (calls.filterMap MemoryCall.request?)) := by
  rw [latestLimit, latestLimit, List.filterMap_append]
  cases c with
  | request r => cases set : r.limit? <;> simp [MemoryCall.request?, set]
  | _ => rw [List.filterMap_cons_none rfl, List.filterMap_nil, List.append_nil]; rfl

theorem perform_all_held (held : Memory) (limit : Level) (calls : List MemoryCall) :
    ∃ held' : Memory,
      (Service.mk (.memory held) limit).performAll calls =
        ⟨.memory held', latestLimit limit (calls.filterMap MemoryCall.request?)⟩ ∧
      held'.toList = (brought held ⟨.memory held, limit⟩ calls).rtake Memory.capacity := by
  -- What a call brings depends on the limit that all before it have left, so the last call is taken off.
  induction calls using List.reverseRecOn with
  | nil => exact ⟨held, rfl, by simp [brought, sinceClear, moments, held.held_fits]⟩
  | append_singleton calls c ih =>
      obtain ⟨before, reached, holds⟩ := ih
      obtain ⟨after, performed, holds'⟩ :=
        perform_held before (latestLimit limit (calls.filterMap MemoryCall.request?)) c
      refine ⟨after, ?_, ?_⟩
      · rw [perform_all_concat, reached, performed, latest_limit_concat]
      · rw [holds', holds, brought_concat, reached]
        by_cases clears : c = .clear
        · rw [if_pos clears, if_pos clears]
        · rw [if_neg clears, if_neg clears, last_append]

end Service

theorem memory_holds_last (held : Memory) (limit : Level) (calls : List MemoryCall) :
    let s := (Service.mk (.memory held) limit).performAll calls
    let events := Service.brought held ⟨.memory held, limit⟩ calls
    let last := events.rtake Memory.capacity
    s.limit = latestLimit limit (calls.filterMap MemoryCall.request?) ∧
      ∃ memory, s.memory? = some memory ∧
        memory.toList = last ∧ last.length = min events.length Memory.capacity ∧ memory.count = last.length ∧
        memory.errors = last.filter (fun e => e.level = .error) ∧
        (∀ c, memory.withCode c = last.filter fun e => e.code = c) ∧
        (∀ c, memory.hasError c = true ↔ ∃ e ∈ last, e.level = .error ∧ e.code = c) ∧
        ∀ c, memory.hasSuccess c = true ↔ ∃ e ∈ last, e.level = .info ∧ e.code = c := by
  intro s events last
  obtain ⟨memory, reached, holds⟩ := Service.perform_all_held held limit calls
  have holds : memory.toList = last := holds
  refine ⟨congrArg Service.limit reached, memory, congrArg Service.memory? reached, holds, ?_, ?_, ?_, ?_, ?_, ?_⟩
  · simp only [last, List.rtake, List.length_drop]
    omega
  · rw [memory.held_count, holds]
  · rw [Memory.errors, holds]
    rfl
  · intro c
    rw [Memory.withCode, holds]
    rfl
  · intro c
    simp [Memory.hasError, holds, Event.isError]
  · intro c
    simp [Memory.hasSuccess, holds, Event.isInfo]

end PatternLexer.Log
