import PatternLexer.Proofs.Log.Memory
import PatternLexer.Proofs.Log.Writing
import PatternLexer.Proofs.Session.Setup

set_option autoImplicit false

namespace PatternLexer

namespace Log

def Service.AdmitsAll (service : Service) : Prop :=
  ∀ level, service.limit.admits level = true ∧ service.sink.limit.admits level = true

namespace Service

variable {service : Service}

theorem admitted (admits : service.AdmitsAll) (e : Event) :
    service.log e = ({ service with sink := (service.sink.log e).1 }, service.sink.text e) := by
  obtain ⟨limit, own⟩ := admits e.level
  have prints := service.sink.log_prints e
  rw [own, if_pos rfl] at prints
  rw [log, shouldLog, limit, if_pos rfl, ← prints]

theorem admits_all_log (admits : service.AdmitsAll) (e : Event) : (service.log e).1.AdmitsAll := by
  obtain ⟨limit, own, -⟩ := service.log_keeps e
  intro level
  rw [limit, own]
  exact admits level

theorem admitted_held (admits : service.AdmitsAll) (e : Event) :
    (service.log e).1.memory?.map Memory.toList =
      (service.memory?.map Memory.toList).map fun before => (before ++ [e]).rtake Memory.capacity := by
  rw [admitted admits e]
  obtain ⟨sink, limit⟩ := service
  cases sink with
  | memory held => exact congrArg some (held.held_add e)
  | _ => rfl

end Service

end Log

namespace Session

variable {s : Session} {service : Log.Service}

def logAll (s : Session) (es : List Log.Event) : Session := es.foldl log s

def passing (s : Session) (ns : List Log.Notice) : List Log.Event :=
  (ns.filter fun n => !n.guarded || s.debugs).map (·.event)

theorem log_debugs (s : Session) (e : Log.Event) : (s.log e).debugs = s.debugs := by
  obtain ⟨preferences, environment, -⟩ := s.log_fields e
  rw [debugs, debugs, current, current, preferences, environment]

theorem publish_all_passing (s : Session) (ns : List Log.Notice) : s.publishAll ns = s.logAll (s.passing ns) := by
  induction ns generalizing s with
  | nil => rfl
  | cons n ns ih =>
      change (s.publish n).publishAll ns = _
      rw [ih, passing, passing, List.filter_cons, publish]
      cases n.guarded <;> cases debugs : s.debugs <;> simp [debugs, log_debugs, logAll]

-- The session has received `es`: its logger has printed them or keeps them, after what was there before.
structure Received (before : Session) (service : Log.Service) (es : List Log.Event) (after : Session) : Prop where
  logged : after.logged? = before.logged?.map fun held => (held ++ es).rtake Log.Memory.capacity
  printed : after.printed.toList = before.printed.toList ++ es.flatMap service.sink.text

theorem log_received (installed : s.logger = some service) (admits : service.AdmitsAll) (e : Log.Event) :
    s.Received service [e] (s.log e) := by
  have held := Log.Service.admitted_held admits e
  have written : (service.log e).2 = service.sink.text e := by rw [Log.Service.admitted admits]
  refine ⟨?_, ?_⟩
  · rw [logged?, logged?, (s.log_fields e).2.2, installed, Option.map_some, Option.bind_some, Option.bind_some, held]
  · rw [log, installed]
    simp [print, written]

theorem log_all_received (installed : s.logger = some service) (admits : service.AdmitsAll) (es : List Log.Event) :
    s.Received service es (s.logAll es) := by
  induction es generalizing s service with
  | nil =>
      refine ⟨?_, (List.append_nil _).symm⟩
      rw [logAll, List.foldl_nil, logged?, Option.map_map]
      refine Option.map_congr fun held _ => ?_
      rw [Function.comp_apply, List.append_nil, held.held_fits]
  | cons e es ih =>
      obtain ⟨logged, printed⟩ := log_received installed admits e
      have installed' : (s.log e).logger = some (service.log e).1 := by
        rw [(s.log_fields e).2.2, installed]
        rfl
      obtain ⟨logged', printed'⟩ := ih installed' (Log.Service.admits_all_log admits e)
      refine ⟨logged'.trans ?_, printed'.trans ?_⟩
      · rw [logged, Option.map_map]
        refine Option.map_congr fun held _ => ?_
        rw [Function.comp_apply, Log.last_append, List.append_assoc, List.singleton_append]
      · rw [printed, (service.log_keeps e).2.2, List.append_assoc, ← List.flatMap_append, List.singleton_append]

end Session

end PatternLexer
