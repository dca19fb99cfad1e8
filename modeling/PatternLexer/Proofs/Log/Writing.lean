import PatternLexer.Session.Basic

set_option autoImplicit false

namespace PatternLexer.Log

namespace Sink

def limit : Sink → Level
  | console limit => limit
  | structured limit => limit
  | memory _ => .debug

def text : Sink → Event → List Printed
  | console _, e => [.ofEvent e e.line]
  | structured _, e => [.ofEvent e e.jsonLine]
  | memory _, _ => []

theorem log_prints (s : Sink) (e : Event) :
    (s.log e).2 = if s.limit.admits e.level then s.text e else [] := by
  cases s with
  | console => rfl
  | structured => rfl
  | memory => simp [log, text]

theorem log_keeps (s : Sink) (e : Event) : (s.log e).1.limit = s.limit ∧ (s.log e).1.text = s.text := by
  cases s <;> exact ⟨rfl, rfl⟩

end Sink

inductive Request where
  | setLimit (limit : Level)
  | event (e : Event)
  | error (code : Code) (message : String)
  | success (code : Code) (message : String)
  | info (message : String)
  | debug (message : String)
deriving DecidableEq

namespace Request

def limit? : Request → Option Level
  | setLimit limit => some limit
  | _ => none

def event? : Request → Option Event
  | setLimit _ => none
  | event e => some e
  | error code message => some (.error code message)
  | success code message => some (.success code message)
  | info message => some (.info message)
  | debug message => some (.debug message)

end Request

def latestLimit (limit : Level) (rs : List Request) : Level := (rs.filterMap Request.limit?).getLastD limit

namespace Service

def handle (s : Service) : Request → Service × List Printed
  | .setLimit limit => (s.setLimit limit, [])
  | .event e => s.log e
  | .error code message => s.log (.error code message)
  | .success code message => s.log (.success code message)
  | .info message => s.log (.info message)
  | .debug message => s.log (.debug message)

def after (s : Service) (rs : List Request) : Service := rs.foldl (fun s r => (s.handle r).1) s

theorem log_prints (s : Service) (e : Event) :
    (s.log e).2 = if s.shouldLog e.level && s.sink.limit.admits e.level then s.sink.text e else [] := by
  rw [log]
  cases s.shouldLog e.level with
  | false => rfl
  | true => exact s.sink.log_prints e

theorem log_keeps (s : Service) (e : Event) :
    (s.log e).1.limit = s.limit ∧ (s.log e).1.sink.limit = s.sink.limit ∧
      (s.log e).1.sink.text = s.sink.text := by
  rw [log]
  cases s.shouldLog e.level with
  | false => exact ⟨rfl, rfl, rfl⟩
  | true => exact ⟨rfl, s.sink.log_keeps e⟩

theorem handle_keeps (s : Service) (r : Request) :
    (s.handle r).1.limit = r.limit?.getD s.limit ∧ (s.handle r).1.sink.limit = s.sink.limit ∧
      (s.handle r).1.sink.text = s.sink.text := by
  cases r with
  | setLimit limit => exact ⟨rfl, rfl, rfl⟩
  | _ => exact s.log_keeps _

theorem after_keeps (s : Service) (rs : List Request) :
    (s.after rs).limit = latestLimit s.limit rs ∧ (s.after rs).sink.limit = s.sink.limit ∧
      (s.after rs).sink.text = s.sink.text := by
  induction rs generalizing s with
  | nil => exact ⟨rfl, rfl, rfl⟩
  | cons r rs ih =>
      obtain ⟨limit, own, text⟩ := s.handle_keeps r
      obtain ⟨limit', own', text'⟩ := ih (s.handle r).1
      refine ⟨limit'.trans ?_, own'.trans own, text'.trans text⟩
      rw [limit, latestLimit, latestLimit, List.filterMap_cons]
      cases r.limit? with
      | none => rfl
      | some set => rw [List.getLastD_cons, Option.getD_some]

theorem handle_event (s : Service) {r : Request} {e : Event} (asked : r.event? = some e) :
    s.handle r = s.log e := by
  cases r with
  | setLimit => cases asked
  | _ =>
      obtain rfl := Option.some.inj asked
      rfl

end Service

theorem preferred_sink (p : LoggingPreferences) :
    p.service.sink.limit = p.limit ∧
      ∀ e, p.service.sink.text e = [.ofEvent e (if p.structured then e.jsonLine else e.line)] := by
  rw [LoggingPreferences.service]
  cases p.structured <;> exact ⟨rfl, fun _ => rfl⟩

-- Both limits start at one level, and only that of the service can be set.
theorem event_written_iff (p : LoggingPreferences) (before : List Request) {r : Request} {e : Event}
    (asked : r.event? = some e) :
    let s := p.service.after before
    let limit := latestLimit p.limit before
    s.limit = limit ∧ s.shouldLog e.level = limit.admits e.level ∧
      (s.handle r).2 = (if limit.admits e.level && p.limit.admits e.level then
        [.ofEvent e (if p.structured then e.jsonLine else e.line)] else []) ∧
      (((s.handle r).2 ≠ [] ↔ s.shouldLog e.level = true) ↔
        ¬ (limit.admits e.level = true ∧ p.limit.admits e.level = false)) := by
  intro s limit
  obtain ⟨latest, own, text⟩ := p.service.after_keeps before
  obtain ⟨start, printed⟩ := preferred_sink p
  have should : s.shouldLog e.level = limit.admits e.level := congrArg (Level.admits · e.level) latest
  have written : (s.handle r).2 = (if limit.admits e.level && p.limit.admits e.level then
      [.ofEvent e (if p.structured then e.jsonLine else e.line)] else []) := by
    rw [s.handle_event asked, s.log_prints, should, own, text, start, printed]
  refine ⟨latest, should, written, ?_⟩
  rw [written, should]
  cases limit.admits e.level <;> cases p.limit.admits e.level <;> simp

theorem event_written_iff_raised :
    let p : LoggingPreferences := {}
    let s := p.service.after [.setLimit .debug]
    (Request.debug "shown").event? = some (.debug "shown") ∧ s.shouldLog .debug = true ∧
      (s.handle (.debug "shown")).2 = [] ∧ ¬ ((s.handle (.debug "shown")).2 ≠ [] ↔ s.shouldLog .debug = true) := by
  intro p s
  have asked : (Request.debug "shown").event? = some (.debug "shown") := rfl
  obtain ⟨-, should, written, honoured⟩ := event_written_iff p [.setLimit .debug] asked
  exact ⟨asked, should, written, fun agree => honoured.mp agree ⟨rfl, rfl⟩⟩

end PatternLexer.Log
