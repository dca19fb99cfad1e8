import PatternLexer.Session.Setup

set_option autoImplicit false

namespace PatternLexer

inductive SetupCall where
  | start (p : LoggingPreferences)
  | installPreferences (p : LoggingPreferences)
  | installLogger (service : Log.Service)

def SetupCall.preferences? : SetupCall → Option LoggingPreferences
  | start p => some p
  | installPreferences p => some p
  | installLogger _ => none

namespace Session

def setUp (s : Session) : SetupCall → Session
  | .start p => (s.start p).2
  | .installPreferences p => (s.installPreferences p).2
  | .installLogger service => (s.installLogger service).2

def setUpAll (s : Session) (calls : List SetupCall) : Session := calls.foldl setUp s

def handed (e : SetupError) (service : Log.Service) : Log.Service :=
  (service.log (.error .initializationFailure e.message)).1

variable {s : Session}

theorem log_fields (s : Session) (e : Log.Event) :
    (s.log e).preferences = s.preferences ∧ (s.log e).environment = s.environment ∧
      (s.log e).logger = s.logger.map fun service => (service.log e).1 := by
  rw [log]
  cases logger : s.logger with
  | none => simp [logger]
  | some service => exact ⟨rfl, rfl, rfl⟩

theorem log_or_print_fields (s : Session) (e : SetupError) :
    (s.logOrPrint .initializationFailure e.message).preferences = s.preferences ∧
      (s.logOrPrint .initializationFailure e.message).environment = s.environment ∧
      (s.logOrPrint .initializationFailure e.message).logger = s.logger.map (handed e) := by
  rw [logOrPrint]
  cases logger : s.logger with
  | none => exact ⟨rfl, rfl, logger⟩
  | some service =>
      have kept := log_fields s (.error .initializationFailure e.message)
      rwa [logger] at kept

theorem limits_in_order : limitsFault? = none := by decide

theorem codes_described : undescribed? = none := by decide +kernel

inductive Starts (s : Session) (p : LoggingPreferences) : Option SetupError × Session → Prop where
  | preferencesInstalled {q : LoggingPreferences} (installed : s.preferences = some q) :
      Starts s p (some .preferencesInstalled,
        s.logOrPrint .initializationFailure SetupError.preferencesInstalled.message)
  | loggerInstalled {service : Log.Service} (free : s.preferences = none) (installed : s.logger = some service) :
      Starts s p (some .loggerInstalled,
        { s with preferences := some p }.logOrPrint .initializationFailure SetupError.loggerInstalled.message)
  | started (free : s.preferences = none) (silent : s.logger = none) :
      Starts s p (none,
        { s with preferences := some p, logger := some p.service }.log (startedEvent p.service))

theorem start_cases (s : Session) (p : LoggingPreferences) : Starts s p (s.start p) := by
  cases preferences : s.preferences with
  | some q =>
      have result : s.start p = (some .preferencesInstalled,
          s.logOrPrint .initializationFailure SetupError.preferencesInstalled.message) := by
        simp [start, install, limits_in_order, installPreferences, preferences]
      rw [result]
      exact .preferencesInstalled preferences
  | none =>
      cases logger : s.logger with
      | some service =>
          have result : s.start p = (some .loggerInstalled,
              { s with preferences := some p }.logOrPrint .initializationFailure SetupError.loggerInstalled.message) := by
            simp [start, install, limits_in_order, installPreferences, preferences, startLogger, installLogger, logger]
          rw [result]
          exact .loggerInstalled preferences logger
      | none =>
          have result : s.start p = (none,
              { s with preferences := some p, logger := some p.service }.log (startedEvent p.service)) := by
            simp [start, install, limits_in_order, installPreferences, preferences, startLogger, installLogger, logger,
              codes_described, current]
          rw [result]
          exact .started preferences logger

theorem set_up_preferences (s : Session) (c : SetupCall) :
    (s.setUp c).preferences = s.preferences.or c.preferences? := by
  cases c with
  | start p =>
      have cases := start_cases s p
      rw [setUp]
      generalize s.start p = result at cases
      cases cases with
      | preferencesInstalled installed => simp [(log_or_print_fields _ _).1, installed]
      | loggerInstalled free installed => simp [(log_or_print_fields _ _).1, free, SetupCall.preferences?]
      | started free silent => simp [(log_fields _ _).1, free, SetupCall.preferences?]
  | installPreferences p =>
      cases preferences : s.preferences <;> simp [setUp, installPreferences, preferences, SetupCall.preferences?]
  | installLogger service =>
      cases logger : s.logger <;> simp [setUp, installLogger, logger, SetupCall.preferences?]

theorem set_up_all_preferences (s : Session) (calls : List SetupCall) :
    (s.setUpAll calls).preferences = s.preferences.or (calls.findSome? SetupCall.preferences?) := by
  induction calls generalizing s with
  | nil => exact (Option.or_none).symm
  | cons c calls ih =>
      -- The first call that brings preferences is this one, or it is among those after it.
      have brought : (c :: calls).findSome? SetupCall.preferences? =
          c.preferences?.or (calls.findSome? SetupCall.preferences?) := by
        rw [List.findSome?_cons]
        cases c.preferences? <;> rfl
      calc ((s.setUp c).setUpAll calls).preferences
          = (s.setUp c).preferences.or (calls.findSome? SetupCall.preferences?) := ih (s.setUp c)
        _ = s.preferences.or ((c :: calls).findSome? SetupCall.preferences?) := by
            rw [set_up_preferences, Option.or_assoc, brought]

theorem handed_same (e : SetupError) (service : Log.Service) :
    (handed e service).name = service.name ∧ (handed e service).limit = service.limit := by
  obtain ⟨sink, limit⟩ := service
  rw [handed, Log.Service.log]
  split
  · cases sink <;> exact ⟨rfl, rfl⟩
  · exact ⟨rfl, rfl⟩

theorem failed_start_preferences {p : LoggingPreferences} {e : SetupError} (failed : (s.start p).1 = some e) :
    (s.start p).2.preferences = s.preferences.or (some p) ∧ (s.start p).2.environment = s.environment ∧
      (s.start p).2.logger = s.logger.map (handed e) := by
  have cases := start_cases s p
  generalize s.start p = result at cases failed
  cases cases with
  | preferencesInstalled installed =>
      obtain rfl := Option.some.inj failed
      obtain ⟨preferences, environment, logger⟩ := log_or_print_fields s .preferencesInstalled
      exact ⟨by rw [preferences, installed]; rfl, environment, logger⟩
  | loggerInstalled free installed =>
      obtain rfl := Option.some.inj failed
      obtain ⟨preferences, environment, logger⟩ :=
        log_or_print_fields { s with preferences := some p } .loggerInstalled
      exact ⟨by rw [preferences, free]; rfl, environment, logger⟩
  | started => cases failed

end Session

-- The first preferences that any call brings stay, those of a start that then fails among them.
theorem failed_start_keeps_iff {s : Session} (fresh : s.preferences = none) (calls : List SetupCall)
    (p : LoggingPreferences) {e : SetupError} (failed : ((s.setUpAll calls).start p).1 = some e) :
    let before := s.setUpAll calls
    let after := (before.start p).2
    after.logger = before.logger.map (Session.handed e) ∧
      after.logger.map (fun service => (service.name, service.limit)) =
        before.logger.map (fun service => (service.name, service.limit)) ∧
      (after.preferences = before.preferences ↔ ∃ c ∈ calls, c.preferences?.isSome = true) ∧
      ((∃ c ∈ calls, c.preferences?.isSome = true) →
        after.current = before.current ∧ after.debugs = before.debugs) ∧
      ((∀ c ∈ calls, c.preferences? = none) →
        before.preferences = none ∧ after.preferences = some p ∧ after.current = p) := by
  intro before after
  obtain ⟨preferences, environment, logger⟩ := Session.failed_start_preferences failed
  have installed : before.preferences = calls.findSome? SetupCall.preferences? := by
    rw [Session.set_up_all_preferences, fresh]
    rfl
  have brought : before.preferences.isSome = true ↔ ∃ c ∈ calls, c.preferences?.isSome = true := by
    rw [installed, List.findSome?_isSome_iff]
  have same : after.preferences = before.preferences ↔ before.preferences.isSome = true := by
    rw [preferences]
    cases before.preferences <;> simp
  refine ⟨logger, ?_, same.trans brought, fun brings => ?_, fun bringsNone => ?_⟩
  · rw [logger, Option.map_map]
    refine Option.map_congr fun service _ => ?_
    exact Prod.ext (Session.handed_same e service).1 (Session.handed_same e service).2
  · have current : after.current = before.current := by
      rw [Session.current, Session.current, same.mpr (brought.mpr brings), environment]
    exact ⟨current, by rw [Session.debugs, Session.debugs, current]⟩
  · have free : before.preferences = none := by rwa [installed, List.findSome?_eq_none_iff]
    have left : after.preferences = some p := preferences.trans (by rw [free]; rfl)
    exact ⟨free, left, by rw [Session.current, left]; rfl⟩

theorem failed_start_keeps_iff_logger_first :
    let s : Session := {}
    let calls : List SetupCall := [.installLogger (.inMemory .info)]
    let p : LoggingPreferences := { limit := .debug }
    let before := s.setUpAll calls
    let after := (before.start p).2
    (before.start p).1 = some .loggerInstalled ∧ before.preferences = none ∧ after.preferences = some p ∧
      before.debugs = false ∧ after.debugs = true := by
  intro s calls p before after
  have failed : (before.start p).1 = some .loggerInstalled := by decide +kernel
  obtain ⟨-, -, -, -, left⟩ := failed_start_keeps_iff (s := s) rfl calls p failed
  obtain ⟨free, installed, current⟩ := left (by decide)
  exact ⟨failed, free, installed, by decide +kernel, by rw [Session.debugs, current]; rfl⟩

end PatternLexer
