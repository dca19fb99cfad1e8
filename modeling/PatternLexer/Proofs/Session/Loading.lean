import PatternLexer.Proofs.Session.Trace

set_option autoImplicit false

namespace PatternLexer

inductive Source where
  | bindings (bs : List Binding)
  | text (json : String)
  | file (path : String)

namespace Source

def isFile : Source → Bool
  | file _ => true
  | _ => false

def table (files : Files) : Source → Except LoadError Table
  | bindings bs => Table.ofBindings bs
  | text json => Table.ofJson json
  | file path =>
    match files.read? path with
    | some json => Table.ofJson json
    | none => .error (.unreadableFile path)

def loadedEvents : Source → Table → List Log.Event
  | file path, t => [Table.loadedEvent path t]
  | _, _ => []

def notices (source : Source) : Except LoadError Table → List Log.Notice
  | .ok t => Table.builtNotice t :: (source.loadedEvents t).map .always
  | .error e => [.always e.event]

def trace (debugs : Bool) (source : Source) : Except LoadError Table → List Log.Event
  | .ok t => (if debugs then [(Table.builtNotice t).event] else []) ++ source.loadedEvents t
  | .error e => [e.event]

end Source

def Session.tableFrom (s : Session) : Source → Except LoadError Table × Session
  | .bindings bs => s.tableOfBindings bs
  | .text json => s.tableOfJson json
  | .file path => s.loadTable path

namespace Table

theorem bind_each_reports (t : Table) (bs : List Binding) : t.bindEach bs = .report (t.bindAll bs) := by
  induction bs generalizing t with
  | nil => rfl
  | cons b bs ih =>
      rw [bindEach, bindAll]
      cases t.bind b with
      | error e => rfl
      | ok t => exact ih t

theorem build_reports (bs : List Binding) : build bs = (Attempt.report (ofBindings bs)).noting builtNotice := by
  rw [build, bind_each_reports, ofBindings]

theorem resolve_each_reports (ms : List (String × String)) : resolveEach ms = .report (bindings ms) := by
  induction ms with
  | nil => rfl
  | cons m ms ih =>
      obtain ⟨name, lexeme⟩ := m
      rw [resolveEach, bindings, kindNamed, ih]
      cases Kind.ofName? name with
      | none => rfl
      | some kind => cases bindings ms <;> rfl

theorem build_json_reports (text : String) :
    buildJson text = (Attempt.report (ofJson text)).noting builtNotice := by
  rw [buildJson, readNamed, ofJson]
  cases (Json.parse? text).bind named? with
  | none => rfl
  | some n =>
      change (resolveEach n.toList).andThen build = _
      dsimp only
      rw [resolve_each_reports, ofNamed]
      cases bindings n.toList with
      | error e => rfl
      | ok bs => exact build_reports bs

theorem build_file_reports (files : Files) (path : String) :
    buildFile files path = (((Attempt.report ((Source.file path).table files)).noting builtNotice).noting fun t =>
      .always (loadedEvent path t)) := by
  rw [buildFile, readFile, Source.table]
  cases files.read? path with
  | none => rfl
  | some text => exact congrArg (Attempt.noting · _) (build_json_reports text)

theorem noted_reports (source : Source) (r : Except LoadError Table) (other : source.isFile = false) :
    (Attempt.report r).noting builtNotice = ⟨r, source.notices r⟩ := by
  cases source with
  | file path => cases other
  | _ => cases r <;> rfl

end Table

namespace Session

variable {s : Session}

theorem passing_cons (s : Session) (n : Log.Notice) (ns : List Log.Notice) :
    s.passing (n :: ns) = (if !n.guarded || s.debugs then [n.event] else []) ++ s.passing ns := by
  rw [passing, passing, List.filter_cons]
  split <;> rfl

theorem passing_always (s : Session) (es : List Log.Event) : s.passing (es.map .always) = es := by
  induction es with
  | nil => rfl
  | cons e es ih => rw [List.map_cons, passing_cons, ih]; rfl

theorem passing_notices (s : Session) (source : Source) (r : Except LoadError Table) :
    s.passing (source.notices r) = source.trace s.debugs r := by
  cases r with
  | error e => exact s.passing_always [e.event]
  | ok t => rw [Source.notices, passing_cons, passing_always]; rfl

theorem table_from_source (s : Session) (source : Source) :
    s.tableFrom source = (source.table s.files, s.logAll (source.trace s.debugs (source.table s.files))) := by
  have attempt (x : Attempt Table) (reports : x = ⟨source.table s.files, source.notices (source.table s.files)⟩) :
      s.conclude x = (source.table s.files, s.logAll (source.trace s.debugs (source.table s.files))) := by
    rw [conclude, reports, publish_all_passing, passing_notices]
  cases source with
  | bindings bs => exact attempt _ ((Table.build_reports bs).trans (Table.noted_reports (.bindings bs) _ rfl))
  | text json => exact attempt _ ((Table.build_json_reports json).trans (Table.noted_reports (.text json) _ rfl))
  | file path =>
      refine attempt _ ((Table.build_file_reports s.files path).trans ?_)
      cases (Source.file path).table s.files <;> rfl

end Session

theorem LoadError.event_coded (e : LoadError) : e.event.level = .error ∧ e.event.code = e.code := by
  have report := Log.Event.message_with_details .error e.code e.stated e.details
  change (Log.Event.error e.code e.stated).withDetails e.details = _ at report
  rw [event, report]
  dsimp only
  split <;> exact ⟨rfl, rfl⟩

theorem LoadError.code_failed (e : LoadError) : e.code ≠ .tableLoaded := by
  cases e <;> (rw [code]; decide)

theorem Table.loaded_event_fields (path : String) (t : Table) :
    (loadedEvent path t).isError = false ∧ (loadedEvent path t).code = .tableLoaded ∧
      (loadedEvent path t).context["entries"]? = some (toString t.size) := by
  refine ⟨rfl, rfl, ?_⟩
  change ((Std.ExtTreeMap.insert ∅ "path" path).insert "entries" (toString t.size) : Log.Context)["entries"]? = _
  rw [Std.ExtTreeMap.getElem?_insert_self]

theorem Table.built_event_fields (t : Table) :
    (builtNotice t).event.isError = false ∧ (builtNotice t).event.code ≠ .tableLoaded :=
  ⟨rfl, show Log.Code.anyDebug ≠ .tableLoaded by decide⟩

namespace Source

theorem failed_trace (debugs : Bool) (source : Source) (e : LoadError) :
    (∃ event, (source.trace debugs (.error e)).filter Log.Event.isError = [event] ∧ event.code = e.code) ∧
      (source.trace debugs (.error e)).countP (fun event => event.code = .tableLoaded) = 0 := by
  obtain ⟨level, code⟩ := e.event_coded
  refine ⟨⟨e.event, ?_, code⟩, ?_⟩
  · simp [trace, Log.Event.isError, level]
  · simp [trace, code, e.code_failed]

theorem made_trace (debugs : Bool) (source : Source) (t : Table) :
    let trace := source.trace debugs (.ok t)
    trace.countP Log.Event.isError = 0 ∧
      trace.countP (fun event => event.code = .tableLoaded) = (if source.isFile then 1 else 0) ∧
      ∀ event ∈ trace, event.code = .tableLoaded → event.context["entries"]? = some (toString t.size) := by
  intro trace
  obtain ⟨silent, other⟩ := t.built_event_fields
  cases source with
  | file path =>
      obtain ⟨silent', code, entries⟩ := Table.loaded_event_fields path t
      cases debugs <;> simp [trace, Source.trace, loadedEvents, isFile, silent, silent', other, code, entries]
  | _ => cases debugs <;> simp [trace, Source.trace, loadedEvents, isFile, silent, other]

end Source

-- An error is logged by the step that finds it and no other, and a table is announced only without one.
theorem table_reported {s : Session} {service : Log.Service} (installed : s.logger = some service)
    (admits : service.AdmitsAll) (source : Source) :
    let done := s.tableFrom source
    ∃ trace, s.Received service trace done.2 ∧
      (∀ e, done.1 = .error e →
        (∃ event, trace.filter Log.Event.isError = [event] ∧ event.code = e.code) ∧
        trace.countP (fun event => event.code = .tableLoaded) = 0) ∧
      ∀ t, done.1 = .ok t →
        trace.countP Log.Event.isError = 0 ∧
        trace.countP (fun event => event.code = .tableLoaded) = (if source.isFile then 1 else 0) ∧
        ∀ event ∈ trace, event.code = .tableLoaded → event.context["entries"]? = some (toString t.size) := by
  intro done
  have same : done = _ := s.table_from_source source
  rw [same]
  refine ⟨_, Session.log_all_received installed admits _, fun e failed => ?_, fun t made => ?_⟩
  · dsimp only at failed
    rw [failed]
    exact source.failed_trace s.debugs e
  · dsimp only at made
    rw [made]
    exact source.made_trace s.debugs t

theorem table_reported_files :
    let service := Log.Service.inMemory .debug
    let files := Files.ofList [("twice.json", .text "\x7b\"STAR\": \"*\", \"PLUS\": \"*\"\x7d"),
      ("good.json", .text "\x7b\"STAR\": \"*\", \"PLUS\": \"+\"\x7d")]
    let s : Session := { files, logger := some service }
    s.logger = some service ∧ service.AdmitsAll ∧
      (∃ trace, s.Received service trace (s.tableFrom (.file "twice.json")).2 ∧
        ∃ event, trace.filter Log.Event.isError = [event] ∧ event.code = .duplicateLexeme) ∧
      (∃ trace, s.Received service trace (s.tableFrom (.file "good.json")).2 ∧
        trace.countP Log.Event.isError = 0 ∧ trace.countP (fun event => event.code = .tableLoaded) = 1) ∧
      ∃ trace, s.Received service trace (s.tableFrom (.file "none.json")).2 ∧
        ∃ event, trace.filter Log.Event.isError = [event] ∧ event.code = .unreadableFile := by
  intro service files s
  have installed : s.logger = some service := rfl
  have admits : service.AdmitsAll := fun level => by cases level <;> decide
  have twice : (s.tableFrom (.file "twice.json")).1 =
      .error (.duplicateLexeme "*" (.symbol .plus) (.symbol .star)) := by decide +kernel
  have good : ∃ t, (s.tableFrom (.file "good.json")).1 = .ok t :=
    ⟨(({} : Table).insert ⟨.symbol .plus, "+"⟩).insert ⟨.symbol .star, "*"⟩, by decide +kernel⟩
  have absent : (s.tableFrom (.file "none.json")).1 = .error (.unreadableFile "none.json") := by decide +kernel
  obtain ⟨t, good⟩ := good
  obtain ⟨first, received, refused, -⟩ := table_reported installed admits (.file "twice.json")
  obtain ⟨second, received', -, made⟩ := table_reported installed admits (.file "good.json")
  obtain ⟨third, received'', refused', -⟩ := table_reported installed admits (.file "none.json")
  obtain ⟨silent, loaded, -⟩ := made t good
  exact ⟨installed, admits, ⟨first, received, (refused _ twice).1⟩, ⟨second, received', silent, loaded⟩,
    ⟨third, received'', (refused' _ absent).1⟩⟩

end PatternLexer
