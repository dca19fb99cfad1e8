import PatternLexer.Settings.Document

set_option autoImplicit false

namespace PatternLexer

namespace Environment

inductive FlagWord : String → Bool → Prop where
  | yes : FlagWord "true" true
  | no : FlagWord "false" false

def levelWords : Log.Level → List String
  | .error => ["error", "0"]
  | .warning => ["warning", "warn", "1"]
  | .info => ["info", "2"]
  | .debug => ["debug", "3"]

def LevelWord (word : String) (l : Log.Level) : Prop := word.toLower ∈ levelWords l

theorem flag_word_iff (word : String) (b : Bool) : flag? word = some b ↔ FlagWord word b := by
  constructor
  · intro found
    unfold flag? at found
    split at found
    · rename_i yes
      obtain rfl := Option.some.inj found
      exact yes ▸ .yes
    · split at found
      · rename_i no
        obtain rfl := Option.some.inj found
        exact no ▸ .no
      · cases found
  · rintro ⟨⟩ <;> rfl

theorem level_word_iff (word : String) (l : Log.Level) : level? word = some l ↔ LevelWord word l := by
  rw [level?, LevelWord]
  generalize word.toLower = lowered
  constructor
  · intro found
    repeat' split at found
    all_goals cases found
    all_goals simpa [levelWords] using ‹_›
  · intro listed
    cases l
    all_goals
      simp only [levelWords, List.mem_cons, List.not_mem_nil, or_false] at listed
      rcases listed with rfl | rfl | rfl <;> rfl

end Environment

namespace Settings

inductive FlagGiven : Toml.Value → Bool → Prop where
  | boolean (b : Bool) : FlagGiven (.boolean b) b

inductive LevelGiven : Toml.Value → Log.Level → Prop where
  | word (l : Log.Level) : LevelGiven (.string l.word) l
  | table (l : Log.Level) (outer inner : Toml.Origin) : LevelGiven (.table outer [(l.word, .table inner [])]) l
  | list (l : Log.Level) (outer : Toml.Origin) : LevelGiven (.table outer [(l.word, .array [])]) l

theorem flag_given_iff (v : Toml.Value) (b : Bool) : flag? v = some b ↔ FlagGiven v b := by
  constructor
  · intro read
    unfold flag? at read
    split at read
    · obtain rfl := Option.some.inj read
      exact .boolean _
    · cases read
  · rintro ⟨⟩
    rfl

theorem of_word_iff (word : String) (l : Log.Level) : Log.Level.ofWord? word = some l ↔ word = l.word := by
  constructor
  · intro found
    rw [Log.Level.ofWord?] at found
    have same := List.find?_some found
    exact (eq_of_beq same).symm
  · rintro rfl
    cases l <;> rfl

theorem level_given_iff (v : Toml.Value) (l : Log.Level) : level? v = some l ↔ LevelGiven v l := by
  constructor
  · intro read
    unfold level? at read
    split at read
    · exact (of_word_iff _ l).mp read ▸ .word l
    · exact (of_word_iff _ l).mp read ▸ .table l _ _
    · exact (of_word_iff _ l).mp read ▸ .list l _
    · cases read
  · rintro ⟨⟩ <;> exact (of_word_iff _ l).mpr rfl

def given? (es : Toml.Entries) (part key : String) : Option Toml.Value :=
  match es.get? part with
  | some (.table _ entries) => Toml.Entries.get? entries key
  | _ => none

def InTables (es : Toml.Entries) : Prop :=
  ∀ part ∈ ["lexical", "logging"], es.get? part = none ∨ ∃ origin entries, es.get? part = some (.table origin entries)

theorem fields_given {es : Toml.Entries} {part : String} (keys : List String)
    (table : es.get? part = none ∨ ∃ origin entries, es.get? part = some (.table origin entries)) :
    fields? keys (es.get? part) = some (keys.map fun key => given? es part key) := by
  unfold given?
  rcases table with missing | ⟨origin, entries, present⟩
  · rw [missing]
    rfl
  · rw [present]
    rfl

end Settings

-- Where a document gives a preference and what it may say there, its word in the environment and what that may be,
-- and what the preference is by nature.
structure Preference (α : Type) where
  part : String
  key : String
  Given : Toml.Value → α → Prop
  word : Environment → Option String
  Word : String → α → Prop
  nature : α
  value : Settings → α

namespace Preference

variable {α : Type} (p : Preference α) (env : Environment) (es : Toml.Entries)

def given? : Option Toml.Value := Settings.given? es p.part p.key

def Default (x : α) : Prop :=
  match p.word env with
  | some w => p.Word w x ∨ (∀ y, ¬ p.Word w y) ∧ x = p.nature
  | none => x = p.nature

def Settled (x : α) : Prop :=
  match p.given? es with
  | some v => p.Given v x
  | none => p.Default env x

def Mistyped : Prop := ∃ v, p.given? es = some v ∧ ∀ x, ¬ p.Given v x

theorem settled_exists_iff : (∃ x, p.Settled env es x) ↔ ¬ p.Mistyped es := by
  unfold Settled Mistyped
  cases p.given? es with
  | some v => simp
  | none =>
      refine iff_of_true ?_ nofun
      -- Without a value in the document there is always something to fall back on.
      unfold Default
      cases p.word env with
      | none => exact ⟨p.nature, rfl⟩
      | some w =>
          by_cases known : ∃ y, p.Word w y
          · exact known.imp fun _ => .inl
          · exact ⟨p.nature, .inr ⟨not_exists.mp known, rfl⟩⟩

variable {p env es} {read? : Toml.Value → Option α} {word? : String → Option α} {x : α}

theorem default_iff (words : ∀ w x, word? w = some x ↔ p.Word w x) :
    ((p.word env).bind word?).getD p.nature = x ↔ p.Default env x := by
  unfold Default
  cases p.word env with
  | none => exact eq_comm
  | some w =>
      simp only [← words]
      cases found : word? w <;> simp [found, eq_comm]

theorem field_iff (values : ∀ v x, read? v = some x ↔ p.Given v x) (words : ∀ w x, word? w = some x ↔ p.Word w x) :
    Settings.field? read? (((p.word env).bind word?).getD p.nature) (p.given? es) = some x ↔ p.Settled env es x := by
  unfold Settled
  cases p.given? es with
  | some v => exact values v x
  | none => rw [Settings.field?, Option.some.injEq, default_iff words]

def flag (part key : String) (word : Environment → Option String) (nature : Bool) (value : Settings → Bool) :
    Preference Bool :=
  ⟨part, key, Settings.FlagGiven, word, Environment.FlagWord, nature, value⟩

def detailedMetrics : Preference Bool :=
  flag "lexical" "collect_detailed_metrics" (·.detailedMetrics) true (·.lexing.detailedMetrics)

def trackKinds : Preference Bool := flag "lexical" "track_kind_usage" (·.trackKinds) false (·.lexing.trackKinds)

def positionInErrors : Preference Bool :=
  flag "lexical" "include_position_in_errors" (·.positionInErrors) true (·.lexing.positionInErrors)

def structured : Preference Bool := flag "logging" "use_structured_logging" (·.structured) false (·.logging.structured)

def flags : List (Preference Bool) := [detailedMetrics, trackKinds, positionInErrors, structured]

def limit : Preference Log.Level :=
  ⟨"logging", "min_log_level", Settings.LevelGiven, (·.limit), Environment.LevelWord, .info, (·.logging.limit)⟩

end Preference

namespace Settings

open Preference

variable {env : Environment} {es : Toml.Entries}

theorem flag_settled (part key : String) (word : Environment → Option String) (nature : Bool) (value : Settings → Bool)
    (b : Bool) :
    field? flag? (((word env).bind Environment.flag?).getD nature) (given? es part key) = some b ↔
      (flag part key word nature value).Settled env es b :=
  field_iff (p := flag part key word nature value) flag_given_iff Environment.flag_word_iff

theorem limit_settled (l : Log.Level) :
    field? level? env.logging.limit (given? es "logging" "min_log_level") = some l ↔ limit.Settled env es l :=
  field_iff (p := limit) level_given_iff Environment.level_word_iff

theorem lexing_settled (tables : InTables es) (q : LexingPreferences) :
    lexing? env.lexing (es.get? "lexical") = some q ↔ detailedMetrics.Settled env es q.detailedMetrics ∧
      trackKinds.Settled env es q.trackKinds ∧ positionInErrors.Settled env es q.positionInErrors := by
  unfold detailedMetrics trackKinds positionInErrors
  rw [lexing?, fields_given _ (tables "lexical" (by simp)), ← flag_settled, ← flag_settled, ← flag_settled]
  simp only [List.map_cons, List.map_nil, Environment.lexing]
  split
  · rename_i detailed track position
    rw [detailed, track, position]
    cases q
    simp
  · rename_i refused
    refine iff_of_false nofun fun ⟨detailed, track, position⟩ => ?_
    exact refused _ _ _ detailed track position

theorem logging_settled (tables : InTables es) (q : LoggingPreferences) :
    logging? env.logging (es.get? "logging") = some q ↔
      structured.Settled env es q.structured ∧ limit.Settled env es q.limit := by
  unfold structured
  rw [logging?, fields_given _ (tables "logging" (by simp)), ← flag_settled, ← limit_settled]
  simp only [List.map_cons, List.map_nil, Environment.logging]
  split
  · rename_i structured limit
    rw [structured, limit]
    cases q
    simp
  · rename_i refused
    refine iff_of_false nofun fun ⟨structured, limit⟩ => ?_
    exact refused _ _ structured limit

theorem entries_iff (s : Settings) :
    ofEntries? env es = some s ↔ lexing? env.lexing (es.get? "lexical") = some s.lexing ∧
      logging? env.logging (es.get? "logging") = some s.logging := by
  rw [ofEntries?]
  split
  · rename_i lexing logging
    rw [lexing, logging]
    cases s
    simp
  · rename_i refused
    refine iff_of_false nofun fun ⟨lexing, logging⟩ => ?_
    exact refused _ _ lexing logging

theorem entries_settled (tables : InTables es) (s : Settings) :
    ofEntries? env es = some s ↔
      (∀ p ∈ flags, p.Settled env es (p.value s)) ∧ limit.Settled env es (limit.value s) := by
  rw [entries_iff, lexing_settled tables, logging_settled tables]
  simp only [flags, List.forall_mem_cons, List.not_mem_nil, false_imp_iff, implies_true, and_true, and_assoc]
  rfl

theorem settled_somehow (env : Environment) (flags' : ∀ p ∈ flags, ¬ p.Mistyped es) (limit' : ¬ limit.Mistyped es) :
    ∃ s : Settings, (∀ p ∈ flags, p.Settled env es (p.value s)) ∧ limit.Settled env es (limit.value s) := by
  simp only [flags, List.forall_mem_cons, List.not_mem_nil, false_imp_iff, implies_true, and_true,
    ← settled_exists_iff _ env] at flags' limit' ⊢
  obtain ⟨⟨detailed, settled₁⟩, ⟨track, settled₂⟩, ⟨position, settled₃⟩, ⟨structured, settled₄⟩⟩ := flags'
  obtain ⟨limit, settled₅⟩ := limit'
  exact ⟨⟨⟨detailed, track, position⟩, ⟨structured, limit⟩⟩, ⟨settled₁, settled₂, settled₃, settled₄⟩, settled₅⟩

theorem refused_malformed {text : String} {e : LoadError} (refused : ofToml env text = .error e) :
    e = .malformedSettings := by
  rw [ofToml] at refused
  split at refused
  · cases refused
  · exact (Except.error.inj refused).symm

end Settings

theorem settings_by_preference (env : Environment) {text : String} {es : Toml.Entries}
    (document : Toml.parse? text = some es) (tables : Settings.InTables es) :
    (∀ s, Settings.ofToml env text = .ok s ↔ (∀ p ∈ Preference.flags, p.Settled env es (p.value s)) ∧
      Preference.limit.Settled env es (Preference.limit.value s)) ∧
    ∀ e, Settings.ofToml env text = .error e ↔ e = .malformedSettings ∧
      ((∃ p ∈ Preference.flags, p.Mistyped es) ∨ Preference.limit.Mistyped es) := by
  have accepted (s : Settings) : Settings.ofToml env text = .ok s ↔ Settings.ofEntries? env es = some s := by
    rw [Settings.ofToml, document, Option.bind_some]
    cases Settings.ofEntries? env es <;> simp
  have settled (s : Settings) := (accepted s).trans (Settings.entries_settled tables s)
  refine ⟨settled, fun e => ⟨fun refused => ⟨Settings.refused_malformed refused, ?_⟩, ?_⟩⟩
  · refine Classical.byContradiction fun typed => ?_
    rw [not_or, not_exists] at typed
    have flags (p : Preference Bool) (member : p ∈ Preference.flags) : ¬ p.Mistyped es := fun mistyped =>
      typed.1 p ⟨member, mistyped⟩
    obtain ⟨s, somehow⟩ := Settings.settled_somehow env flags typed.2
    cases refused.symm.trans ((settled s).mpr somehow)
  · rintro ⟨rfl, mistyped⟩
    cases result : Settings.ofToml env text with
    | error e => rw [Settings.refused_malformed result]
    | ok s =>
        obtain ⟨flags, limit⟩ := (settled s).mp result
        rcases mistyped with ⟨p, member, mistyped⟩ | mistyped
        · exact absurd mistyped ((p.settled_exists_iff env es).mp ⟨_, flags p member⟩)
        · exact absurd mistyped ((Preference.limit.settled_exists_iff env es).mp ⟨_, limit⟩)

theorem settings_by_preference_mixed :
    let env : Environment := ⟨some "false", none, none, some "yes", some "ERROR"⟩
    let text := "lexical.track_kind_usage = true"
    let es : Toml.Entries := [("lexical", .table .dotted [("track_kind_usage", .boolean true)])]
    let shouted := "[logging]\nmin_log_level = \"ERROR\""
    let es' : Toml.Entries := [("logging", .table .header [("min_log_level", .string "ERROR")])]
    Toml.parse? text = some es ∧ Settings.InTables es ∧
      Settings.ofToml env text = .ok ⟨⟨false, true, true⟩, ⟨false, .error⟩⟩ ∧
      Toml.parse? shouted = some es' ∧ Settings.InTables es' ∧
      Settings.ofToml env shouted = .error .malformedSettings := by
  intro env text es shouted es'
  have document : Toml.parse? "lexical.track_kind_usage = true" = some es := by with_unfolding_all rfl
  have document' : Toml.parse? "[logging]\nmin_log_level = \"ERROR\"" = some es' := by with_unfolding_all rfl
  have tables : Settings.InTables es := by
    simp [Settings.InTables, es, Toml.Entries.get?]
  have tables' : Settings.InTables es' := by
    simp [Settings.InTables, es', Toml.Entries.get?]
  refine ⟨document, tables, ((settings_by_preference env document tables).1 _).mpr ⟨?_, ?_⟩, document', tables',
    ((settings_by_preference env document' tables').2 _).mpr ⟨rfl, .inr ⟨.string "ERROR", rfl, ?_⟩⟩⟩
  · simp only [Preference.flags, List.forall_mem_cons, List.not_mem_nil, false_imp_iff, implies_true, and_true]
    refine ⟨.inl .no, .boolean true, rfl, .inr ⟨fun b means => ?_, rfl⟩⟩
    cases (Environment.flag_word_iff "yes" b).mpr means
  · exact .inl (show "ERROR".toLower ∈ ["error", "0"] by decide +kernel)
  · intro l given
    cases (Settings.level_given_iff (.string "ERROR") l).mpr given

end PatternLexer
