import TracedFibonacci.Proofs.Config.Reading
import TracedFibonacci.Startup.Resolve

/-!
# Which source a setting comes from

Settings come from the command line, the environment, a file and the defaults, in this order. Each
of them says something about some settings, and every setting has the value of the first source that
says something about it, whatever is said about the others.

## One source in front of others

`PartialSettings` is what one source says, and `Settings.firstOf` is what a row of sources comes to.
Overriding settings by the environment or by the command line puts one more source in front of the
row (`withEnvironment_firstOf`, `withOptions_firstOf`), and a file is a row of one (`ofFile_eq`).

## What is judged

Only what the whole row comes to is validated. So what is wrong with a setting is told of the value
that it has in the end, and a value that another one stands in front of is never told of.
-/

namespace TracedFibonacci

open Text

/-- What one source says about the settings. -/
structure PartialSettings where
  /-- The name of the service. -/
  serviceName? : Option String := none
  /-- The endpoint of a collector. -/
  endpoint? : Option String := none
  /-- The address of the metrics. -/
  metricsAddress? : Option String := none
  /-- The level of the log. -/
  logLevel? : Option String := none
  /-- Whether the log is written as JSON. -/
  jsonLogs? : Option Bool := none
  /-- What becomes of a number that does not fit a word. -/
  overflow? : Option OverflowPolicy := none
  /-- How long a computation takes, in microseconds. -/
  workDelayUs? : Option UInt64 := none

/-- The document in a file, if there is one. -/
def FileContent.document? (file : FileContent) : Option Toml.Entries :=
  file.toOption.bind fun bytes ↦
    (Utf8.decode bytes).toOption.bind fun text ↦ Toml.document? text.toList

namespace PartialSettings

/-- What the command line says. It can ask for JSON, but not for anything else. -/
def ofOptions (o : Options) : PartialSettings where
  serviceName? := o.serviceName?
  endpoint? := o.endpoint?
  logLevel? := o.logLevel?
  jsonLogs? := if o.json then some true else none
  overflow? := o.overflow?
  workDelayUs? := o.workDelayUs?

/-- What the environment says. -/
def ofEnvironment (env : Environment) : PartialSettings where
  serviceName? := env.value? Environment.serviceNameName
  endpoint? := env.value? Environment.endpointName
  metricsAddress? := env.value? Environment.metricsAddressName
  logLevel? := env.value? Environment.logLevelName

/-- What a document says: each setting under its name, in the group it belongs to. -/
def ofDocument (document : Toml.Entries) : PartialSettings :=
  let whole : Toml.Item := .table .passed document
  let telemetry := Shape.settings.item? "telemetry" whole
  let runner := Shape.settings.item? "runner" whole
  { serviceName? := Shape.settings.value? "service_name" Shape.string whole
    endpoint? := telemetry.bind (Shape.telemetry.value? "endpoint" Shape.string)
    metricsAddress? := telemetry.bind (Shape.telemetry.value? "metrics_address" Shape.string)
    logLevel? := telemetry.bind (Shape.telemetry.value? "log_level" Shape.string)
    jsonLogs? := telemetry.bind (Shape.telemetry.value? "json_logs" Shape.boolean)
    overflow? := runner.bind (Shape.runner.value? "overflow" Shape.policy)
    workDelayUs? := runner.bind (Shape.runner.value? "work_delay_us" Shape.word) }

/-- What a file says. -/
def ofFile (file : FileContent) : PartialSettings := (file.document?.map ofDocument).getD {}

/-- The sources of a start with some options, the first one the most important. -/
def sources (files : Files) (env : Environment) (o : Options) : List PartialSettings :=
  [ofOptions o, ofEnvironment env] ++ (o.config?.map fun path ↦ ofFile (files path)).toList

end PartialSettings

namespace Settings

/-- What a row of sources comes to: for each setting the first value that is said, or else the
default. -/
def firstOf (sources : List PartialSettings) : Settings where
  serviceName := (sources.findSome? (·.serviceName?)).getD ({} : Settings).serviceName
  telemetry := {
    endpoint? := sources.findSome? (·.endpoint?)
    metricsAddress :=
      (sources.findSome? (·.metricsAddress?)).getD ({} : TelemetrySettings).metricsAddress
    logLevel := (sources.findSome? (·.logLevel?)).getD ({} : TelemetrySettings).logLevel
    jsonLogs := (sources.findSome? (·.jsonLogs?)).getD ({} : TelemetrySettings).jsonLogs }
  runner := {
    overflow := (sources.findSome? (·.overflow?)).getD ({} : RunnerSettings).overflow
    workDelayUs := (sources.findSome? (·.workDelayUs?)).getD ({} : RunnerSettings).workDelayUs }

section Rows

variable {α : Type} (get? : PartialSettings → Option α) (p : PartialSettings)
  (ps : List PartialSettings)

theorem findSome?_cons : (p :: ps).findSome? get? = (get? p).or (ps.findSome? get?) := by
  rw [List.findSome?_cons]
  cases get? p <;> rfl

end Rows

/-- The environment stands in front of what it overrides. -/
theorem withEnvironment_firstOf (env : Environment) (ps : List PartialSettings) :
    (firstOf ps).withEnvironment env = firstOf (.ofEnvironment env :: ps) := by
  simp only [firstOf, withEnvironment, PartialSettings.ofEnvironment, findSome?_cons,
    Option.getD_or, Option.none_or]

/-- The command line stands in front of what it overrides. -/
theorem withOptions_firstOf (o : Options) (ps : List PartialSettings) :
    (firstOf ps).withOptions o = firstOf (.ofOptions o :: ps) := by
  simp only [firstOf, withOptions, PartialSettings.ofOptions, findSome?_cons, Option.getD_or,
    Option.none_or]
  cases o.json <;> simp

/-- What reading the settings in a file can come to: the settings in its document, or an error that
does not judge them. -/
theorem ofFile_cases (file : FileContent) :
    (∃ document s, file.document? = some document ∧ Shape.settings.entries {} document = .ok s ∧
      ofFile file = .ok s) ∨ ∃ e, ofFile file = .error e ∧ ∀ ps, e ≠ .invalid ps := by
  cases file with
  | error fault => exact .inr ⟨_, rfl, by simp⟩
  | ok bytes =>
    rw [ofFile, FileContent.document?, Except.toOption, Option.bind_some]
    cases Utf8.decode bytes with
    | error _ => exact .inr ⟨_, rfl, by simp⟩
    | ok text =>
      dsimp only [Except.toOption, Option.bind_some]
      rw [ofDocument]
      cases Toml.document? text.toList with
      | none => exact .inr ⟨_, rfl, by simp⟩
      | some document =>
        dsimp only
        cases hentries : Shape.settings.entries {} document with
        | error _ => exact .inr ⟨_, rfl, by simp⟩
        | ok s => exact .inl ⟨document, s, rfl, hentries, rfl⟩

theorem exists_document_of_ofFile {file : FileContent} {s : Settings} (h : ofFile file = .ok s) :
    ∃ document, file.document? = some document ∧ Shape.settings.entries {} document = .ok s := by
  rcases ofFile_cases file with ⟨document, t, hdocument, hentries, ht⟩ | ⟨e, he, -⟩
  · obtain rfl := Except.ok.inj (ht.symm.trans h)
    exact ⟨document, hdocument, hentries⟩
  · rw [he] at h
    contradiction

theorem ofFile_ne_invalid {file : FileContent} {ps : List Invalid} :
    ofFile file ≠ .error (.invalid ps) := by
  intro h
  rcases ofFile_cases file with ⟨_, _, -, -, ht⟩ | ⟨e, he, hne⟩
  · rw [ht] at h
    contradiction
  · exact hne ps (Except.error.inj (he.symm.trans h))

/-- A setting that is optional itself is what an item says, or nothing. -/
theorem getD_value?_map_some {α β : Type} (x? : Option Toml.Item) (g : Shape.Group α)
    (name : String) (read : Toml.Item → Shape.Read β) :
    (x?.bind (g.value? name fun x ↦ (read x).map some)).getD none =
      x?.bind (g.value? name read) := by
  cases x? with
  | none => rfl
  | some item =>
    rw [Option.bind_some, Option.bind_some, Shape.Group.value?, Shape.Group.value?]
    cases g.item? name item with
    | none => rfl
    | some x =>
      rw [Option.bind_some, Option.bind_some]
      cases read x <;> rfl

/-- **The settings of a file are what it says**, and the defaults. -/
theorem ofFile_eq {file : FileContent} {s : Settings} (h : ofFile file = .ok s) :
    s = firstOf [.ofFile file] := by
  obtain ⟨document, hdocument, hentries⟩ := exists_document_of_ofFile h
  have hread : Shape.settings.read {} (.table .passed document) = .ok s :=
    Shape.located_eq_ok.2 hentries
  have hsaid : PartialSettings.ofFile file = .ofDocument document := by
    rw [PartialSettings.ofFile, hdocument]
    rfl
  rw [hsaid]
  have hname := Shape.governs_serviceName.get_eq hread
  have hendpoint := Shape.governs_telemetry.get_eq_nested Shape.governs_endpoint hread rfl
  have haddress := Shape.governs_telemetry.get_eq_nested Shape.governs_metricsAddress hread rfl
  have hlevel := Shape.governs_telemetry.get_eq_nested Shape.governs_logLevel hread rfl
  have hjson := Shape.governs_telemetry.get_eq_nested Shape.governs_jsonLogs hread rfl
  have hpolicy := Shape.governs_runner.get_eq_nested Shape.governs_overflow hread rfl
  have hdelay := Shape.governs_runner.get_eq_nested Shape.governs_workDelayUs hread rfl
  obtain ⟨name, ⟨endpoint?, address, level, json⟩, ⟨policy, delay⟩⟩ := s
  dsimp only at *
  rw [hname, hendpoint, haddress, hlevel, hjson, hpolicy, hdelay]
  simp only [firstOf, PartialSettings.ofDocument, List.findSome?_singleton, getD_value?_map_some]

end Settings

/-! ### What is wrong with settings -/

/-- What is found wrong is wrong with these settings: the text that a message shows is theirs. -/
def Invalid.Concerns (s : Settings) : Invalid → Prop
  | .emptyServiceName => isBlankText s.serviceName = true
  | .unknownLogLevel level => level = s.telemetry.logLevel
  | .invalidEndpoint endpoint _ => ∃ x, s.telemetry.endpoint? = some x ∧ endpoint = trim x
  | .invalidMetricsAddress address => address = s.telemetry.metricsAddress

theorem eq_of_endpointUrl_error {endpoint : String} {p : Invalid}
    (h : Profile.endpointUrl endpoint = .error p) :
    ∃ reason, p = .invalidEndpoint endpoint reason := by
  rw [Profile.endpointUrl] at h
  split at h
  · exact ⟨_, (Except.error.inj h).symm⟩
  · exact ⟨_, (Except.error.inj h).symm⟩
  · contradiction

theorem concerns_of_profile {s : Settings} {p : Invalid}
    (h : Profile.ofSettings s.telemetry = .error p) : p.Concerns s := by
  rw [Profile.ofSettings.eq_def] at h
  cases hx : s.telemetry.endpoint? with
  | none =>
    rw [hx] at h
    contradiction
  | some x =>
    rw [hx] at h
    dsimp only [Option.getD_some] at h
    split at h
    · contradiction
    · cases hurl : Profile.endpointUrl (trim x) with
      | error e =>
        rw [hurl] at h
        obtain rfl := Except.error.inj h
        obtain ⟨reason, rfl⟩ := eq_of_endpointUrl_error hurl
        exact ⟨x, hx, rfl⟩
      | ok traces =>
        rw [hurl] at h
        dsimp only at h
        cases haddress : Net.SocketAddress.ofText? s.telemetry.metricsAddress with
        | some _ => simp only [haddress, reduceCtorEq] at h
        | none =>
          rw [haddress] at h
          obtain rfl := Except.error.inj h
          exact rfl

/-- **What validation tells is about the settings that it is given.** -/
theorem concerns_of_mem_problems {s : Settings} {p : Invalid} (h : p ∈ s.problems) :
    p.Concerns s := by
  rw [Settings.problems, List.mem_append, List.mem_append] at h
  rcases h with (h | h) | h
  · by_cases hname : isBlankText s.serviceName = true
    · rw [if_pos hname] at h
      obtain rfl := List.mem_singleton.1 h
      exact hname
    · simp [hname] at h
  · by_cases hlevel : (Level.ofName? s.telemetry.logLevel).isNone = true
    · rw [if_pos hlevel] at h
      obtain rfl := List.mem_singleton.1 h
      rfl
    · simp [hlevel] at h
  · cases hprofile : Profile.ofSettings s.telemetry with
    | ok _ => simp [hprofile] at h
    | error e =>
      rw [hprofile] at h
      obtain rfl := List.mem_singleton.1 h
      exact concerns_of_profile hprofile

namespace Plan

theorem ofSettings_of_valid {s : Settings} (h : s.problems = []) :
    ∃ profile, Profile.ofSettings s.telemetry = .ok profile ∧ ofSettings s = .ok ⟨s, profile⟩ := by
  have hvalid : s.validated = .ok s := by rw [Settings.validated, h]
  have hprofile := h
  rw [Settings.problems, List.append_eq_nil_iff] at hprofile
  cases hp : Profile.ofSettings s.telemetry with
  | error e =>
    rw [hp] at hprofile
    exact absurd hprofile.2 (by simp)
  | ok profile =>
    refine ⟨profile, rfl, ?_⟩
    simp only [ofSettings, hvalid, bind, Except.bind, hp]
    rfl

theorem ofSettings_of_invalid {s : Settings} (h : s.problems ≠ []) :
    ofSettings s = .error (.invalid s.problems) := by
  have hinvalid : s.validated = .error (.invalid s.problems) := by
    rw [Settings.validated]
    split
    · contradiction
    · rfl
  rw [ofSettings, hinvalid]
  rfl

/-- A plan has the settings that it was made of, and their profile. -/
theorem ofSettings_eq_ok {s : Settings} {plan : Plan} (h : ofSettings s = .ok plan) :
    plan.settings = s ∧ Profile.ofSettings s.telemetry = .ok plan.profile := by
  by_cases hvalid : s.problems = []
  · obtain ⟨profile, hprofile, hok⟩ := ofSettings_of_valid hvalid
    obtain rfl := Except.ok.inj (hok.symm.trans h)
    exact ⟨rfl, hprofile⟩
  · rw [ofSettings_of_invalid hvalid] at h
    contradiction

/-- Settings fail for all that is wrong with them. -/
theorem ofSettings_eq_error {s : Settings} {e : SettingsError} (h : ofSettings s = .error e) :
    e = .invalid s.problems ∧ s.problems ≠ [] := by
  by_cases hvalid : s.problems = []
  · obtain ⟨profile, -, hok⟩ := ofSettings_of_valid hvalid
    rw [hok] at h
    contradiction
  · rw [ofSettings_of_invalid hvalid] at h
    exact ⟨(Except.error.inj h).symm, hvalid⟩

section Resolve

variable {files : Files} {env : Environment} {o : Options}

theorem discovered_some (path : String) :
    discovered files env (some path) =
      (Settings.ofFile (files path)).map (Settings.withEnvironment env) := by
  show (Settings.ofFile (files path) >>= fun s ↦ pure (s.withEnvironment env)) = _
  cases Settings.ofFile (files path) <;> rfl

/-- **A start depends on its sources through what they come to.** -/
theorem resolve_eq (h : ∀ path, o.config? = some path → ∃ t, Settings.ofFile (files path) = .ok t) :
    resolve files env o = ofSettings (Settings.firstOf (PartialSettings.sources files env o)) := by
  rw [resolve, PartialSettings.sources]
  cases hpath : o.config? with
  | none =>
    show ofSettings ((Settings.withEnvironment env (Settings.firstOf [])).withOptions o) = _
    rw [Settings.withEnvironment_firstOf, Settings.withOptions_firstOf]
    rfl
  | some path =>
    obtain ⟨t, ht⟩ := h path hpath
    rw [discovered_some, ht]
    show ofSettings ((Settings.withEnvironment env t).withOptions o) = _
    rw [Settings.ofFile_eq ht, Settings.withEnvironment_firstOf, Settings.withOptions_firstOf]
    rfl

/-- A start whose file is none of settings fails for that. -/
theorem resolve_of_file {path : String} {e : SettingsError} (hpath : o.config? = some path)
    (h : Settings.ofFile (files path) = .error e) : resolve files env o = .error e := by
  rw [resolve, hpath, discovered_some, h]
  rfl

/-- A start that succeeds, or fails in validation, has a file of settings or none at all. -/
theorem ofFile_of_resolve (h : ∀ e, resolve files env o = .error e → ∃ ps, e = .invalid ps) :
    ∀ path, o.config? = some path → ∃ t, Settings.ofFile (files path) = .ok t := by
  intro path hpath
  cases hfile : Settings.ofFile (files path) with
  | ok t => exact ⟨t, rfl⟩
  | error e =>
    obtain ⟨ps, rfl⟩ := h e (resolve_of_file hpath hfile)
    exact absurd hfile Settings.ofFile_ne_invalid

end Resolve

end Plan

/-- A value of the environment counts as it stands if anything in it is not blank, and else it does
not count. -/
theorem Environment.value?_eq_some_iff {env : Environment} {name v : String} :
    env.value? name = some v ↔ env name = some v ∧ ∃ c ∈ v.toList, isBlank c = false := by
  rw [Environment.value?, Option.filter_eq_some_iff, isBlankText]
  simp

/-- An environment is the same without its blank values. -/
theorem Environment.value?_value? (env : Environment) (name : String) :
    Environment.value? (fun n ↦ env.value? n) name = env.value? name := by
  rw [value?, value?, Option.filter_filter]
  simp

/-- The log is written as JSON where the command line or the file asks for it. -/
theorem Settings.jsonLogs_firstOf_sources (files : Files) (env : Environment) (o : Options) :
    (firstOf (PartialSettings.sources files env o)).telemetry.jsonLogs = true ↔
      o.json = true ∨ ∃ path, o.config? = some path ∧
        (PartialSettings.ofFile (files path)).jsonLogs? = some true := by
  rw [firstOf, PartialSettings.sources]
  dsimp only
  rw [List.cons_append, List.cons_append, List.nil_append, findSome?_cons, findSome?_cons]
  cases hjson : o.json with
  | true => simp [PartialSettings.ofOptions, hjson]
  | false =>
    cases hpath : o.config? with
    | none => simp [PartialSettings.ofOptions, PartialSettings.ofEnvironment, hjson]
    | some path =>
      simp [PartialSettings.ofOptions, PartialSettings.ofEnvironment, hjson, Option.getD_eq_iff]

/-- Blank values of the environment make no difference to a start. -/
theorem Plan.resolve_value? (files : Files) (env : Environment) (o : Options) :
    resolve files env.value? o = resolve files env o := by
  have hsettings (s : Settings) : s.withEnvironment env.value? = s.withEnvironment env := by
    simp only [Settings.withEnvironment, Environment.value?_value?]
  have hfound : discovered files env.value? o.config? = discovered files env o.config? := by
    cases o.config? with
    | none => exact congrArg Except.ok (hsettings {})
    | some path => rw [discovered_some, discovered_some, funext hsettings]
  rw [resolve, resolve, hfound]

/-- **Each setting has the value of the highest source that says something about it**, the command
line before the environment before the file before the default. A start that succeeds does so with
the settings that its sources come to, each one by itself, and with their profile. A start that
fails in validation tells what is wrong with these very settings, and something is; so a bad value
that a higher source stands in front of is not told of. With a file of settings or none, one of the
two is the case, according to what is wrong. The log is written as JSON if the command line or the
file asks for it. A value of the environment that is blank counts as none, and any other counts as
it stands; and what the command line says counts even if it is blank. -/
theorem Plan.resolve_precedence (files : Files) (env : Environment) (o : Options) :
    let s := Settings.firstOf (PartialSettings.sources files env o)
    (∀ plan, resolve files env o = .ok plan →
      plan.settings = s ∧ Profile.ofSettings s.telemetry = .ok plan.profile) ∧
    (∀ ps, resolve files env o = .error (.invalid ps) →
      ps = s.problems ∧ ps ≠ [] ∧ ∀ p ∈ ps, p.Concerns s) ∧
    ((∀ path, o.config? = some path → ∃ t, Settings.ofFile (files path) = .ok t) →
      if s.problems = [] then ∃ plan, resolve files env o = .ok plan
      else resolve files env o = .error (.invalid s.problems)) ∧
    (s.telemetry.jsonLogs = true ↔ o.json = true ∨ ∃ path, o.config? = some path ∧
      (PartialSettings.ofFile (files path)).jsonLogs? = some true) ∧
    ((∀ name v, env.value? name = some v ↔ env name = some v ∧ ∃ c ∈ v.toList, isBlank c = false) ∧
      resolve files env.value? o = resolve files env o) ∧
    (∀ x, o.endpoint? = some x → s.telemetry.endpoint? = some x) ∧
    (∀ x, o.serviceName? = some x → s.serviceName = x) ∧
    ∀ x, o.logLevel? = some x → s.telemetry.logLevel = x := by
  intro s
  have hdecided (h : ∀ path, o.config? = some path → ∃ t, Settings.ofFile (files path) = .ok t) :
      resolve files env o = ofSettings s := resolve_eq h
  refine ⟨fun plan hplan ↦ ?_, fun ps hps ↦ ?_, fun h ↦ ?_,
    Settings.jsonLogs_firstOf_sources files env o,
    ⟨fun _ _ ↦ Environment.value?_eq_some_iff, resolve_value? files env o⟩,
    fun x hx ↦ ?_, fun x hx ↦ ?_, fun x hx ↦ ?_⟩
  · have hvalid : ∀ e, resolve files env o = .error e → ∃ ps, e = .invalid ps := fun e he ↦
      absurd (he.symm.trans hplan) (by simp)
    rw [hdecided (ofFile_of_resolve hvalid)] at hplan
    exact ofSettings_eq_ok hplan
  · have hvalid : ∀ e, resolve files env o = .error e → ∃ ps, e = .invalid ps := fun e he ↦
      ⟨ps, Except.error.inj (he.symm.trans hps)⟩
    rw [hdecided (ofFile_of_resolve hvalid)] at hps
    obtain ⟨hinvalid, hne⟩ := ofSettings_eq_error hps
    obtain rfl := SettingsError.invalid.inj hinvalid
    exact ⟨rfl, hne, fun p ↦ concerns_of_mem_problems⟩
  · rw [hdecided h]
    split
    · next hvalid =>
      obtain ⟨profile, -, hok⟩ := ofSettings_of_valid hvalid
      exact ⟨_, hok⟩
    · next hinvalid => exact ofSettings_of_invalid hinvalid
  · simp [s, Settings.firstOf, PartialSettings.sources, PartialSettings.ofOptions, hx]
  · simp [s, Settings.firstOf, PartialSettings.sources, PartialSettings.ofOptions, hx]
  · simp [s, Settings.firstOf, PartialSettings.sources, PartialSettings.ofOptions, hx]

/-- A file with a level that there is not, in front of which the environment stands, and with an
endpoint, in front of which a blank from the command line stands; and the same where the level in
the environment is blank. -/
theorem Plan.resolve_precedence_loud :
    let text := "[telemetry]\nendpoint = \"http://c\"\nlog_level = \"loud\"\n" ++
      "json_logs = true\n[runner]\nwork_delay_us = 5\n"
    let files : Files := fun _ ↦ Except.ok text.toUTF8.toList
    let env (level : String) : Environment := fun name ↦
      if name = Environment.logLevelName then some level else none
    let o : Options := { config? := some "fib.toml", endpoint? := some "" }
    (∃ plan, resolve files (env "debug") o = .ok plan ∧ plan.settings =
      { telemetry := { endpoint? := some "", logLevel := "debug", jsonLogs := true }
        runner := { workDelayUs := 5 } }) ∧
    resolve files (env " ") o = .error (.invalid [.unknownLogLevel "loud"]) := by
  intro text files env o
  have hfile : ∀ path, o.config? = some path → ∃ t, Settings.ofFile (files path) = .ok t := by
    have hread : (Settings.ofFile (files "fib.toml")).isOk = true := by decide +kernel
    intro path hpath
    obtain rfl := Option.some.inj hpath
    cases hfile : Settings.ofFile (files "fib.toml") with
    | ok t => exact ⟨t, rfl⟩
    | error e =>
      rw [hfile] at hread
      contradiction
  constructor
  · obtain ⟨hplan, -, htotal, -⟩ := resolve_precedence files (env "debug") o
    have hvalid : (Settings.firstOf (PartialSettings.sources files (env "debug") o)).problems =
        [] := by decide +kernel
    have hfound := htotal hfile
    rw [if_pos hvalid] at hfound
    obtain ⟨plan, hok⟩ := hfound
    exact ⟨plan, hok, (hplan plan hok).1.trans (by decide +kernel)⟩
  · obtain ⟨-, -, htotal, -⟩ := resolve_precedence files (env " ") o
    have hloud : (Settings.firstOf (PartialSettings.sources files (env " ") o)).problems =
        [.unknownLogLevel "loud"] := by decide +kernel
    have hfound := htotal hfile
    rwa [hloud, if_neg (by simp)] at hfound

end TracedFibonacci
