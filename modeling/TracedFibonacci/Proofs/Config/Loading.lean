import TracedFibonacci.Proofs.Config.Validation
import TracedFibonacci.Startup.Error

/-!
# Loading settings and starting with them

Settings can be loaded from a file by itself, or as part of a start that also looks at the
environment and the command line. Both read the file in one way and validate in one way, but with
different steps in between. Where these have nothing to say the two come to the same
(`Plan.resolve_agrees`): a start is its settings that passed validation
(`Plan.map_settings_resolve`), and overriding by blanks or by nothing changes no setting.

Overriding stands behind the reading, so it meets only a file that could be read. A fault of the
file is the fault of every start with it; what may differ between a load and a start is what
validation says.
-/

namespace TracedFibonacci

open Text

namespace Environment

/-- The variables that settings can come from. -/
def names : List String := [endpointName, serviceNameName, metricsAddressName, logLevelName]

variable {env : Environment}

/-- A variable that is not set, or is blank, has no value. -/
theorem value?_eq_none_iff {name : String} :
    env.value? name = none ↔ ∀ v, env name = some v → isBlankText v = true := by
  rw [value?, Option.filter_eq_none_iff]
  simp

/-- The environment overrides nothing if all of its variables are blank or not set. -/
theorem withEnvironment_of_blank
    (h : ∀ name ∈ names, ∀ v, env name = some v → isBlankText v = true) (s : Settings) :
    s.withEnvironment env = s := by
  have hnone : ∀ name ∈ names, env.value? name = none := fun name hname ↦
    value?_eq_none_iff.2 (h name hname)
  simp only [names, List.forall_mem_cons, List.not_mem_nil, false_imp_iff, implies_true,
    and_true] at hnone
  obtain ⟨hendpoint, hservice, haddress, hlevel⟩ := hnone
  simp [Settings.withEnvironment, hendpoint, hservice, haddress, hlevel]

end Environment

namespace Settings

/-- A load fails for anything but its values exactly if the file cannot be read as settings. -/
theorem load_eq_error_iff {file : FileContent} {e : SettingsError} (h : ∀ ps, e ≠ .invalid ps) :
    load file = .error e ↔ ofFile file = .error e := by
  rw [load]
  cases ofFile file with
  | error e' => simp [Except.bind]
  | ok s =>
    simp only [Except.bind, reduceCtorEq, iff_false]
    by_cases hvalid : s.Valid
    · simp [validated_of_valid hvalid]
    · rw [validated_of_not_valid hvalid]
      exact fun herror ↦ h _ (Except.error.inj herror).symm

end Settings

namespace Plan

theorem map_settings_eq_ok_iff {r : Except SettingsError Plan} {s : Settings} :
    r.map settings = .ok s ↔ ∃ profile, r = .ok ⟨s, profile⟩ := by
  rcases r with e | ⟨t, profile⟩ <;> simp [Except.map]

theorem map_settings_eq_error_iff {r : Except SettingsError Plan} {e : SettingsError} :
    r.map settings = .error e ↔ r = .error e := by
  cases r <;> simp [Except.map]

variable {files : Files} {env : Environment} {o : Options} {path : String}

/-- A start that is told nothing but a file has the settings that a load gives. -/
theorem map_settings_resolve_of_blank
    (h : ∀ name ∈ Environment.names, ∀ v, env name = some v → isBlankText v = true) :
    (resolve files env { config? := some path }).map settings = Settings.load (files path) := by
  have hfound : discovered files env (some path) = Settings.ofFile (files path) := by
    rw [discovered_some, funext (Environment.withEnvironment_of_blank h)]
    cases Settings.ofFile (files path) <;> rfl
  refine (map_settings_resolve files env _).trans ?_
  dsimp only
  have hkept (s : Settings) : s.withOptions { config? := some path } = s :=
    Settings.withOptions_empty s
  simp only [hfound, hkept, Settings.load]

/-- A start fails for its file exactly if that cannot be read as settings, whatever else it is
told. -/
theorem resolve_eq_error_iff {e : SettingsError} (hpath : o.config? = some path)
    (h : ∀ ps, e ≠ .invalid ps) :
    resolve files env o = .error e ↔ Settings.ofFile (files path) = .error e := by
  constructor
  · intro hstart
    cases hfile : Settings.ofFile (files path) with
    | error e' =>
      rw [resolve_of_file hpath hfile] at hstart
      rw [Except.error.inj hstart]
    | ok s =>
      have hread : ∀ path, o.config? = some path → ∃ t, Settings.ofFile (files path) = .ok t := by
        intro path' hpath'
        obtain rfl := Option.some.inj (hpath.symm.trans hpath')
        exact ⟨s, hfile⟩
      rw [resolve_eq hread] at hstart
      exact absurd (ofSettings_eq_error hstart).1 (h _)
  · exact resolve_of_file hpath

/-- **A load and a start agree.** A start with a file whose environment says nothing, or nothing but
blanks, succeeds exactly if loading the file does, with the same settings, and fails with the same
error, which its message has behind a mark of its own. And whatever the environment and the command
line say, a start with that file fails because it cannot be read, is no document or has the wrong
shape exactly if loading it fails for that. -/
theorem resolve_agrees (files : Files) (path : String) :
    (∀ env : Environment,
      (∀ name ∈ Environment.names, ∀ v, env name = some v → isBlankText v = true) →
      (∀ s, Settings.load (files path) = .ok s ↔
        ∃ profile, resolve files env { config? := some path } = .ok ⟨s, profile⟩) ∧
      ∀ e, (Settings.load (files path) = .error e ↔
          resolve files env { config? := some path } = .error e) ∧
        (StartupError.settings e).message = "configuration error: " ++ e.message) ∧
    ∀ (env : Environment) (o : Options) (e : SettingsError), o.config? = some path →
      (∀ ps, e ≠ .invalid ps) →
      (resolve files env o = .error e ↔ Settings.load (files path) = .error e) := by
  refine ⟨fun env hblank ↦ ?_, fun env o e hpath he ↦ ?_⟩
  · rw [← map_settings_resolve_of_blank hblank]
    exact ⟨fun s ↦ map_settings_eq_ok_iff, fun e ↦ ⟨map_settings_eq_error_iff, rfl⟩⟩
  · rw [resolve_eq_error_iff hpath he, Settings.load_eq_error_iff he]

/-- A blank variable of the environment does not mend a level, and a level from the command line
does not mend what is no document. -/
theorem resolve_agrees_loud :
    let files : Files := fun path ↦
      .ok (if path = "fib.toml" then "[telemetry]\nlog_level = \"loud\"\n"
        else "loud").toUTF8.toList
    let env : Environment := fun name ↦ if name = Environment.logLevelName then some " " else none
    resolve files env { config? := some "fib.toml" } =
      .error (.invalid [.unknownLogLevel "loud"]) ∧
    resolve files env { config? := some "fib.txt", logLevel? := some "debug" } =
      .error .notToml := by
  intro files env
  obtain ⟨hblank, -⟩ := resolve_agrees files "fib.toml"
  obtain ⟨-, hnone⟩ := resolve_agrees files "fib.txt"
  constructor
  · refine ((hblank env ?_).2 _).1.1 (by decide +kernel)
    intro name _ v hv
    dsimp only [env] at hv
    split at hv
    · obtain rfl := Option.some.inj hv
      decide
    · contradiction
  · exact (hnone env _ _ rfl (by simp)).2 (by decide +kernel)

end Plan

end TracedFibonacci
