import TracedFibonacci.Proofs.Config.Precedence

/-!
# What validation tells

Validation looks at four settings. The name of the service, the level and the endpoint are judged
each by itself. The address of the metrics is not: it is looked at only behind a good endpoint,
since without one there is nobody to fetch metrics. So a bad endpoint hides a bad address, and
mending the endpoint brings out a problem that was not told before. This is the only pair of
settings with that effect (`Settings.notMem_problems_iff`).

## Two resolutions of the profile

A start resolves the profile twice, once to validate it and once to use it. The settings of a start
are those that validation lets through, whatever the second resolution does
(`Plan.map_settings_resolve`): where the first one succeeds, so does the second. What validation
lets through is `Settings.Valid`, which says nothing of how problems are told.
-/

namespace TracedFibonacci

open Text

/-- Trimming leaves the empty text exactly when there was nothing but blanks. -/
theorem Text.trim_eq_empty_iff {s : String} : trim s = "" ↔ isBlankText s = true := by
  rw [trim, ← String.ofList_nil, String.ofList_inj, trimChars_eq_nil_iff, isBlankText]

theorem Text.isBlankText_eq_false_iff {s : String} :
    isBlankText s = false ↔ ∃ c ∈ s.toList, isBlank c = false := by
  rw [isBlankText, List.all_eq_false]
  simp

/-- A level is one of five names, whatever the case of its ASCII letters. -/
theorem Level.isNone_ofName?_iff {s : String} :
    (ofName? s).isNone = true ↔
      String.ofList (s.toList.map Char.toLower) ∉ ["trace", "debug", "info", "warn", "error"] := by
  rw [ofName?, Option.isNone_iff_eq_none, List.find?_eq_none]
  simp only [all, name, List.mem_cons, List.not_mem_nil, or_false, forall_eq_or_imp, forall_eq,
    beq_iff_eq]
  grind

namespace Profile

/-- A collector is reached by a URL of the web. -/
theorem exists_endpointUrl_eq_ok_iff {endpoint : String} :
    (∃ traces, endpointUrl endpoint = .ok traces) ↔
      ∃ url, Url.read endpoint.toList = .ok (.web url) := by
  rw [endpointUrl]
  split <;> simp_all

theorem exists_endpointUrl_eq_error_iff {endpoint : String} :
    (∃ p, endpointUrl endpoint = .error p) ↔
      ¬∃ url, Url.read endpoint.toList = .ok (.web url) := by
  rw [← exists_endpointUrl_eq_ok_iff]
  cases endpointUrl endpoint <;> simp

section Resolution

variable {t : TelemetrySettings}

theorem ofSettings_of_blank (h : isBlankText (t.endpoint?.getD "") = true) :
    ofSettings t = .ok .console := by
  rw [ofSettings.eq_def]
  exact if_pos (trim_eq_empty_iff.2 h)

theorem ofSettings_of_endpoint {x : String} (hx : t.endpoint? = some x)
    (h : isBlankText x = false) :
    ofSettings t =
      (endpointUrl (trim x)).bind fun traces ↦
        match Net.SocketAddress.ofText? t.metricsAddress with
        | some metrics => .ok (.collector traces metrics)
        | none => .error (.invalidMetricsAddress t.metricsAddress) := by
  have hne : trim x ≠ "" := fun hempty ↦ by simp [trim_eq_empty_iff.1 hempty] at h
  rw [ofSettings.eq_def, hx]
  dsimp only [Option.getD_some]
  rw [if_neg hne]
  cases endpointUrl (trim x) <;> rfl

/-- What is wrong with a profile: its endpoint, or else the address of its metrics. -/
theorem ofSettings_eq_error_iff {p : Invalid} :
    ofSettings t = .error p ↔
      ∃ x, t.endpoint? = some x ∧ isBlankText x = false ∧
        (endpointUrl (trim x) = .error p ∨
          (∃ traces, endpointUrl (trim x) = .ok traces) ∧
            Net.SocketAddress.ofText? t.metricsAddress = none ∧
            p = .invalidMetricsAddress t.metricsAddress) := by
  cases hx : t.endpoint? with
  | none => simp [ofSettings_of_blank (t := t) (by rw [hx]; rfl)]
  | some x =>
    cases hblank : isBlankText x with
    | true => simp [ofSettings_of_blank (t := t) (by rw [hx]; exact hblank), hblank]
    | false =>
      rw [ofSettings_of_endpoint hx hblank]
      cases hurl : endpointUrl (trim x) with
      | error e => simp [Except.bind, hblank, hurl]
      | ok traces =>
        cases Net.SocketAddress.ofText? t.metricsAddress <;>
          simp [Except.bind, hblank, hurl, @eq_comm _ p]

/-- Everything goes to the console exactly when there is no endpoint, or a blank one. -/
theorem ofSettings_eq_console_iff :
    ofSettings t = .ok .console ↔ ∀ x, t.endpoint? = some x → isBlankText x = true := by
  cases hx : t.endpoint? with
  | none => simp [ofSettings_of_blank (t := t) (by rw [hx]; rfl)]
  | some x =>
    cases hblank : isBlankText x with
    | true => simp [ofSettings_of_blank (t := t) (by rw [hx]; exact hblank), hblank]
    | false =>
      rw [ofSettings_of_endpoint hx hblank]
      cases endpointUrl (trim x) with
      | error e => simp [Except.bind, hblank]
      | ok traces =>
        cases Net.SocketAddress.ofText? t.metricsAddress <;> simp [Except.bind, hblank]

end Resolution

end Profile

/-! ### Which problems are told -/

/-- A setting that validation looks at. -/
inductive Judged where
  | serviceName
  | logLevel
  | endpoint
  | metricsAddress
  deriving DecidableEq

/-- The setting that a problem names. -/
def Invalid.about : Invalid → Judged
  | .emptyServiceName => .serviceName
  | .unknownLogLevel _ => .logLevel
  | .invalidEndpoint .. => .endpoint
  | .invalidMetricsAddress _ => .metricsAddress

namespace Settings

/-- The text of a setting that validation looks at, if it has one. -/
def judged (s : Settings) : Judged → Option String
  | .serviceName => some s.serviceName
  | .logLevel => some s.telemetry.logLevel
  | .endpoint => s.telemetry.endpoint?
  | .metricsAddress => some s.telemetry.metricsAddress

/-- Whether a setting is bad. An endpoint is bad if it is there, is not blank and is no URL of the
web, and the address of the metrics matters only where there is an endpoint that is not blank. -/
def Flawed (s : Settings) : Judged → Prop
  | .serviceName => isBlankText s.serviceName = true
  | .logLevel =>
    String.ofList (s.telemetry.logLevel.toList.map Char.toLower) ∉
      ["trace", "debug", "info", "warn", "error"]
  | .endpoint =>
    ∃ x, s.telemetry.endpoint? = some x ∧ isBlankText x = false ∧
      ¬∃ url, Url.read (trim x).toList = .ok (.web url)
  | .metricsAddress =>
    (∃ x, s.telemetry.endpoint? = some x ∧ isBlankText x = false) ∧
      Net.SocketAddress.ofText? s.telemetry.metricsAddress = none

variable {s t : Settings} {p q : Invalid}

theorem exists_judged_of_flawed_endpoint :
    s.Flawed .endpoint ↔
      ∃ x, s.telemetry.endpoint? = some x ∧ isBlankText x = false ∧
        ∃ p, Profile.endpointUrl (trim x) = .error p := by
  simp only [Flawed, Profile.exists_endpointUrl_eq_error_iff]

/-- **Which problems are told**: one for each bad setting, but none for the address of the metrics
behind a bad endpoint. -/
theorem mem_problems_iff :
    p ∈ s.problems ↔
      p = .emptyServiceName ∧ s.Flawed .serviceName ∨
      p = .unknownLogLevel s.telemetry.logLevel ∧ s.Flawed .logLevel ∨
      (∃ x, s.telemetry.endpoint? = some x ∧ isBlankText x = false ∧
        Profile.endpointUrl (trim x) = .error p) ∨
      p = .invalidMetricsAddress s.telemetry.metricsAddress ∧ s.Flawed .metricsAddress ∧
        ¬s.Flawed .endpoint := by
  rw [problems, List.mem_append, List.mem_append, or_assoc]
  refine or_congr ?_ (or_congr ?_ ?_)
  · rw [List.mem_ite_nil_right, List.mem_singleton, Flawed, and_comm]
  · rw [List.mem_ite_nil_right, List.mem_singleton, Flawed, Level.isNone_ofName?_iff, and_comm]
  · calc _ ↔ Profile.ofSettings s.telemetry = .error p := by
          cases Profile.ofSettings s.telemetry <;> simp [eq_comm]
      _ ↔ _ := by
          rw [Profile.ofSettings_eq_error_iff]
          cases hx : s.telemetry.endpoint? with
          | none => simp [Flawed, hx]
          | some x =>
            simp only [Flawed, hx, Option.some.injEq, exists_eq_left',
              ← Profile.exists_endpointUrl_eq_ok_iff]
            grind

theorem about_of_endpointUrl {x : String} (h : Profile.endpointUrl x = .error p) :
    p.about = .endpoint := by
  obtain ⟨reason, rfl⟩ := eq_of_endpointUrl_error h
  rfl

/-- A bad setting is told of, unless it is an address behind a bad endpoint. -/
theorem exists_mem_problems_iff {j : Judged} :
    (∃ p ∈ s.problems, p.about = j) ↔
      s.Flawed j ∧ ¬(j = .metricsAddress ∧ s.Flawed .endpoint) := by
  constructor
  · rintro ⟨p, hp, rfl⟩
    rcases mem_problems_iff.1 hp with ⟨rfl, h⟩ | ⟨rfl, h⟩ | ⟨x, hx, hblank, hurl⟩ | ⟨rfl, h, hgood⟩
    · exact ⟨h, by simp [Invalid.about]⟩
    · exact ⟨h, by simp [Invalid.about]⟩
    · rw [about_of_endpointUrl hurl]
      exact ⟨exists_judged_of_flawed_endpoint.2 ⟨x, hx, hblank, p, hurl⟩, by simp⟩
    · exact ⟨h, fun hhidden ↦ hgood hhidden.2⟩
  · rintro ⟨h, hshown⟩
    cases j with
    | serviceName => exact ⟨_, mem_problems_iff.2 (.inl ⟨rfl, h⟩), rfl⟩
    | logLevel => exact ⟨_, mem_problems_iff.2 (.inr (.inl ⟨rfl, h⟩)), rfl⟩
    | endpoint =>
      obtain ⟨x, hx, hblank, p, hurl⟩ := exists_judged_of_flawed_endpoint.1 h
      exact ⟨p, mem_problems_iff.2 (.inr (.inr (.inl ⟨x, hx, hblank, hurl⟩))),
        about_of_endpointUrl hurl⟩
    | metricsAddress =>
      have hgood : ¬s.Flawed .endpoint := fun hbad ↦ hshown ⟨rfl, hbad⟩
      exact ⟨_, mem_problems_iff.2 (.inr (.inr (.inr ⟨rfl, h, hgood⟩))), rfl⟩

/-- Whether a setting is bad is seen from its text, and for the address also from that of the
endpoint. -/
theorem flawed_congr {j : Judged} (h : t.judged j = s.judged j)
    (hendpoint : j = .metricsAddress → t.judged .endpoint = s.judged .endpoint) :
    t.Flawed j ↔ s.Flawed j := by
  cases j <;> simp_all [judged, Flawed]

/-- **Mending one setting** brings out a problem of another one exactly when it was the endpoint
that was mended and the address is bad. -/
theorem notMem_problems_iff (hp : p ∈ s.problems)
    (hsame : ∀ j, j ≠ p.about → t.judged j = s.judged j) (hq : q ∈ t.problems)
    (hother : q.about ≠ p.about) :
    q ∉ s.problems ↔ p.about = .endpoint ∧ q.about = .metricsAddress := by
  have hkept (j : Judged) (hj : j ≠ p.about) (hne : j ≠ .metricsAddress) :
      t.Flawed j ↔ s.Flawed j := flawed_congr (hsame j hj) fun h ↦ absurd h hne
  rcases mem_problems_iff.1 hq with ⟨rfl, h⟩ | ⟨rfl, h⟩ | ⟨x, hx, hblank, hurl⟩ | ⟨rfl, h, hgood⟩
  · have hbad := (hkept .serviceName hother (by simp)).1 h
    simp [mem_problems_iff, hbad, Invalid.about]
  · have hbad := (hkept .logLevel hother (by simp)).1 h
    have hlevel : t.telemetry.logLevel = s.telemetry.logLevel :=
      Option.some.inj (hsame .logLevel hother)
    simp [mem_problems_iff, hbad, hlevel, Invalid.about]
  · have habout := about_of_endpointUrl hurl
    rw [habout] at hother
    have hx' : s.telemetry.endpoint? = some x := (hsame .endpoint hother).symm.trans hx
    have htold : q ∈ s.problems :=
      mem_problems_iff.2 (.inr (.inr (.inl ⟨x, hx', hblank, hurl⟩)))
    simp [htold, habout]
  · have haddress : t.telemetry.metricsAddress = s.telemetry.metricsAddress :=
      Option.some.inj (hsame .metricsAddress hother)
    by_cases hmended : p.about = .endpoint
    · -- what was mended was a bad endpoint, behind which the address was hidden
      have hbad : s.Flawed .endpoint :=
        (exists_mem_problems_iff.1 ⟨p, hp, hmended⟩).1
      have hhidden (address : String) : .invalidMetricsAddress address ∉ s.problems := fun htold ↦
        (exists_mem_problems_iff.1 ⟨_, htold, rfl⟩).2 ⟨rfl, hbad⟩
      exact ⟨fun _ ↦ ⟨hmended, rfl⟩, fun _ ↦ hhidden _⟩
    · have hbad := (flawed_congr (hsame .metricsAddress hother) fun _ ↦
        hsame .endpoint (Ne.symm hmended)).1 h
      have hstill := mt (hkept .endpoint (Ne.symm hmended) (by simp)).2 hgood
      simp [mem_problems_iff, hbad, hstill, haddress, hmended]

/-- **Every bad setting is told of at once, but for an address behind a bad endpoint**, and what is
told is about these settings. So each setting is judged by itself if and only if endpoint and
address are not both bad. Changing only the setting that a problem names brings out a problem of
another one that was not told before exactly when this setting is the endpoint and the other one the
address. -/
theorem problems_told_iff (s : Settings) :
    (∀ j, (∃ p ∈ s.problems, p.about = j) ↔
      s.Flawed j ∧ ¬(j = .metricsAddress ∧ s.Flawed .endpoint)) ∧
    ((∀ j, (∃ p ∈ s.problems, p.about = j) ↔ s.Flawed j) ↔
      ¬(s.Flawed .endpoint ∧ s.Flawed .metricsAddress)) ∧
    (∀ p ∈ s.problems, p.Concerns s) ∧
    ∀ p ∈ s.problems, ∀ t : Settings, (∀ j, j ≠ p.about → t.judged j = s.judged j) →
      ∀ q ∈ t.problems, q.about ≠ p.about →
        (q ∉ s.problems ↔ p.about = .endpoint ∧ q.about = .metricsAddress) := by
  refine ⟨fun j ↦ exists_mem_problems_iff, ⟨fun hall hboth ↦ ?_, fun hgood j ↦ ?_⟩,
    fun p ↦ concerns_of_mem_problems, fun p hp t hsame q hq ↦ notMem_problems_iff hp hsame hq⟩
  · have htold := (hall .metricsAddress).2 hboth.2
    exact (exists_mem_problems_iff.1 htold).2 ⟨rfl, hboth.1⟩
  · rw [exists_mem_problems_iff]
    refine and_iff_left_of_imp fun hbad hhidden ↦ hgood ⟨hhidden.2, ?_⟩
    obtain ⟨rfl, -⟩ := hhidden
    exact hbad

/-- With a bad endpoint a bad address is not told of, and with a good one it is. -/
theorem metricsAddress_hidden :
    let s (endpoint : String) : Settings :=
      { telemetry := { endpoint? := some endpoint, metricsAddress := "nowhere" } }
    (s "grpc://[::1]:4317").Flawed .metricsAddress ∧
    (s "grpc://[::1]:4317").problems =
      [.invalidEndpoint "grpc://[::1]:4317" "unsupported scheme \"grpc\""] ∧
    (s "http://[::1]:4317").problems = [.invalidMetricsAddress "nowhere"] := by
  refine ⟨⟨⟨_, rfl, ?_⟩, ?_⟩, ?_, ?_⟩ <;> decide +kernel

/-- Mending a level leaves the problem of the address told, and mending the endpoint brings it
out. -/
theorem problems_told_iff_mended :
    let s (endpoint level : String) : Settings :=
      { telemetry :=
          { endpoint? := some endpoint, metricsAddress := "nowhere", logLevel := level } }
    let q : Invalid := .invalidMetricsAddress "nowhere"
    q ∈ (s "http://[::1]" "info").problems ∧ q ∈ (s "http://[::1]" "loud").problems ∧
      q ∉ (s "grpc://[::1]" "info").problems := by
  intro s q
  have hq : q ∈ (s "http://[::1]" "info").problems := by decide +kernel
  have hlevel : .unknownLogLevel "loud" ∈ (s "http://[::1]" "loud").problems := by decide +kernel
  have hendpoint : .invalidEndpoint "grpc://[::1]" "unsupported scheme \"grpc\"" ∈
      (s "grpc://[::1]" "info").problems := by decide +kernel
  obtain ⟨-, -, -, hstill⟩ := problems_told_iff (s "http://[::1]" "loud")
  obtain ⟨-, -, -, hmended⟩ := problems_told_iff (s "grpc://[::1]" "info")
  refine ⟨hq, ?_, ?_⟩
  · have hnew := hstill _ hlevel (s "http://[::1]" "info")
      (fun j hj ↦ by cases j <;> first | rfl | exact absurd rfl hj) q hq (by decide)
    by_contra hhidden
    exact absurd (hnew.1 hhidden).1 (by decide)
  · exact (hmended _ hendpoint (s "http://[::1]" "info")
      (fun j hj ↦ by cases j <;> first | rfl | exact absurd rfl hj) q hq (by decide)).2 ⟨rfl, rfl⟩

/-! ### What validation lets through -/

/-- What it takes for settings to be valid: a service with a name, a level that there is, and a
profile. -/
structure Valid (s : Settings) : Prop where
  /-- There is something in the name of the service other than blanks. -/
  named : ∃ c ∈ s.serviceName.toList, isBlank c = false
  /-- The level in small letters is one of the five. -/
  level : String.ofList (s.telemetry.logLevel.toList.map Char.toLower) ∈
    ["trace", "debug", "info", "warn", "error"]
  /-- The settings of telemetry mean a profile. -/
  profile : ∃ profile, Profile.ofSettings s.telemetry = .ok profile

theorem problems_eq_nil_iff : s.problems = [] ↔ s.Valid := by
  rw [problems, List.append_eq_nil_iff, List.append_eq_nil_iff, and_assoc]
  have hname : (if isBlankText s.serviceName then [Invalid.emptyServiceName] else []) = [] ↔
      ∃ c ∈ s.serviceName.toList, isBlank c = false := by
    rw [← isBlankText_eq_false_iff]
    cases isBlankText s.serviceName <;> simp
  have hlevel : (if (Level.ofName? s.telemetry.logLevel).isNone
        then [Invalid.unknownLogLevel s.telemetry.logLevel] else []) = [] ↔
      String.ofList (s.telemetry.logLevel.toList.map Char.toLower) ∈
        ["trace", "debug", "info", "warn", "error"] := by
    rw [← not_iff_not, ← Level.isNone_ofName?_iff]
    cases (Level.ofName? s.telemetry.logLevel).isNone <;> simp
  rw [hname, hlevel]
  cases hprofile : Profile.ofSettings s.telemetry with
  | error e => exact ⟨fun h ↦ absurd h.2.2 (by simp), fun h ↦ absurd h.profile (by simp [hprofile])⟩
  | ok profile => exact ⟨fun h ↦ ⟨h.1, h.2.1, profile, hprofile⟩, fun h ↦ ⟨h.named, h.level, rfl⟩⟩

theorem validated_of_valid (h : s.Valid) : s.validated = .ok s := by
  rw [validated, problems_eq_nil_iff.2 h]

theorem validated_of_not_valid (h : ¬s.Valid) : s.validated = .error (.invalid s.problems) := by
  rw [validated]
  split
  · next hnone => exact absurd (problems_eq_nil_iff.1 hnone) h
  · rfl

theorem eq_of_validated (h : s.validated = .ok t) : t = s ∧ s.Valid := by
  by_cases hvalid : s.Valid
  · exact ⟨(Except.ok.inj ((validated_of_valid hvalid).symm.trans h)).symm, hvalid⟩
  · rw [validated_of_not_valid hvalid] at h
    contradiction

end Settings

/-- The place of a problem in what validation tells: the name of the service, the level, the
profile. -/
def Invalid.place : Invalid → Nat
  | .emptyServiceName => 0
  | .unknownLogLevel _ => 1
  | .invalidEndpoint .. | .invalidMetricsAddress _ => 2

/-- Problems are told in their order, and at most one of each place. -/
theorem Settings.pairwise_problems (s : Settings) : s.problems.Pairwise (·.place < ·.place) := by
  have hlast : ∀ p, Profile.ofSettings s.telemetry = .error p → p.place = 2 := by
    intro p hp
    obtain ⟨x, -, -, hurl | ⟨-, -, rfl⟩⟩ := Profile.ofSettings_eq_error_iff.1 hp
    · obtain ⟨reason, rfl⟩ := eq_of_endpointUrl_error hurl
      rfl
    · rfl
  have hfirst : Invalid.emptyServiceName.place = 0 := rfl
  have hsecond (level : String) : (Invalid.unknownLogLevel level).place = 1 := rfl
  rw [problems]
  cases hp : Profile.ofSettings s.telemetry with
  | ok profile => split <;> split <;> simp [hfirst, hsecond]
  | error p => split <;> split <;> simp [hfirst, hsecond, hlast p hp]

namespace Plan

/-- **The settings of a start are those that validation lets through**: resolving the profile once
more neither fails nor changes them. -/
theorem map_settings_resolve (files : Files) (env : Environment) (o : Options) :
    (resolve files env o).map settings =
      (discovered files env o.config?).bind fun s ↦ (s.withOptions o).validated := by
  show ((discovered files env o.config?).bind fun s ↦ ofSettings (s.withOptions o)).map settings = _
  cases discovered files env o.config? with
  | error e => rfl
  | ok s =>
    dsimp only [Except.bind]
    by_cases hvalid : (s.withOptions o).problems = []
    · obtain ⟨profile, -, hok⟩ := ofSettings_of_valid hvalid
      rw [hok, Settings.validated_of_valid (Settings.problems_eq_nil_iff.1 hvalid)]
      rfl
    · rw [ofSettings_of_invalid hvalid,
        Settings.validated_of_not_valid (mt Settings.problems_eq_nil_iff.2 hvalid)]
      rfl

/-- A plan has valid settings, and their profile. -/
theorem resolve_eq_ok {files : Files} {env : Environment} {o : Options} {plan : Plan}
    (h : resolve files env o = .ok plan) :
    plan.settings.Valid ∧ Profile.ofSettings plan.settings.telemetry = .ok plan.profile := by
  change (discovered files env o.config?).bind (fun s ↦ ofSettings (s.withOptions o)) = .ok plan
    at h
  cases hfound : discovered files env o.config? with
  | error e =>
    rw [hfound] at h
    contradiction
  | ok s =>
    rw [hfound] at h
    obtain ⟨hsettings, hprofile⟩ := ofSettings_eq_ok h
    rw [hsettings]
    refine ⟨?_, hprofile⟩
    by_contra hinvalid
    rw [Except.bind, ofSettings_of_invalid (mt Settings.problems_eq_nil_iff.1 hinvalid)] at h
    contradiction

/-- **Validation is exact for a start.** Settings pass as they are if they are valid, and else fail
for a list of problems that is not empty and tells at most one problem of each place in the order of
the places. What has passed has a profile, so a start fails only for its sources or in validation.
The settings of a plan are valid and its profile is theirs, which is the console exactly if there is
no endpoint or a blank one; then any address of the metrics would do as well. -/
theorem resolve_valid (files : Files) (env : Environment) (o : Options) :
    (∀ s : Settings, (s.Valid → s.validated = .ok s) ∧
      (¬s.Valid → ∃ ps, s.validated = .error (.invalid ps) ∧ ps ≠ [] ∧
        ps.Pairwise (·.place < ·.place))) ∧
    (∀ s t : Settings, s.validated = .ok t →
      ∃ profile, Profile.ofSettings t.telemetry = .ok profile) ∧
    (resolve files env o).map settings =
      (discovered files env o.config?).bind (fun s ↦ (s.withOptions o).validated) ∧
    ∀ plan, resolve files env o = .ok plan →
      plan.settings.Valid ∧ Profile.ofSettings plan.settings.telemetry = .ok plan.profile ∧
      (plan.profile = .console ↔
        ∀ x, plan.settings.telemetry.endpoint? = some x → isBlankText x = true) ∧
      (plan.profile = .console → ∀ address,
        let t : TelemetrySettings := { plan.settings.telemetry with metricsAddress := address }
        { plan.settings with telemetry := t }.Valid ∧ Profile.ofSettings t = .ok .console) := by
  refine ⟨fun s ↦ ⟨Settings.validated_of_valid, fun hinvalid ↦ ?_⟩, fun s t hpassed ↦ ?_,
    map_settings_resolve files env o, fun plan hplan ↦ ?_⟩
  · exact ⟨s.problems, Settings.validated_of_not_valid hinvalid,
      mt Settings.problems_eq_nil_iff.1 hinvalid, s.pairwise_problems⟩
  · obtain ⟨rfl, hvalid⟩ := Settings.eq_of_validated hpassed
    exact hvalid.profile
  · obtain ⟨hvalid, hprofile⟩ := resolve_eq_ok hplan
    have hconsole : plan.profile = .console ↔
        ∀ x, plan.settings.telemetry.endpoint? = some x → isBlankText x = true := by
      rw [← Profile.ofSettings_eq_console_iff, hprofile, Except.ok.injEq]
    refine ⟨hvalid, hprofile, hconsole, fun h address ↦ ?_⟩
    have hfree : Profile.ofSettings { plan.settings.telemetry with metricsAddress := address } =
        .ok .console := Profile.ofSettings_eq_console_iff.2 (hconsole.1 h)
    exact ⟨⟨hvalid.named, hvalid.level, _, hfree⟩, hfree⟩

/-- A start for the console in spite of an address that is none, and one for a collector that fails
for that address. -/
theorem resolve_valid_nowhere :
    let env : Environment := fun name ↦
      if name = Environment.metricsAddressName then some "nowhere" else none
    (∃ plan, resolve (fun _ ↦ .missing) env {} = .ok plan ∧ plan.settings.Valid ∧
      plan.profile = .console) ∧
    (resolve (fun _ ↦ .missing) env { endpoint? := some "http://[::1]" }).map settings =
      .error (.invalid [.invalidMetricsAddress "nowhere"]) := by
  intro env
  obtain ⟨-, -, hfound, hgood⟩ := resolve_valid (fun _ ↦ .missing) env {}
  obtain ⟨-, -, hrefused, -⟩ :=
    resolve_valid (fun _ ↦ .missing) env { endpoint? := some "http://[::1]" }
  have hplain : (resolve (fun _ ↦ .missing) env {}).map settings =
      .ok { telemetry := { metricsAddress := "nowhere" } } := hfound.trans (by decide +kernel)
  refine ⟨?_, hrefused.trans (by decide +kernel)⟩
  cases hplan : resolve (fun _ ↦ .missing) env {} with
  | error e =>
    rw [hplan] at hplain
    contradiction
  | ok plan =>
    rw [hplan] at hplain
    obtain ⟨hvalid, -, hconsole, -⟩ := hgood plan hplan
    refine ⟨plan, rfl, hvalid, hconsole.2 fun x hx ↦ ?_⟩
    rw [Except.ok.inj hplain] at hx
    contradiction

end Plan

end TracedFibonacci
