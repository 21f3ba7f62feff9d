import TracedFibonacci.Program
import TracedFibonacci.Proofs.Run.Failure

/-!
# The exit code

The exit code of the program is decided stage by stage: by the command line, by the settings, by
telemetry, and last by the outcome of the run. A stage that fails ends the program then and there,
with its own complaint, and nothing behind it has happened. The input is looked at in the last stage
only, and there it cannot change anything either: input that ends makes the run fail, whatever it
contains.

## Only an interrupt makes it zero

A run that started comes to an exit code of zero in two ways, interrupted or completed. It completes
if its context is cancelled by somebody else than a supervisor, and in the program there is nobody
else (`outcome?_run_ne_completed`).
-/

namespace TracedFibonacci

/-- The user asked for something, and made no mistake. -/
def Refusal.IsQuestion : Refusal → Prop
  | .help _ | .version => True
  | _ => False

instance (r : Refusal) : Decidable r.IsQuestion := by
  cases r <;> simp only [Refusal.IsQuestion] <;> infer_instance

theorem Refusal.exitCode_eq (r : Refusal) : r.exitCode = if r.IsQuestion then 0 else 2 := by
  cases r <;> rfl

namespace Program

variable {w : Surroundings} {args : List String} {watch? : Option Watch} {o : Options} {plan : Plan}

/-! ### Stage by stage -/

theorem exitCode?_perform_of_refused {r : Refusal} (h : CommandLine.read args = .error r) :
    (perform w args watch?).exitCode? = some r.exitCode := by
  rw [perform, Program.plan, h]

theorem perform_of_unresolved {e : SettingsError} (hread : CommandLine.read args = .ok o)
    (h : Plan.resolve w.files w.environment o = .error e) :
    perform w args watch? =
      { exitCode? := some 2
        complaints := ["fib-observer: " ++ (StartupError.settings e).message] } := by
  rw [perform, Program.plan, hread]
  dsimp only
  rw [h]
  rfl

theorem perform_of_resolved (hread : CommandLine.read args = .ok o)
    (h : Plan.resolve w.files w.environment o = .ok plan) :
    perform w args watch? = execute w plan (watch?.bind (interruptOf w plan)) := by
  rw [perform, Program.plan, hread]
  dsimp only
  rw [h]

theorem execute_of_not_started {e : TelemetryError} (h : startTelemetry w plan.profile = .error e)
    (interrupt? : Option (Signal × Nat)) :
    execute w plan interrupt? =
      { exitCode? := some 2
        complaints := ["fib-observer: " ++ (StartupError.telemetry e).message] } := by
  rw [execute, h]
  rfl

/-- The console needs nothing but the log. -/
theorem startTelemetry_console (h : plan.profile = .console) :
    startTelemetry w plan.profile = .ok { exposition? := some .log } := by
  rw [h]
  rfl

theorem perform_of_not_started {e : TelemetryError} (hread : CommandLine.read args = .ok o)
    (hresolve : Plan.resolve w.files w.environment o = .ok plan)
    (hstart : startTelemetry w plan.profile = .error e) :
    perform w args watch? =
      { exitCode? := some 2
        complaints := ["fib-observer: " ++ (StartupError.telemetry e).message] } := by
  rw [perform_of_resolved hread hresolve, execute_of_not_started hstart]

/-- Telemetry starts without a look at the input. -/
theorem startTelemetry_input (w : Surroundings) (input : List Arrival) (profile : Profile) :
    startTelemetry { w with input } profile = startTelemetry w profile := by
  cases profile <;> rfl

/-- Once telemetry has started, the outcome of the run decides. -/
theorem exitCode?_execute {t : Telemetry} (h : startTelemetry w plan.profile = .ok t)
    (interrupt? : Option (Signal × Nat)) :
    (execute w plan interrupt?).exitCode? =
      (run w plan interrupt?).outcome?.map Outcome.exitCode := by
  rw [execute, h]
  dsimp only
  cases (run w plan interrupt?).outcome? <;> rfl

/-! ### The last stage -/

/-- A run on input that ends fails, whatever the input contains. -/
theorem outcome?_run_of_ends (h : Stream.Ends w.input) (plan : Plan) :
    ∃ e, (run w plan none).outcome? = some (.failed (.input e)) := by
  obtain ⟨e, -, houtcome⟩ :=
    Supervision.supervise_of_ends (setup plan none) { arrivals := w.input } 0 rfl rfl h
  exact ⟨e, houtcome⟩

/-- Nor is it ever interrupted by itself. -/
theorem outcome?_run_ne_interrupted (w : Surroundings) (plan : Plan) :
    (run w plan none).outcome? ≠ some .interrupted := by
  intro h
  have hquiet := Supervision.not_interrupted_task (setup plan none) false { arrivals := w.input } 0
  have hinterrupted := (Supervision.outcome?_eq_interrupted_iff _ _ _ _ _).1 h
  exact Bool.false_ne_true (hquiet.symm.trans hinterrupted)

theorem outcome?_run_ne_completed (h : .cancel ∉ w.input) (plan : Plan)
    (interrupt? : Option (Signal × Nat)) :
    (run w plan interrupt?).outcome? ≠ some .completed :=
  Supervision.outcome?_ne_completed _ _ _ rfl h _

/-- The exit code is zero only for an interrupt. -/
theorem interrupted_of_exitCode?_eq_zero {t : Telemetry}
    (hstart : startTelemetry w plan.profile = .ok t) (h : .cancel ∉ w.input)
    {interrupt? : Option (Signal × Nat)}
    (hzero : (execute w plan interrupt?).exitCode? = some 0) :
    (run w plan interrupt?).outcome? = some .interrupted := by
  rw [exitCode?_execute hstart] at hzero
  have hne := outcome?_run_ne_completed h plan interrupt?
  cases houtcome : (run w plan interrupt?).outcome? with
  | none => simp [houtcome] at hzero
  | some o =>
    cases o with
    | interrupted => rfl
    | completed => exact absurd houtcome hne
    | failed e => simp [houtcome, Outcome.exitCode] at hzero

/-- Without an interrupt, and on input that ends, the program fails once telemetry has started. -/
theorem exitCode?_perform_of_ends {t : Telemetry} (hread : CommandLine.read args = .ok o)
    (hresolve : Plan.resolve w.files w.environment o = .ok plan)
    (hstart : startTelemetry w plan.profile = .ok t) (h : Stream.Ends w.input) :
    (perform w args none).exitCode? = some 1 := by
  obtain ⟨e, houtcome⟩ := outcome?_run_of_ends h plan
  rw [perform_of_resolved hread hresolve, Option.bind_none, exitCode?_execute hstart, houtcome]
  rfl

/-- An exit code of zero takes an interrupt, once telemetry has started. -/
theorem exists_interrupt {t : Telemetry} (hread : CommandLine.read args = .ok o)
    (hresolve : Plan.resolve w.files w.environment o = .ok plan)
    (hstart : startTelemetry w plan.profile = .ok t) (h : .cancel ∉ w.input)
    (hzero : (perform w args watch?).exitCode? = some 0) :
    ∃ interrupt, watch?.bind (interruptOf w plan) = some interrupt ∧
      (run w plan (some interrupt)).outcome? = some .interrupted := by
  rw [perform_of_resolved hread hresolve] at hzero
  have hinterrupted := interrupted_of_exitCode?_eq_zero hstart h hzero
  cases hinterrupt : watch?.bind (interruptOf w plan) with
  | none =>
    rw [hinterrupt] at hinterrupted
    exact absurd hinterrupted (outcome?_run_ne_interrupted w plan)
  | some interrupt =>
    rw [hinterrupt] at hinterrupted
    exact ⟨interrupt, rfl, hinterrupted⟩

/-- **The exit code of the program.**

* If the command line is refused, it is two, and zero if the user asked for help or the version.
* If the settings cannot be resolved, or telemetry cannot be started, it is two, and nothing is
  written but a complaint that tells why. That holds for any input, even one that never ends: no
  request is read.
* On input that ends, and without an interrupt, it is one if the settings are resolved for the
  console, and for a collector if telemetry was started. So it does not depend on the input at all.
* Once telemetry was started, it is zero only if the run was interrupted. -/
theorem exitCode_of_stages (w : Surroundings) (args : List String) :
    (∀ r, CommandLine.read args = .error r → ∀ input watch?,
      (perform { w with input } args watch?).exitCode? =
        some (if r.IsQuestion then 0 else 2)) ∧
    (∀ o e, CommandLine.read args = .ok o →
      Plan.resolve w.files w.environment o = .error e → ∀ input watch?,
      perform { w with input } args watch? =
        { exitCode? := some 2
          output := []
          complaints := ["fib-observer: " ++ (StartupError.settings e).message] }) ∧
    (∀ o plan e, CommandLine.read args = .ok o →
      Plan.resolve w.files w.environment o = .ok plan →
      startTelemetry w plan.profile = .error e → ∀ input watch?,
      perform { w with input } args watch? =
        { exitCode? := some 2
          output := []
          complaints := ["fib-observer: " ++ (StartupError.telemetry e).message] }) ∧
    (∀ o plan, CommandLine.read args = .ok o →
      Plan.resolve w.files w.environment o = .ok plan → plan.profile = .console →
      ∀ input, Stream.Ends input → (perform { w with input } args none).exitCode? = some 1) ∧
    (∀ input input', Stream.Ends input → Stream.Ends input' →
      (perform { w with input } args none).exitCode? =
        (perform { w with input := input' } args none).exitCode?) ∧
    ∀ o plan t, CommandLine.read args = .ok o →
      Plan.resolve w.files w.environment o = .ok plan → startTelemetry w plan.profile = .ok t →
      (∀ input, Stream.Ends input → (perform { w with input } args none).exitCode? = some 1) ∧
      ∀ input watch?, .cancel ∉ input →
        (perform { w with input } args watch?).exitCode? = some 0 →
        ∃ interrupt, watch?.bind (interruptOf { w with input } plan) = some interrupt ∧
          (run { w with input } plan (some interrupt)).outcome? = some .interrupted := by
  have hrefused : ∀ r, CommandLine.read args = .error r → ∀ input watch?,
      (perform { w with input } args watch?).exitCode? = some (if r.IsQuestion then 0 else 2) :=
    fun r hread input watch? ↦ by
      rw [exitCode?_perform_of_refused hread, Refusal.exitCode_eq]
  have hunresolved : ∀ o e, CommandLine.read args = .ok o →
      Plan.resolve w.files w.environment o = .error e → ∀ input watch?,
      perform { w with input } args watch? =
        { exitCode? := some 2
          complaints := ["fib-observer: " ++ (StartupError.settings e).message] } :=
    fun o e hread hresolve input watch? ↦ perform_of_unresolved hread hresolve
  have hunstarted : ∀ o plan e, CommandLine.read args = .ok o →
      Plan.resolve w.files w.environment o = .ok plan →
      startTelemetry w plan.profile = .error e → ∀ input watch?,
      perform { w with input } args watch? =
        { exitCode? := some 2
          complaints := ["fib-observer: " ++ (StartupError.telemetry e).message] } :=
    fun o plan e hread hresolve hstart input watch? ↦
      perform_of_not_started hread hresolve ((startTelemetry_input w input _).trans hstart)
  have hended : ∀ o plan t, CommandLine.read args = .ok o →
      Plan.resolve w.files w.environment o = .ok plan → startTelemetry w plan.profile = .ok t →
      ∀ input, Stream.Ends input → (perform { w with input } args none).exitCode? = some 1 :=
    fun o plan t hread hresolve hstart input h ↦
      exitCode?_perform_of_ends hread hresolve ((startTelemetry_input w input _).trans hstart) h
  refine ⟨hrefused, hunresolved, hunstarted, fun o plan hread hresolve hconsole ↦ ?_,
    fun input input' h h' ↦ ?_,
    fun o plan t hread hresolve hstart ↦ ⟨hended o plan t hread hresolve hstart,
      fun input watch? h hzero ↦ ?_⟩⟩
  · exact hended o plan _ hread hresolve (startTelemetry_console hconsole)
  · -- Which stage decides does not depend on the input.
    cases hread : CommandLine.read args with
    | error r => rw [hrefused r hread, hrefused r hread]
    | ok o =>
      cases hresolve : Plan.resolve w.files w.environment o with
      | error e => rw [hunresolved o e hread hresolve, hunresolved o e hread hresolve]
      | ok plan =>
        cases hstart : startTelemetry w plan.profile with
        | error e =>
          rw [hunstarted o plan e hread hresolve hstart, hunstarted o plan e hread hresolve hstart]
        | ok t =>
          rw [hended o plan t hread hresolve hstart input h,
            hended o plan t hread hresolve hstart input' h']
  · exact exists_interrupt hread hresolve ((startTelemetry_input w input _).trans hstart) h hzero

/-- A request and then a fault, a level that is none, and a question. -/
theorem exitCode_of_stages_thrice :
    let w : Surroundings := { files := fun _ ↦ .missing, environment := fun _ ↦ none, input := [] }
    let loud : Environment := fun name ↦
      if name = Environment.logLevelName then some "loud" else none
    (perform { w with input := [.bytes [55, 10], .pause, .fault ⟨.other, none⟩] } []
      none).exitCode? = some 1 ∧
    (∀ input watch?, perform { w with environment := loud, input } ["--json"] watch? =
      { exitCode? := some 2
        output := []
        complaints := ["fib-observer: configuration error: " ++
          (SettingsError.invalid [.unknownLogLevel "loud"]).message] }) ∧
    (perform { w with input := [.stall] } ["--version"] none).exitCode? = some 0 := by
  intro w loud
  refine ⟨?_, fun input watch? ↦ ?_, ?_⟩
  · obtain ⟨-, -, -, hconsole, -⟩ := exitCode_of_stages w []
    refine hconsole {} ⟨{}, .console⟩ (by decide +kernel) (by decide +kernel) rfl _ ⟨?_, ?_⟩
    · decide
    · decide
  · obtain ⟨-, hunresolved, -⟩ := exitCode_of_stages { w with environment := loud } ["--json"]
    exact hunresolved { json := true } _ (by decide +kernel) (by decide +kernel) input watch?
  · obtain ⟨hrefused, -⟩ := exitCode_of_stages w ["--version"]
    exact hrefused .version (by decide +kernel) [.stall] none

end Program

end TracedFibonacci
