import TracedFibonacci.Proofs.Program.Exit
import TracedFibonacci.Proofs.Run.Telling

/-!
# The dump of the metrics

On the console the metrics are told in the log when the run is over. By then the log has told of
each report, at another place in the program and on its own account: what is counted is marked where
a result is handed over, and what is told is an event that passes a filter. The two agree
(`dump_accounts`), and can be compared from the records of one output.

## Records by their content

`Console.Dumps` speaks of the records of an output, as they are written. A record tells of a report
if the console writes it for a report, wherever that is made; no other event is written so. The same
holds of samples. So the counts in the dump are compared with other records of the same output.

A record is not always a line. In text mode the record of the start holds whatever the name of the
service holds, line ends included. What stands on a line of its own there is still part of that
record, and is neither a report nor a sample, whatever it looks like.

## Once, though twice torn down

Telemetry is torn down explicitly and once more when it is dropped. What is given away the first
time is not there the second time (`Telemetry.shutdown_eq`), so no sample is told twice.
-/

namespace TracedFibonacci

open Text

namespace Console

/-- The records of an output tell under a name that the count is `v`: one of them if it was ever
increased, and else none. No other count is told under the name. -/
def Counts (c : Console) (output : List String) (name : String) (v : Nat) : Prop :=
  ∀ k, c.sampleLines (Metrics.sampleText name k) output = if k ≠ 0 ∧ k = v then 1 else 0

/-- What the records of an output tell of a run that failed with the error `e` of its input: the
metrics at its end, in agreement with its reports. -/
structure Dumps (c : Console) (e : RequestError) (output : List String) : Prop where
  /-- The samples come last, behind the failure of the run, and the reports come before that. -/
  order : ∃ before after, output = before ++ c.told [] (.failed (.input e)) :: after ∧
    (∀ s ∈ after, ∃ line, Metrics.namePrefix <+: line.toList ∧ c.TellsSample line s) ∧
    (∀ line, Metrics.namePrefix <+: line.toList →
      ∀ s ∈ before ++ [c.told [] (.failed (.input e))], ¬c.TellsSample line s) ∧
    ∀ ok, ∀ s ∈ c.told [] (.failed (.input e)) :: after, ¬c.TellsReport ok s
  /-- No sample is told twice. -/
  once : ∀ line, Metrics.namePrefix <+: line.toList → c.sampleLines line output ≤ 1
  /-- The results with a value are the reports of one. -/
  ok : c.Counts output (Metrics.labelled "fib_results_total" "outcome" "ok")
    (c.reportLines true output)
  /-- The results with an overflow are the reports of one. -/
  overflowed : c.Counts output (Metrics.labelled "fib_results_total" "outcome" "error")
    (c.reportLines false output)
  /-- There is a report for each request. -/
  requests : c.Counts output "fib_requests_total"
    (c.reportLines true output + c.reportLines false output)
  /-- Each of them was computed. -/
  durations : c.Counts output "fib_compute_duration_seconds_count"
    (c.reportLines true output + c.reportLines false output)
  /-- One error is counted, that of the input. -/
  errors : ∀ kind : RequestError.Kind,
    c.Counts output (Metrics.labelled "fib_input_errors_total" "kind" kind.label)
      (if kind = e.kind then 1 else 0)

end Console

/-! ### The end of the log -/

/-- What is told at the end of a run that failed with an error of its input. -/
def lastEvents (e : RequestError) (m : Metrics) : List Event :=
  .failed (.input e) :: m.samples.map .sample

/-- A trace with that behind it. -/
def Trace.withDump (t : Trace) (e : RequestError) (m : Metrics) : Trace :=
  t ++ (lastEvents e m).map (.logged [])

section Dump

variable {c : Console} {t : Trace} (e : RequestError) (m : Metrics)

theorem Event.usual_failed (x : RunError) : (Event.failed x).Usual :=
  ⟨by simp [Event.level, Span.level, Level.verbosity], fun _ h ↦ by contradiction⟩

theorem Event.usual_sample {line : String} (h : line ∈ m.samples) : (Event.sample line).Usual :=
  ⟨Nat.le_refl _, fun _ heq ↦ Event.sample.inj heq ▸ m.prefix_of_mem_samples h⟩

theorem usual_lastEvents : ∀ x ∈ lastEvents e m, x.Usual := by
  rw [lastEvents, List.forall_mem_cons, List.forall_mem_map]
  exact ⟨Event.usual_failed _, fun _ ↦ Event.usual_sample m⟩

theorem events_withDump : (t.withDump e m).events = t.events ++ lastEvents e m := by
  rw [Trace.withDump, Trace.events_append, Trace.events_logged]

theorem usual_withDump (ht : ∀ x ∈ t.events, x.Usual) : ∀ x ∈ (t.withDump e m).events, x.Usual := by
  rw [events_withDump, List.forall_mem_append]
  exact ⟨ht, usual_lastEvents e m⟩

/-- The samples of the trace are those of the metrics. -/
theorem samples_withDump (ht : ∀ x ∈ t.events, x.sample? = none) :
    (t.withDump e m).events.filterMap Event.sample? = m.samples := by
  rw [events_withDump, List.filterMap_append, List.filterMap_eq_nil_iff.2 ht, lastEvents,
    List.filterMap_cons_none rfl, List.filterMap_map]
  exact List.filterMap_some

/-- The reports are those before the dump. -/
theorem reports_withDump :
    (t.withDump e m).events.filterMap Event.report? = t.events.filterMap Event.report? := by
  have hnone : (lastEvents e m).filterMap Event.report? = [] := by
    rw [lastEvents, List.filterMap_cons_none rfl, List.filterMap_map, List.filterMap_eq_nil_iff]
    exact fun _ _ ↦ rfl
  rw [events_withDump, List.filterMap_append, hnone, List.append_nil]

namespace Console

variable (hc : c.IsOpen) (ht : ∀ x ∈ t.events, x.Usual) (hnone : ∀ x ∈ t.events, x.sample? = none)

include hc

theorem output_withDump : c.output (t.withDump e m) =
    c.output t ++
      c.told [] (.failed (.input e)) :: m.samples.map fun line ↦ c.told [] (.sample line) := by
  rw [Trace.withDump, output_append_logged hc fun x hx ↦ (usual_lastEvents e m x hx).level_le,
    lastEvents, List.map_cons, List.map_map]
  rfl

include ht

theorem reportLines_withDump (ok : Bool) :
    c.reportLines ok (c.output (t.withDump e m)) =
      (t.events.filterMap Event.report?).countP (·.isOk == ok) := by
  rw [reportLines_output hc (usual_withDump e m ht), reports_withDump]

include hnone

theorem sampleLines_withDump {line : String} (hline : Metrics.namePrefix <+: line.toList) :
    c.sampleLines line (c.output (t.withDump e m)) = m.samples.count line := by
  rw [sampleLines_output hc (usual_withDump e m ht) hline, samples_withDump e m hnone]

/-- Under each of its names, the counts of the metrics are told. -/
theorem counts_withDump {name : String} {v : Nat} (h : (name, v) ∈ m.series) :
    c.Counts (c.output (t.withDump e m)) name v := by
  intro k
  rw [sampleLines_withDump e m hc ht hnone (m.prefix_sampleText h k), m.nodup_samples.count]
  exact if_congr (Metrics.sampleText_mem_samples_iff m h k) rfl rfl

/-- Before the dump there is nothing of a sample, and within it nothing of a report. -/
theorem order_withDump :
    (∀ line, Metrics.namePrefix <+: line.toList →
      ∀ s ∈ c.output t ++ [c.told [] (.failed (.input e))], ¬c.TellsSample line s) ∧
    ∀ ok, ∀ s ∈ c.told [] (.failed (.input e)) ::
      m.samples.map fun line ↦ c.told [] (.sample line), ¬c.TellsReport ok s := by
  classical
  constructor
  · intro line hline
    rw [List.forall_mem_append, List.forall_mem_singleton,
      tellsSample_told_iff (Event.usual_failed _) hline]
    refine ⟨fun s hs ↦ ?_, by simp⟩
    -- If a record told a sample, it would be counted.
    have hzero := sampleLines_output hc ht hline
    rw [List.filterMap_eq_nil_iff.2 hnone, List.count_nil, sampleLines,
      List.countP_eq_zero] at hzero
    simpa using hzero s hs
  · intro ok
    rw [List.forall_mem_cons, List.forall_mem_map, tellsReport_told_iff (Event.usual_failed _)]
    refine ⟨by simp, fun line hline ↦ ?_⟩
    rw [tellsReport_told_iff (Event.usual_sample m hline)]
    simp

/-- **Samples that are told behind a failure**, of metrics that account for the reports. -/
theorem dumps_withDump (hm : m.Accounts (t.events.filterMap Event.report?) 0 0)
    (herrors : ∀ kind, m.errors kind = if kind = e.kind then 1 else 0) :
    c.Dumps e (c.output (t.withDump e m)) := by
  have hcounts := fun name v ↦ @counts_withDump c t e m hc ht hnone name v
  have hok : c.reportLines true (c.output (t.withDump e m)) = m.ok := by
    rw [reportLines_withDump e m hc ht, hm.ok]
    simp
  have hoverflowed : c.reportLines false (c.output (t.withDump e m)) = m.overflowed := by
    rw [reportLines_withDump e m hc ht, hm.overflowed]
    simp
  constructor
  case order =>
    obtain ⟨hbefore, hafter⟩ := order_withDump e m hc ht hnone
    refine ⟨_, _, output_withDump e m hc, ?_, hbefore, hafter⟩
    rw [List.forall_mem_map]
    exact fun line hline ↦ ⟨line, m.prefix_of_mem_samples hline, [], rfl⟩
  case once =>
    intro line hline
    rw [sampleLines_withDump e m hc ht hnone hline]
    exact List.nodup_iff_count_le_one.1 m.nodup_samples line
  case ok =>
    rw [hok]
    exact hcounts _ _ (by simp [Metrics.series])
  case overflowed =>
    rw [hoverflowed]
    exact hcounts _ _ (by simp [Metrics.series])
  case requests =>
    have hrequests : m.requests = m.ok + m.overflowed := hm.requests
    rw [hok, hoverflowed, ← hrequests]
    exact hcounts _ _ (by simp [Metrics.series])
  case durations =>
    have hdurations : m.durations = m.ok + m.overflowed := hm.durations.trans hm.requests
    rw [hok, hoverflowed, ← hdurations]
    exact hcounts _ _ (by simp [Metrics.series])
  case errors =>
    intro kind
    rw [← herrors kind]
    refine hcounts _ _ ?_
    cases kind <;> simp [Metrics.series, RequestError.Kind.all]

end Console

end Dump

namespace Program

variable {w : Surroundings} {plan : Plan}

/-! ### The console and the trace of the program -/

/-- Without a filter in the environment, a level that shows spans makes an open console. -/
theorem isOpen_console (hunset : w.environment Filter.variableName = none) {l : Level}
    (hlevel : Level.ofName? plan.settings.telemetry.logLevel = some l)
    (hl : Span.level.verbosity ≤ l.verbosity) : (console w plan).IsOpen := by
  refine ⟨l, hl, ?_⟩
  rw [console, hunset, Filter.ofEnvironment_none hlevel]

/-- What is told before the run, and what the run tells by itself. -/
theorem events_trace (plan : Plan) (s : Supervised) :
    (trace plan s []).events = opening plan ++ s.activity.trace.events := by
  show Trace.events ((opening plan).map (.logged []) ++ s.activity.trace ++ []) = _
  rw [List.append_nil, Trace.events_append, Trace.events_logged]

theorem trace_eq_append (plan : Plan) (s : Supervised) (ending : List Event) :
    trace plan s ending = trace plan s [] ++ ending.map (.logged []) := by
  simp [trace]

/-- **The events before the end of the run.** None of them is mistaken for something else, and none
tells a sample; the reports among them are those that the run has made. -/
theorem events_before (hconsole : plan.profile = .console) :
    (∀ x ∈ (trace plan (run w plan none) []).events, x.Usual ∧ x.sample? = none) ∧
      (trace plan (run w plan none) []).events.filterMap Event.report? =
        (run w plan none).activity.reports := by
  have hopening : opening plan = [.starting plan.settings.serviceName plan.profile.name
      plan.settings.runner.overflow] := by
    rw [opening, hconsole]
    rfl
  rw [events_trace, hopening, List.singleton_append]
  constructor
  · rw [List.forall_mem_cons]
    refine ⟨⟨⟨Nat.le_refl _, fun _ h ↦ by contradiction⟩, rfl⟩, fun x hx ↦ ?_⟩
    rcases Supervision.ofRun_supervise (setup plan none) { arrivals := w.input } 0 x hx with h | h
    · exact h.usual
    · contradiction
  · rw [List.filterMap_cons_none rfl]
    exact Supervision.reports_told (setup plan none) { arrivals := w.input } 0 rfl
      (fun _ h ↦ by contradiction)

/-- What was counted in a run that failed with an error of its input. -/
theorem metrics_of_failed {s : Supervised} {e : RequestError}
    (hmarks : s.activity.marks = s.activity.reports.flatMap Report.marks ++ [.error e.kind]) :
    (Metrics.recordAll {} s.activity.marks).Accounts s.activity.reports 0 0 ∧
      ∀ kind, (Metrics.recordAll {} s.activity.marks).errors kind =
        if kind = e.kind then 1 else 0 := by
  rw [hmarks]
  refine ⟨Metrics.accounts_ending _ (.failed e), fun kind ↦ ?_⟩
  rw [Metrics.recordAll_eq_counts]
  show List.count _ _ = _
  rw [List.count_append, count_error_marks, Nat.zero_add, List.count_singleton]
  exact if_congr (by rw [beq_iff_eq, Metrics.Mark.error.injEq, eq_comm]) rfl rfl

/-- What the program writes on the console if its run fails with an error of its input. -/
theorem output_execute (hconsole : plan.profile = .console) {e : RequestError}
    (he : (run w plan none).outcome? = some (.failed (.input e))) :
    (execute w plan none).output = (console w plan).output
      ((trace plan (run w plan none) []).withDump e
        (Metrics.recordAll {} (run w plan none).activity.marks)) := by
  rw [execute, startTelemetry_console hconsole]
  dsimp only
  rw [he]
  dsimp only
  rw [Telemetry.shutdown_eq]
  show (console w plan).output (trace plan _ (closing _ ++ Exposition.log.flush _)) = _
  rw [Exposition.flush_log]
  exact congrArg (console w plan).output (trace_eq_append plan _ _)

/-- **The dump of the metrics agrees with the reports.** If the settings are resolved for the
console, with a level that shows spans and without a filter in the environment, and if the input
ends and no signal arrives, then the run fails with an error of its input, and the output tells the
metrics at its end: each sample once, although telemetry is torn down twice, and behind the failure
and every report. The counts told are those of the reports told, whatever good, overflowing and bad
lines the input has, and one error of the kind that ended the run. -/
theorem dump_accounts {args : List String} {o : Options} {l : Level}
    (hread : CommandLine.read args = .ok o)
    (hresolve : Plan.resolve w.files w.environment o = .ok plan)
    (hconsole : plan.profile = .console) (hunset : w.environment Filter.variableName = none)
    (hlevel : Level.ofName? plan.settings.telemetry.logLevel = some l)
    (hl : l = .info ∨ l = .debug ∨ l = .trace) (hends : Stream.Ends w.input) :
    ∃ e, (run w plan none).outcome? = some (.failed (.input e)) ∧
      (console w plan).Dumps e (perform w args none).output := by
  obtain ⟨e, hending, houtcome⟩ :=
    Supervision.supervise_of_ends (setup plan none) { arrivals := w.input } 0 rfl rfl hends
  have hopen : (console w plan).IsOpen :=
    isOpen_console hunset hlevel (by rcases hl with rfl | rfl | rfl <;> decide)
  have hmarks := Supervision.marks_supervise (setup plan none) none false { arrivals := w.input } 0
  rw [hending] at hmarks
  obtain ⟨haccounts, herrors⟩ := metrics_of_failed hmarks
  obtain ⟨hbefore, hreports⟩ := events_before (w := w) hconsole
  refine ⟨e, houtcome, ?_⟩
  rw [perform_of_resolved hread hresolve, Option.bind_none, output_execute hconsole houtcome]
  refine Console.dumps_withDump e _ hopen (fun x hx ↦ (hbefore x hx).1)
    (fun x hx ↦ (hbefore x hx).2) ?_ herrors
  rw [hreports]
  exact haccounts

/-- A number, one whose answer does not fit, and a letter. -/
theorem dump_accounts_mixed :
    let w : Surroundings :=
      { files := fun _ ↦ .missing, environment := fun _ ↦ none,
        input := [.bytes [55, 10, 57, 52], .pause, .bytes [10, 120, 10]] }
    let plan : Plan :=
      ⟨{ telemetry := { logLevel := "Debug" }, runner := { overflow := .checked } }, .console⟩
    let output := (perform w ["--overflow", "checked", "--log-level", "Debug"] none).output
    (console w plan).Dumps (.malformed 3 "x") output ∧
    output.drop 17 =
      ["ERROR Run loop failed error=line 3: expected an unsigned integer, got \"x\"",
        " INFO fib_compute_duration_seconds_count 2",
        " INFO fib_input_errors_total\x7bkind=\"malformed\"\x7d 1",
        " INFO fib_requests_total 2",
        " INFO fib_results_total\x7boutcome=\"error\"\x7d 1",
        " INFO fib_results_total\x7boutcome=\"ok\"\x7d 1"] := by
  intro w plan output
  have hends : Stream.Ends w.input := ⟨by decide, by decide⟩
  obtain ⟨e, he, hdumps⟩ :=
    @dump_accounts w plan ["--overflow", "checked", "--log-level", "Debug"]
      { overflow? := some .checked, logLevel? := some "Debug" } .debug
      (by decide +kernel) (by decide +kernel) rfl rfl (by decide +kernel) (.inr (.inl rfl)) hends
  have hmalformed : (run w plan none).outcome? = some (.failed (.input (.malformed 3 "x"))) := by
    decide +kernel
  rw [hmalformed] at he
  obtain rfl := RunError.input.inj (Outcome.failed.inj (Option.some.inj he))
  refine ⟨hdumps, ?_⟩
  decide +kernel

end Program

end TracedFibonacci
