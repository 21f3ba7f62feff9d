import TracedFibonacci.Log.Console
import TracedFibonacci.Options.CommandLine
import TracedFibonacci.Options.Help
import TracedFibonacci.Run.Supervision
import TracedFibonacci.Startup.Resolve
import TracedFibonacci.Telemetry.Teardown

/-!
# The program

The program reads its command line, resolves its settings, starts telemetry, runs under supervision
until its input or an interrupt ends it, and shuts telemetry down. If it does not come to a run, it
says why and reads no input. Once it runs, its exit code depends on the outcome of the run alone.

## What a signal interrupts

Time is virtual and passes only while a request is computed. A `Watch` sends a signal a moment after
the console first shows a certain text, which is how an interrupt from outside gets a place in that
time.
-/

namespace TracedFibonacci

/-- What is around the program while it runs. -/
structure Surroundings where
  /-- The files it can read. -/
  files : Files
  /-- The variables it can look up. -/
  environment : Environment
  /-- What arrives at its input. -/
  input : List Arrival
  /-- Why an address cannot be listened at. -/
  listenFault? : Net.SocketAddress → Option String := fun _ ↦ none
  /-- Why traces cannot be sent. -/
  exportFault? : Option String := none
  /-- What the console shows in place of values that are not known. -/
  placeholders : Placeholders := {}

/-- What a run of the program leaves behind. -/
structure Execution where
  /-- The exit code, unless the program does not end. -/
  exitCode? : Option Nat
  /-- What it wrote: the records of the log or, before there is one, the lines of an answer. -/
  output : List String := []
  /-- What it complained about. -/
  complaints : List String := []
  deriving Repr, DecidableEq

/-- A watch for a text on the console. -/
structure Watch where
  /-- The signal to send. -/
  signal : Signal
  /-- The text to wait for. -/
  awaited : String
  deriving Repr, DecidableEq

namespace Program

/-- The exit code of a start that failed. -/
def startupFailure : Nat := 2

/-- A complaint of the program. -/
def complaint (message : String) : String := programName ++ ": " ++ message

/-- The console of a plan. -/
def console (w : Surroundings) (plan : Plan) : Console where
  filter :=
    Filter.ofEnvironment (w.environment Filter.variableName) plan.settings.telemetry.logLevel
  json := plan.settings.telemetry.jsonLogs
  tellsEnds := plan.profile = .console
  placeholders := w.placeholders

/-- Where the metrics of a profile go. -/
def exposition : Profile → Exposition
  | .console => .log
  | .collector _ address => .listener address

/-- Starts what a profile needs; with a collector that is an exporter, too. -/
def startTelemetry (w : Surroundings) (profile : Profile) : Except TelemetryError Telemetry :=
  match profile with
  | .console => .ok { exposition? := some (exposition profile) }
  | .collector traces metrics => do
    let exporter ← Exporter.build traces
    match w.listenFault? metrics with
    | some text => .error ⟨.recorder, "failed to create HTTP listener: " ++ text⟩
    | none => return { exposition? := some (exposition profile), exporter? := some exporter }

/-- What the log tells before the run. -/
def opening (plan : Plan) : List Event :=
  let started : List Event :=
    match plan.profile with
    | .console => []
    | .collector _ address => [.listenerStarted address.text]
  started ++
    [.starting plan.settings.serviceName plan.profile.name plan.settings.runner.overflow]

/-- What the log tells after the run. -/
def closing : Outcome → List Event
  | .interrupted => []
  | .completed => [.finished]
  | .failed e => [.failed e]

/-- How a plan is run, with an interrupt to announce if there is one. -/
def setup (plan : Plan) (signal? : Option Signal) : Setup where
  policy := plan.settings.runner.overflow
  workDelayUs := plan.settings.runner.workDelayUs
  logsReports := true
  announcement := (signal?.map Event.interrupted).toList

/-- The run of a plan, with an interrupt at a certain time. -/
def run (w : Surroundings) (plan : Plan) (interrupt? : Option (Signal × Nat)) : Supervised :=
  Supervision.supervise (setup plan (interrupt?.map (·.1))) (interrupt?.map (·.2)) false
    { arrivals := w.input }

/-- The trace of the program with a given run and what the log tells after it. -/
def trace (plan : Plan) (s : Supervised) (ending : List Event) : Trace :=
  let told (es : List Event) : Trace := es.map (.logged [])
  told (opening plan) ++ s.activity.trace ++ told ending

/-- Whether there are spans in a trace that are exported. -/
def hasExports (t : Trace) : Bool :=
  t.any fun
    | .closed s => Filter.exported.showsSpan [] s
    | _ => false

/-- The program with a plan, from the start of telemetry to its end. -/
def execute (w : Surroundings) (plan : Plan) (interrupt? : Option (Signal × Nat)) : Execution :=
  match startTelemetry w plan.profile with
  | .error e =>
    { exitCode? := some startupFailure
      complaints := [complaint (StartupError.telemetry e).message] }
  | .ok telemetry =>
    let s := run w plan interrupt?
    match s.outcome? with
    | none => { exitCode? := none, output := (console w plan).output (trace plan s []) }
    | some o =>
      -- an export that never takes place cannot fail
      let fault? := if hasExports s.activity.trace then w.exportFault? else none
      let (events, errors) := telemetry.shutdown (Metrics.recordAll {} s.activity.marks) fault?
      { exitCode? := some o.exitCode
        output := (console w plan).output (trace plan s (closing o ++ events))
        complaints := errors.map fun e ↦ complaint e.message }

/-- What the program runs with, or what it leaves behind if it does not come to a run. -/
def plan (w : Surroundings) (args : List String) : Except Execution Plan :=
  match CommandLine.read args with
  | .error r =>
    .error {
      exitCode? := some r.exitCode
      output := r.answer?.getD []
      complaints := if r.answer?.isSome then [] else [r.message] }
  | .ok options =>
    match Plan.resolve w.files w.environment options with
    | .error e =>
      .error {
        exitCode? := some startupFailure
        complaints := [complaint (StartupError.settings e).message] }
    | .ok plan => .ok plan

/-- How long after the awaited text a watch sends its signal, in milliseconds. -/
def watchDelayMs : Nat := 25

/-- Whether a text occurs in another. -/
def occursIn (part : List Char) : List Char → Bool
  | [] => part.isEmpty
  | c :: cs => part.isPrefixOf (c :: cs) || occursIn part cs

/-- When the console first shows a text, if a computation takes so many milliseconds. -/
def momentOf? (awaited : String) (workMs : Nat) : List (Entry × Option String) → Option Nat
  | [] => none
  | (entry, written?) :: rest =>
    -- the end of a computation is shown when the time for it has passed
    let ms :=
      match entry with
      | .closed (.compute _) => workMs
      | _ => 0
    if written?.any fun line ↦ occursIn awaited.toList line.toList then some ms
    else (momentOf? awaited workMs rest).map (· + ms)

/-- The interrupt that a watch makes. -/
def interruptOf (w : Surroundings) (plan : Plan) (watch : Watch) : Option (Signal × Nat) :=
  let workMs := Setup.workMs { workDelayUs := plan.settings.runner.workDelayUs }
  -- up to the interrupt the run is the one without it
  let shown := (console w plan).transcript [] (trace plan (run w plan none) [])
  (momentOf? watch.awaited workMs shown).map fun t ↦ (watch.signal, t + watchDelayMs)

/-- The program with some arguments, and possibly a watch on its console. -/
def perform (w : Surroundings) (args : List String) (watch? : Option Watch) : Execution :=
  match plan w args with
  | .error ended => ended
  | .ok plan => execute w plan (watch?.bind (interruptOf w plan))

end Program

end TracedFibonacci
