import TracedFibonacci.Log.Level
import TracedFibonacci.Run.Report

/-!
# Events of the log

Everything the program says about itself while it runs. An event has a level, a target, a message
and fields. The target names the part of the program that speaks; it is not printed, but a filter
can select by it.

## Field values

A field prints its value in one of three ways: a number in decimal digits, a name or an address as
it stands, and a fixed text in quotes. Two more have no value in this library: the identifier of a
run, which is new for each run, and the time that something took.
-/

namespace TracedFibonacci

open Text

/-- The value of a field. -/
inductive FieldValue where
  /-- A number. -/
  | number (n : Nat)
  /-- A text that is printed as it stands. -/
  | plain (s : String)
  /-- A text that is printed in quotes. -/
  | quoted (s : String)
  /-- The identifier of a run. -/
  | runId
  /-- The time that something took. -/
  | elapsed
  deriving Repr, DecidableEq

/-- A named value. -/
structure Field where
  /-- The name. -/
  name : String
  /-- The value. -/
  value : FieldValue
  deriving Repr, DecidableEq

/-- A signal that interrupts the program. -/
inductive Signal where
  | interrupt
  | terminate
  deriving Repr, DecidableEq

namespace Signal

/-- The name of a signal. -/
def name : Signal → String
  | .interrupt => "SIGINT"
  | .terminate => "SIGTERM"

/-- The signal of the given name. -/
def ofName? (s : String) : Option Signal :=
  [Signal.interrupt, Signal.terminate].find? (·.name == s)

end Signal

/-- Something the log tells. -/
inductive Event where
  /-- The program starts, under the name of its service and with the name of its exporter profile.
  -/
  | starting (service profile : String) (policy : OverflowPolicy)
  /-- The reader turns to the line of this number. -/
  | waiting (line : Nat)
  /-- The run was found cancelled after so many iterations. -/
  | cancelled (iterations : Nat)
  /-- The run was cancelled while it waited in its last iteration. -/
  | cancelledWhilePolling (iterations : Nat)
  /-- A report. -/
  | reported (report : Report)
  /-- A signal arrived. -/
  | interrupted (signal : Signal)
  /-- The run did not end within the grace period. -/
  | stillBusy (graceMs : Nat)
  /-- The interrupted program takes its leave. -/
  | goodbye
  /-- The run failed. -/
  | failed (e : RunError)
  /-- The run ended without an error. -/
  | finished
  /-- A line of the metrics. -/
  | sample (line : String)
  /-- The metrics can be fetched from this address. -/
  | listenerStarted (address : String)
  /-- The metrics can no longer be fetched from this address. -/
  | listenerStopped (address : String)

namespace Event

/-- How grave an event is. -/
def level : Event → Level
  | .reported r => if r.isOk then .info else .warn
  | .stillBusy _ => .warn
  | .failed _ => .error
  | .listenerStopped _ => .debug
  | _ => .info

/-- The part of the program that tells of an event. -/
def target : Event → String
  | .starting .. | .failed _ | .finished => "fib_observer::lifecycle::startup"
  | .waiting _ => "fib_observer::input::reader"
  | .cancelled _ | .cancelledWhilePolling _ => "fib_observer::runner::app"
  | .reported _ => "fib_observer::runner::report"
  | .interrupted _ => "fib_observer::lifecycle::signals"
  | .stillBusy _ | .goodbye => "fib_observer::lifecycle::supervisor"
  | .sample _ => "fib_observer::metrics"
  | .listenerStarted _ | .listenerStopped _ => "fib_observer::observability::metrics"

/-- What an event says. -/
def message : Event → String
  | .starting .. => "fib-observer starting"
  | .waiting _ => "Waiting for next input"
  | .cancelled _ => "Run loop cancelled"
  | .cancelledWhilePolling _ => "Run loop cancelled while polling"
  | .reported r => r.line
  | .interrupted _ => "Interrupt received"
  | .stillBusy _ => "Run loop still busy, aborting"
  | .goodbye => "goodbye"
  | .failed _ => "Run loop failed"
  | .finished => "Run loop finished"
  | .sample line => line
  | .listenerStarted _ => "Metrics listener started"
  | .listenerStopped _ => "Metrics listener stopped"

/-- What an event adds to its message. -/
def fields : Event → List Field
  | .starting service profile policy =>
    [⟨"service", .plain service⟩, ⟨"profile", .quoted profile⟩, ⟨"overflow", .plain policy.title⟩]
  | .waiting line => [⟨"line", .number line⟩]
  | .cancelled k | .cancelledWhilePolling k => [⟨"iterations", .number k⟩]
  | .interrupted s => [⟨"signal", .quoted s.name⟩]
  | .stillBusy ms => [⟨"grace_ms", .number ms⟩]
  | .failed e => [⟨"error", .plain e.message⟩]
  | .listenerStarted a | .listenerStopped a => [⟨"address", .plain a⟩]
  | .reported _ | .goodbye | .finished | .sample _ => []

end Event

end TracedFibonacci
