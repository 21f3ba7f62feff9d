import TracedFibonacci.Telemetry.Exporter
import TracedFibonacci.Telemetry.Exposition

/-!
# The end of telemetry

While the program runs it owns telemetry: the metrics, and with a collector what sends traces there.
At the end telemetry is torn down, which flushes the metrics and shuts down the exporter, and both
are given away with that.

It is torn down twice. The program does it once explicitly, and it happens again when what is left
is dropped, so that a program that leaves early does not forget it. There is nothing left to do the
second time (`shutdown_eq`).
-/

namespace TracedFibonacci

/-- What the program owns of telemetry. -/
structure Telemetry where
  /-- Where the metrics go, until they are flushed. -/
  exposition? : Option Exposition := none
  /-- What sends traces, until it is shut down. -/
  exporter? : Option Exporter := none
  deriving Repr, DecidableEq

namespace Telemetry

/-- What comes of tearing down telemetry. -/
structure Teardown where
  /-- What the log tells of it. -/
  events : List Event
  /-- What goes wrong. -/
  error? : Option TelemetryError
  /-- What is left to tear down. -/
  left : Telemetry

/-- Flushes the metrics and shuts down the exporter, as far as they are there. -/
def teardown (m : Metrics) (fault? : Option String) (t : Telemetry) : Teardown where
  events := (t.exposition?.map (·.flush m)).getD []
  error? := t.exporter?.bind fun e ↦ (e.shutdown fault?).1
  left := {}

/-- Shuts down telemetry and drops what is left of it: what the log tells, and what goes wrong. What
goes wrong at the dropping is told first. -/
def shutdown (m : Metrics) (fault? : Option String) (t : Telemetry) :
    List Event × List TelemetryError :=
  let first := t.teardown m fault?
  let last := first.left.teardown m fault?
  (first.events ++ last.events, last.error?.toList ++ first.error?.toList)

/-- **Of two times that telemetry is torn down, the first counts.** -/
theorem shutdown_eq (m : Metrics) (fault? : Option String) (t : Telemetry) :
    t.shutdown m fault? =
      ((t.teardown m fault?).events, (t.teardown m fault?).error?.toList) := by
  simp [shutdown, teardown]

end Telemetry

end TracedFibonacci
