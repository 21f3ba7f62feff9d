import TracedFibonacci.Fibonacci

/-!
# Settings

What the program can be told before it starts. Every setting has a default, and all settings are
kept as they were given: whether a text is a good address or a known level is checked later.
-/

namespace TracedFibonacci

/-- Where traces, metrics and logs go. -/
structure TelemetrySettings where
  /-- The endpoint of a collector; without one everything goes to the console. -/
  endpoint? : Option String := none
  /-- The address at which metrics can be fetched, if there is a collector. -/
  metricsAddress : String := "0.0.0.0:9464"
  /-- The level of the log. -/
  logLevel : String := "info"
  /-- Whether the log is written as JSON. -/
  jsonLogs : Bool := false
  deriving Repr, DecidableEq

/-- How requests are answered. -/
structure RunnerSettings where
  /-- What becomes of a number that does not fit a word. -/
  overflow : OverflowPolicy := .wrapping
  /-- How long a computation takes, in microseconds. -/
  workDelayUs : UInt64 := 0
  deriving Repr, DecidableEq

/-- All settings. -/
structure Settings where
  /-- The name of the service in traces. -/
  serviceName : String := "fib-observer"
  /-- Where traces, metrics and logs go. -/
  telemetry : TelemetrySettings := {}
  /-- How requests are answered. -/
  runner : RunnerSettings := {}
  deriving Repr, DecidableEq

end TracedFibonacci
