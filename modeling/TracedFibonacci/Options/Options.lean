import TracedFibonacci.Config.Settings

/-!
# Options

What the command line can say: where the file of settings is, and six settings that override all
others. An option that was not given overrides nothing; one that was given overrides, even with a
blank.
-/

namespace TracedFibonacci

/-- What was said on the command line. -/
structure Options where
  /-- The path of a file of settings. -/
  config? : Option String := none
  /-- The endpoint of a collector. -/
  endpoint? : Option String := none
  /-- The name of the service. -/
  serviceName? : Option String := none
  /-- What becomes of a number that does not fit a word. -/
  overflow? : Option OverflowPolicy := none
  /-- How long a computation takes, in microseconds. -/
  workDelayUs? : Option UInt64 := none
  /-- The level of the log. -/
  logLevel? : Option String := none
  /-- Whether the log is to be written as JSON. -/
  json : Bool := false
  deriving Repr, DecidableEq

namespace Settings

/-- The settings, overridden by the command line. -/
def withOptions (o : Options) (s : Settings) : Settings where
  serviceName := o.serviceName?.getD s.serviceName
  telemetry := { s.telemetry with
    endpoint? := o.endpoint?.or s.telemetry.endpoint?
    logLevel := o.logLevel?.getD s.telemetry.logLevel
    jsonLogs := s.telemetry.jsonLogs || o.json }
  runner := {
    overflow := o.overflow?.getD s.runner.overflow
    workDelayUs := o.workDelayUs?.getD s.runner.workDelayUs }

/-- A command line that says nothing overrides nothing. -/
theorem withOptions_empty (s : Settings) : s.withOptions {} = s := by
  simp [withOptions]

end Settings

end TracedFibonacci
