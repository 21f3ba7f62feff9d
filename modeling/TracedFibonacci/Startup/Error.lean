import TracedFibonacci.Config.Error

/-!
# Errors of the start

The program does not start without valid settings, nor without the means to write its log, export
its traces and serve its metrics.
-/

namespace TracedFibonacci

/-- What can fail about telemetry. -/
inductive TelemetryPart where
  /-- Writing the log. -/
  | subscriber
  /-- Building what exports traces. -/
  | exporter
  /-- Recording metrics and serving them. -/
  | recorder
  /-- Shutting down what exports traces. -/
  | shutdown
  deriving Repr, DecidableEq

/-- What a message says of a part that failed. -/
def TelemetryPart.failure : TelemetryPart → String
  | subscriber => "failed to install log subscriber: "
  | exporter => "failed to build span exporter: "
  | recorder => "failed to install metrics recorder: "
  | shutdown => "failed to shut down span exporter: "

/-- A failure of telemetry. -/
structure TelemetryError where
  /-- What failed. -/
  part : TelemetryPart
  /-- Why. -/
  text : String
  deriving Repr, DecidableEq

/-- How a message tells of a failure of telemetry. -/
def TelemetryError.message (e : TelemetryError) : String := e.part.failure ++ e.text

/-- Why the program does not start. -/
inductive StartupError where
  /-- There are no valid settings. -/
  | settings (e : SettingsError)
  /-- Telemetry failed. -/
  | telemetry (e : TelemetryError)
  deriving Repr, DecidableEq

/-- How a message tells why the program does not start. -/
def StartupError.message : StartupError → String
  | settings e => "configuration error: " ++ e.message
  | telemetry e => "telemetry error: " ++ e.message

end TracedFibonacci
