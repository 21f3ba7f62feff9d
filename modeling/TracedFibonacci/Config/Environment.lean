import TracedFibonacci.Config.Settings
import TracedFibonacci.Text.Blank

/-!
# Settings from the environment

Four settings can be overridden by variables of the environment. A variable with nothing but blanks
in it counts as not set; any other value is taken as it stands, with the blanks around it.
-/

namespace TracedFibonacci

/-- What the environment says about variables, by name. -/
abbrev Environment := String → Option String

namespace Environment

/-- The variable for the endpoint of the collector. -/
def endpointName : String := "OTEL_EXPORTER_OTLP_ENDPOINT"

/-- The variable for the name of the service. -/
def serviceNameName : String := "OTEL_SERVICE_NAME"

/-- The variable for the address of the metrics. -/
def metricsAddressName : String := "FIB_METRICS_ADDRESS"

/-- The variable for the level of the log. -/
def logLevelName : String := "FIB_LOG_LEVEL"

/-- The value of a variable, unless that is blank. -/
def value? (env : Environment) (name : String) : Option String :=
  (env name).filter (!Text.isBlankText ·)

end Environment

namespace Settings

/-- The settings, overridden by the environment. -/
def withEnvironment (env : Environment) (s : Settings) : Settings :=
  { s with
    serviceName := (env.value? Environment.serviceNameName).getD s.serviceName
    telemetry := { s.telemetry with
      endpoint? := (env.value? Environment.endpointName).or s.telemetry.endpoint?
      metricsAddress :=
        (env.value? Environment.metricsAddressName).getD s.telemetry.metricsAddress
      logLevel := (env.value? Environment.logLevelName).getD s.telemetry.logLevel } }

end Settings

end TracedFibonacci
