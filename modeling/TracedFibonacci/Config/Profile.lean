import TracedFibonacci.Config.Settings
import TracedFibonacci.Log.Level
import TracedFibonacci.Net.SocketAddress
import TracedFibonacci.Text.Blank
import TracedFibonacci.Text.Quoted
import TracedFibonacci.Url.WebUrl

/-!
# Profiles and the validation of settings

Traces and metrics go to the console, or to a collector when an endpoint was given. The endpoint
of a collector is a URL of the web; when it says nothing about the path, it means the path at
which collectors receive traces. Blanks around it do not matter, and a blank endpoint is none.

Validation tells all that is wrong with some settings, in a fixed order: the name of the service,
the level of the log, the profile. Of a profile it tells the first thing that is wrong. The
address of the metrics is looked at only when there is a collector.
-/

namespace TracedFibonacci

open Text

/-- What can be wrong with settings. -/
inductive Invalid where
  /-- The name of the service is blank. -/
  | emptyServiceName
  /-- There is no such level. -/
  | unknownLogLevel (level : String)
  /-- The endpoint is not the URL of a collector. -/
  | invalidEndpoint (endpoint reason : String)
  /-- The address of the metrics is no socket address. -/
  | invalidMetricsAddress (address : String)
  deriving Repr, DecidableEq

/-- How a message tells what is wrong. -/
def Invalid.message : Invalid → String
  | emptyServiceName => "service_name must not be empty"
  | unknownLogLevel level => "unknown log level " ++ quote level
  | invalidEndpoint endpoint reason =>
    "invalid collector endpoint " ++ quote endpoint ++ ": " ++ reason
  | invalidMetricsAddress address => "invalid metrics address " ++ quote address

/-- Where traces and metrics go. -/
inductive Profile where
  /-- To the console. -/
  | console
  /-- Traces to this URL, and metrics to whoever fetches them from this address. -/
  | collector (traces : Url.WebUrl) (metrics : Net.SocketAddress)
  deriving Repr, DecidableEq

namespace Profile

/-- The name of a profile in the log. -/
def name : Profile → String
  | console => "console"
  | collector .. => "collector"

/-- The path at which collectors receive traces. -/
def tracesPath : Url.Path := ["v1".toList, "traces".toList]

/-- The URL for traces: one without a path gets the path for traces. -/
def tracesUrl (u : Url.WebUrl) : Url.WebUrl :=
  if u.path = Url.Path.root then { u with path := tracesPath } else u

/-- The URL for traces that an endpoint means. -/
def endpointUrl (endpoint : String) : Except Invalid Url.WebUrl :=
  match Url.read endpoint.toList with
  | .error f => .error (.invalidEndpoint endpoint f.message)
  | .ok (.foreign scheme) =>
    .error (.invalidEndpoint endpoint ("unsupported scheme " ++ quote (String.ofList scheme)))
  | .ok (.web u) => .ok (tracesUrl u)

/-- The profile that settings mean. -/
def ofSettings (t : TelemetrySettings) : Except Invalid Profile :=
  let endpoint := trim (t.endpoint?.getD "")
  if endpoint = "" then .ok .console
  else
    match endpointUrl endpoint with
    | .error e => .error e
    | .ok traces =>
      match Net.SocketAddress.ofText? t.metricsAddress with
      | some metrics => .ok (.collector traces metrics)
      | none => .error (.invalidMetricsAddress t.metricsAddress)

end Profile

namespace Settings

/-- What is wrong with settings. -/
def problems (s : Settings) : List Invalid :=
  (if isBlankText s.serviceName then [.emptyServiceName] else []) ++
    (if (Level.ofName? s.telemetry.logLevel).isNone then [.unknownLogLevel s.telemetry.logLevel]
      else []) ++
    match Profile.ofSettings s.telemetry with
    | .error e => [e]
    | .ok _ => []

end Settings

end TracedFibonacci
