import TracedFibonacci.Startup.Error
import TracedFibonacci.Url.WebUrl

/-!
# The exporter of traces

Traces are sent to the URL of a collector. The exporter wants URLs of plain characters, and a few
characters can be part of a domain name that are none. It keeps what it has to send until it is shut
down, and it can be shut down once.
-/

namespace TracedFibonacci

/-- What sends traces to a collector. -/
structure Exporter where
  /-- Where they are sent. -/
  url : Url.WebUrl
  /-- Whether it was shut down. -/
  stopped : Bool := false
  deriving Repr, DecidableEq

namespace Exporter

/-- Whether a character cannot be part of a host to which traces are sent. -/
def isUnsendable (c : Char) : Bool := c == '"' || c == '`' || c == '\x7b' || c == '\x7d'

/-- An exporter for a URL. -/
def build (url : Url.WebUrl) : Except TelemetryError Exporter :=
  if url.host.write.any isUnsendable then
    .error ⟨.exporter, "invalid URI " ++ url.text ++ ". Reason invalid uri character"⟩
  else .ok { url }

/-- Shuts down an exporter, where sending what it still has may go wrong. -/
def shutdown (e : Exporter) (fault? : Option String) : Option TelemetryError × Exporter :=
  if e.stopped then (some ⟨.shutdown, "Shutdown already invoked"⟩, e)
  else (fault?.map fun text ↦ ⟨.shutdown, text⟩, { e with stopped := true })

end Exporter

end TracedFibonacci
