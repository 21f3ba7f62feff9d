import TracedFibonacci.Log.Line

/-!
# The log on the console

The console shows a trace record by record, as text or as JSON. Reports handed over and spans that
begin have no record; the end of a span has one only if the console is meant to tell how long spans
took. An output is the sequence of its records: each is written with a line end behind it, but may
hold more of them in text mode.
-/

namespace TracedFibonacci

/-- How the console shows a trace. -/
structure Console where
  /-- What it shows. -/
  filter : Filter
  /-- Whether it writes JSON. -/
  json : Bool := false
  /-- Whether it tells the end of every span. -/
  tellsEnds : Bool := true
  /-- What it shows in place of values that are not known. -/
  placeholders : Placeholders := {}
  deriving Repr, DecidableEq

namespace Console

/-- A record as the console writes it. -/
def write (c : Console) (l : Line) : String :=
  if c.json then l.json c.placeholders else l.text c.placeholders

/-- The record for an entry of a trace inside some open spans, if it has one. -/
def line? (c : Console) (openSpans : List Span) : Entry → Option Line
  | .opened _ | .reported _ => none
  | .closed s => if c.tellsEnds then Line.ofEnd? c.filter openSpans.dropLast s else none
  | .logged around e => Line.ofEvent? c.filter around e

/-- The spans that are open after an entry of a trace, the outermost first. -/
def openAfter (openSpans : List Span) : Entry → List Span
  | .opened s => openSpans ++ [s]
  | .closed _ => openSpans.dropLast
  | .logged .. | .reported _ => openSpans

/-- The entries of a trace inside some open spans, each with what the console writes for it. -/
def transcript (c : Console) (openSpans : List Span) : Trace → List (Entry × Option String)
  | [] => []
  | e :: t => (e, (c.line? openSpans e).map c.write) :: transcript c (openAfter openSpans e) t

/-- The records that the console writes for a trace. -/
def output (c : Console) (t : Trace) : List String := (c.transcript [] t).filterMap (·.2)

end Console

end TracedFibonacci
