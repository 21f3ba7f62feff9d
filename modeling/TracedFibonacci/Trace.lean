import TracedFibonacci.Log.Event

/-!
# Traces

A trace tells in order what a run did: the spans it opened and closed, the events it logged, and the
reports it made. Spans are nested: a run holds iterations, and an iteration holds in turn its poll,
its computation and its report.

`Entry.render` is the text form of a trace, one text to an entry.
-/

namespace TracedFibonacci

open Text

/-- A stretch of a run. -/
inductive Span where
  /-- The whole run. -/
  | run
  /-- The iteration of this number. -/
  | iteration (k : Nat)
  /-- Waiting for a request. -/
  | poll
  /-- Computing the answer to a request. -/
  | compute (n : UInt64)
  /-- Reporting the answer to a request. -/
  | report (n : UInt64)
  deriving Repr, DecidableEq

namespace Span

/-- The name of a span. -/
def name : Span → String
  | .run => "app.run"
  | .iteration _ => "app.iteration"
  | .poll => "app.poll"
  | .compute _ => "app.compute"
  | .report _ => "app.report"

/-- What a span records. -/
def fields : Span → List Field
  | .run => [⟨"run_id", .runId⟩]
  | .iteration k => [⟨"iteration", .number k⟩]
  | .poll => []
  | .compute n | .report n => [⟨"n", .number n.toNat⟩]

/-- The level of every span. -/
def level : Level := .info

/-- The part of the program that opens spans. -/
def target : String := "fib_observer::runner::app"

end Span

/-- One thing that a trace tells. -/
inductive Entry where
  /-- A span begins. -/
  | opened (s : Span)
  /-- A span ends. -/
  | closed (s : Span)
  /-- An event, inside these spans, the outermost first. -/
  | logged (within : List Span) (e : Event)
  /-- A report on the request `n` was handed over. -/
  | reported (n : UInt64)

/-- A trace, the oldest entry first. -/
abbrev Trace := List Entry

/-- The text of a field value in a trace. -/
def FieldValue.render : FieldValue → String
  | .number n => Numeral.decimal n
  | .plain s => s
  | .quoted s => quote s
  | .runId => "<uuid4>"
  | .elapsed => "<time>"

/-- A field after a blank. -/
def Field.render (f : Field) : String := " " ++ f.name ++ "=" ++ f.value.render

/-- A sequence of fields, each after a blank. -/
def renderFields (fs : List Field) : String := String.join (fs.map Field.render)

/-- An entry as text. -/
def Entry.render : Entry → String
  | .opened s => "open " ++ s.name ++ renderFields s.fields
  | .closed s => "close " ++ s.name
  | .logged within e =>
    "log " ++ e.level.label ++ " [" ++ String.intercalate ">" (within.map Span.name) ++ "] " ++
      e.message ++ renderFields e.fields
  | .reported n => "report " ++ Numeral.decimal n.toNat

end TracedFibonacci
