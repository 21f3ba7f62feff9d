import TracedFibonacci.Log.Filter
import TracedFibonacci.Text.Json

/-!
# Records of the log

A record, here a `Line`, tells of an event, or of the end of a span and how long it took. It names
the spans around it, the outermost first, as far as the filter shows them. The record for the end of
a span has the level of the span, and is shown if the span is.

A record is written as text or as JSON. As text it is the level, aligned to the right, the spans
with their fields, the message, and the fields. As JSON it is an object with the level, the
message and the fields as its members; around it are the members `span` for the innermost span and
`spans` for all. For the end of a span the span that ends is `span`, and not among `spans`.

In JSON a record takes one line, since strings are escaped. As text it takes one line unless a plain
field holds line ends: its value is written as it is. The name of the service is such a field, and
comes from the settings.
-/

namespace TracedFibonacci

open Text

/-- What a record shows in place of values that have none in this library. -/
structure Placeholders where
  /-- The identifier of the run. -/
  runId : String := "<uuid>"
  /-- The time that something took. -/
  elapsed : String := "<time>"
  deriving Repr, DecidableEq

/-- A record of the log. -/
structure Line where
  /-- How grave it is. -/
  level : Level
  /-- The spans around it, the outermost first. -/
  around : List Span
  /-- The span whose end it tells. -/
  ended? : Option Span := none
  /-- What it says. -/
  message : String
  /-- What it adds. -/
  fields : List Field
  deriving Repr, DecidableEq

namespace Line

/-- The record for an event inside some spans, if a filter shows it. -/
def ofEvent? (f : Filter) (around : List Span) (e : Event) : Option Line :=
  if f.showsEvent around e then
    some {
      level := e.level, around := f.shownSpans around, message := e.message
      fields := e.fields }
  else none

/-- The record for the end of a span inside some others, if a filter shows it. -/
def ofEnd? (f : Filter) (around : List Span) (s : Span) : Option Line :=
  if f.showsSpan around s then
    some {
      level := Span.level, around := f.shownSpans around, ended? := some s, message := "close"
      fields := [⟨"time.busy", .elapsed⟩, ⟨"time.idle", .elapsed⟩] }
  else none

/-- Every span that a record names, the outermost first. -/
def spans (l : Line) : List Span := l.around ++ l.ended?.toList

/-- The value of a field as text. -/
def valueText (p : Placeholders) : FieldValue → String
  | .number n => Numeral.decimal n
  | .plain s => s
  | .quoted s => quote s
  | .runId => p.runId
  | .elapsed => p.elapsed

/-- A field as text. -/
def fieldText (p : Placeholders) (f : Field) : String := f.name ++ "=" ++ valueText p f.value

/-- A span as text, with its fields in braces. -/
def spanText (p : Placeholders) (s : Span) : String :=
  if s.fields.isEmpty then s.name
  else s.name ++ "\x7b" ++ String.intercalate " " (s.fields.map (fieldText p)) ++ "\x7d"

/-- The level in five places. -/
def levelText (l : Level) : String :=
  String.ofList (List.replicate (5 - l.label.length) ' ') ++ l.label

/-- A record as text. -/
def text (p : Placeholders) (l : Line) : String :=
  let place := String.join (l.spans.map fun s ↦ spanText p s ++ ":")
  String.intercalate " "
    ([levelText l.level] ++ (if l.spans.isEmpty then [] else [place]) ++ [l.message] ++
      l.fields.map (fieldText p))

/-- The value of a field as JSON. -/
def valueJson (p : Placeholders) : FieldValue → String
  | .number n => Numeral.decimal n
  | .plain s | .quoted s => Json.string s
  | .runId => Json.string p.runId
  | .elapsed => Json.string p.elapsed

/-- A field as a member of an object. -/
def fieldJson (p : Placeholders) (f : Field) : String × String := (f.name, valueJson p f.value)

/-- A span as JSON. -/
def spanJson (p : Placeholders) (s : Span) : String :=
  Json.object (s.fields.map (fieldJson p) ++ [("name", Json.string s.name)])

/-- A record as JSON. -/
def json (p : Placeholders) (l : Line) : String :=
  let place :=
    match l.spans.getLast? with
    | none => []
    | some s =>
      [("span", spanJson p s), ("spans", Json.array (l.around.map (spanJson p)))]
  Json.object ([("level", Json.string l.level.label), ("message", Json.string l.message)] ++
    l.fields.map (fieldJson p) ++ place)

end Line

end TracedFibonacci
