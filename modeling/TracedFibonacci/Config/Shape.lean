import TracedFibonacci.Config.Settings
import TracedFibonacci.Text.Quoted
import TracedFibonacci.Toml.Item

/-!
# The shape of settings in a document

Settings are read from the tables of a document. A key that names no setting is passed over, and a
setting without a key keeps its default. A group of settings may also be written as an array, with
the settings in their fixed order, and the policy for overflows as a table whose only key is its
name.

The first item of the wrong shape, in the order of the document, ends the reading. The error shows
what was found and what was expected, and points at the item; an item that stands nowhere itself is
pointed at by its key.
-/

namespace TracedFibonacci

open Text Toml

/-- Why a document is not one of settings. -/
structure ShapeError where
  /-- What was found, and what was expected. -/
  message : String
  /-- Where. -/
  span? : Option Span := none
  deriving Repr, DecidableEq

namespace Shape

/-- The result of reading a part of a document. -/
abbrev Read (α : Type) := Except ShapeError α

/-- Points an error at a place, unless it points at one already. -/
def located {α : Type} (span? : Option Span) : Read α → Read α
  | .ok a => .ok a
  | .error e => .error { e with span? := e.span?.or span? }

/-- A text in back quotes. -/
def ticked (s : String) : String := "\x60" ++ s ++ "\x60"

/-- A whole number. -/
def integerText (n : Int) : String :=
  (if n < 0 then "-" else "") ++ Numeral.decimal n.natAbs

/-- A number with a point. -/
def floatText : FloatValue → String
  | .nan => "NaN"
  | .number negative magnitude =>
    (if negative then "-" else "") ++
      match magnitude with
      | .infinity => "inf"
      | .finite m e =>
        let text := (Decimal.Double.shortest m e).text
        if text.toList.contains '.' then text else text ++ ".0"

/-- What an error says was found. -/
def describe : Item → String
  | .scalar _ (.string s) => "string " ++ quote s
  | .scalar _ (.integer n) => "integer " ++ ticked (integerText n)
  | .scalar _ (.float f) => "floating point " ++ ticked (floatText f)
  | .scalar _ (.boolean b) => "boolean " ++ ticked (if b then "true" else "false")
  | .scalar _ .moment | .table .. => "map"
  | .array .. | .tables _ => "sequence"

/-- The error about an item that is not what was expected. -/
def mismatch {α : Type} (item : Item) (expected : String) : Read α :=
  .error ⟨"invalid type: " ++ describe item ++ ", expected " ++ expected, item.span?⟩

/-- A text. -/
def string : Item → Read String
  | .scalar _ (.string s) => .ok s
  | item => mismatch item "a string"

/-- A truth value. -/
def boolean : Item → Read Bool
  | .scalar _ (.boolean b) => .ok b
  | item => mismatch item "a boolean"

/-- A word. -/
def word : Item → Read UInt64
  | .scalar span (.integer n) =>
    if 0 ≤ n then .ok (UInt64.ofNat n.toNat)
    else .error ⟨"invalid value: integer " ++ ticked (integerText n) ++ ", expected u64", span⟩
  | item => mismatch item "u64"

/-- The policy of a name that stands at the given place. -/
def policyNamed (name : String) (span? : Option Span) : Read OverflowPolicy :=
  match OverflowPolicy.ofName? name with
  | some p => .ok p
  | none =>
    .error ⟨"unknown variant " ++ ticked name ++ ", expected " ++
      String.intercalate " or " (OverflowPolicy.all.map (ticked ·.name)), span?⟩

/-- What a scalar is called where a table was expected. -/
def scalarName : Scalar → String
  | .string _ => "string"
  | .integer _ => "integer"
  | .float _ => "float"
  | .boolean _ => "boolean"
  | .moment => "datetime"

/-- Something without content. -/
def nothing (item : Item) : Read Unit :=
  match item with
  | .array _ [] | .table _ [] | .tables [] => .ok ()
  | .array .. | .table .. => .error ⟨"expected empty table", item.span?⟩
  | .tables _ => .error ⟨"expected empty array", item.span?⟩
  | .scalar span s => .error ⟨"expected table, found " ++ scalarName s, span⟩

/-- A policy for overflows. -/
def policy : Item → Read OverflowPolicy
  | .scalar span (.string name) => policyNamed name span
  | .table kind [] => .error ⟨"wanted exactly 1 element, found 0 elements", kind.span?⟩
  | .table kind [(key, item)] =>
    located kind.span? do
      let p ← policyNamed key.name key.span
      nothing item
      return p
  | .table kind _ => .error ⟨"wanted exactly 1 element, more than 1 element", kind.span?⟩
  | item => .error ⟨"wanted string or table", item.span?⟩

/-- Settings that are read one by one: how each of them changes what is there so far. -/
structure Group (α : Type) where
  /-- What a group is called in an error. -/
  name : String
  /-- The settings in their fixed order. -/
  fields : List (String × (α → Item → Read α))

namespace Group

variable {α : Type}

/-- Reads one setting of a group from under its key. -/
def entry (g : Group α) (a : α) (e : Key × Item) : Read α :=
  match g.fields.find? (·.1 == e.1.name) with
  | some (_, set) => located (e.2.span?.or e.1.span) (set a e.2)
  | none => .ok a

/-- Reads a group of settings from the entries of a table. -/
def entries (g : Group α) (a : α) (es : Entries) : Read α := es.foldlM g.entry a

/-- Reads a group of settings in their fixed order. -/
def inOrder (g : Group α) (a : α) (items : List Item) : Read α :=
  (g.fields.zip items).foldlM (fun a x ↦ x.1.2 a x.2) a

/-- Reads a group of settings, of which `a` holds the defaults. -/
def read (g : Group α) (a : α) (item : Item) : Read α :=
  located item.span? <|
    match item with
    | .table _ es => g.entries a es
    | .array _ items => g.inOrder a items
    | .tables items => g.inOrder a (items.map fun t ↦ .table (.header t.1) t.2)
    | .scalar _ .moment => .ok a
    | .scalar .. => mismatch item ("struct " ++ g.name)

end Group

/-- The settings of telemetry. -/
def telemetry : Group TelemetrySettings where
  name := "TelemetryConfig"
  fields := [
    ("endpoint", fun t item ↦ return { t with endpoint? := some (← string item) }),
    ("metrics_address", fun t item ↦ return { t with metricsAddress := ← string item }),
    ("log_level", fun t item ↦ return { t with logLevel := ← string item }),
    ("json_logs", fun t item ↦ return { t with jsonLogs := ← boolean item })]

/-- The settings of the runner. -/
def runner : Group RunnerSettings where
  name := "RunnerConfig"
  fields := [
    ("overflow", fun r item ↦ return { r with overflow := ← policy item }),
    ("work_delay_us", fun r item ↦ return { r with workDelayUs := ← word item })]

/-- All settings. -/
def settings : Group Settings where
  name := "FibConfig"
  fields := [
    ("service_name", fun s item ↦ return { s with serviceName := ← string item }),
    ("telemetry", fun s item ↦ return { s with telemetry := ← telemetry.read {} item }),
    ("runner", fun s item ↦ return { s with runner := ← runner.read {} item })]

end Shape

end TracedFibonacci
