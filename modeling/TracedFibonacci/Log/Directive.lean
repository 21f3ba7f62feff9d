import TracedFibonacci.Text.Blank
import TracedFibonacci.Text.Letters
import TracedFibonacci.Trace

/-!
# Directives of a log filter

A directive sets a threshold for a part of the log. It selects by target, by the spans around an
event, and by the fields of spans and events, and is written

    target[span{field=value}]=level

where every part can be left out, and everything passes when no level is given. A name alone is a
level if it can be one, and a target otherwise. A directive selects every target that begins with
its own.
-/

namespace TracedFibonacci

open Text

/-- The value that a directive wants for a field. -/
inductive WantedValue where
  /-- A truth value. -/
  | truth (b : Bool)
  /-- A number that fits a word. -/
  | number (n : Nat)
  /-- A number with a minus sign that fits a signed word. -/
  | negative (n : Nat)
  /-- A text. -/
  | text (cs : List Char)
  deriving Repr, DecidableEq

namespace WantedValue

/-- The digits behind a minus sign. -/
def readNegative? : List Char → Option Nat
  | '-' :: digits => Numeral.readDecimal? digits
  | _ => none

/-- The value that a text means. -/
def ofText (cs : List Char) : WantedValue :=
  if cs = "true".toList then .truth true
  else if cs = "false".toList then .truth false
  else
    match Numeral.readUnsigned? cs, readNegative? cs with
    | some n, _ => if n < UInt64.size then .number n else .text cs
    | none, some n => if Int64.minValue.toInt ≤ -n then .negative n else .text cs
    | none, none => .text cs

/-- The text of a value. -/
def write : WantedValue → List Char
  | truth b => (if b then "true" else "false").toList
  | number n => Numeral.write 10 n
  | negative n => if n = 0 then ['0'] else '-' :: Numeral.write 10 n
  | text cs => cs

/-- Whether a field has the wanted value. A value that is not known beforehand is never the wanted
one. -/
def holds (w : WantedValue) : FieldValue → Bool
  | .number n => w == number n
  | .plain s | .quoted s => w == text s.toList
  | .runId | .elapsed => false

end WantedValue

/-- What a directive wants of a field: that it is there, and possibly its value. -/
structure WantedField where
  /-- The name of the field. -/
  name : List Char
  /-- The value it has to have. -/
  value? : Option WantedValue := none
  deriving Repr, DecidableEq

namespace WantedField

/-- Reads a field, with its value behind an equals sign. What follows a second one does not count.
-/
def read (cs : List Char) : WantedField :=
  match cs.splitOn '=' with
  | name :: value :: _ => ⟨name, some (.ofText value)⟩
  | parts => ⟨parts.headD [], none⟩

/-- The text of a wanted field. -/
def write (w : WantedField) : List Char :=
  match w.value? with
  | some v => w.name ++ '=' :: v.write
  | none => w.name

/-- Whether a field of this name is among some fields. -/
def isAmong (w : WantedField) (fs : List Field) : Bool := fs.any (·.name.toList == w.name)

/-- Whether the fields have the wanted value, if one is wanted. -/
def holds (w : WantedField) (fs : List Field) : Bool :=
  w.value?.all fun v ↦ fs.any fun f ↦ f.name.toList == w.name && v.holds f.value

end WantedField

/-- A directive of a log filter. -/
structure Directive where
  /-- How the target begins. -/
  target? : Option (List Char) := none
  /-- The name of a span. -/
  span? : Option (List Char) := none
  /-- The fields that have to be there. -/
  fields : List WantedField := []
  /-- The threshold for what is selected. -/
  threshold : Threshold := .upTo .trace
  deriving Repr, DecidableEq

namespace Directive

/-- The text of the part in brackets. -/
def writeSpan (d : Directive) : List Char :=
  if d.span?.isNone && d.fields.isEmpty then []
  else
    let fields :=
      if d.fields.isEmpty then []
      else ['\x7b'] ++ [','].intercalate (d.fields.map WantedField.write) ++ ['\x7d']
    ['['] ++ d.span?.getD [] ++ fields ++ [']']

/-- The text of everything but the threshold; two directives with the same one select the same. -/
def selector (d : Directive) : List Char := d.target?.getD [] ++ d.writeSpan

/-- The text of a directive. -/
def text (d : Directive) : String :=
  String.ofList (if d.selector.isEmpty then [] else d.selector ++ ['=']) ++ d.threshold.name

/-- Reads what stands behind the selecting parts. -/
def readThreshold? (d : Directive) : List Char → Option Directive
  -- an equals sign without a level means that everything passes
  | '=' :: [] => some d
  | '=' :: level => (Threshold.ofText? level).map fun t ↦ { d with threshold := t }
  | rest => if rest.all isBlank then some d else none

/-- Reads what stands behind the opening bracket. -/
def readSpan? (d : Directive) (cs : List Char) : Option Directive :=
  let name := cs.takeWhile fun c ↦ c != ']' && c != '\x7b'
  match cs.drop name.length with
  | ']' :: rest => readThreshold? { d with span? := some name } rest
  | '\x7b' :: rest =>
    let field := rest.takeWhile (· != '\x7d')
    match field, rest.drop field.length with
    | _ :: _, '\x7d' :: ']' :: rest =>
      let span? := if name.isEmpty then none else some name
      readThreshold? { d with span?, fields := [.read field] } rest
    | _, _ => none
  | _ => none

/-- Whether a name can begin with a character. -/
def beginsName (c : Char) : Bool := c == '-' || c == ':' || c == '_' || isLetterOrNumber c

/-- Reads a directive that begins with a name or a bracket. -/
def readPlain? (cs : List Char) : Option Directive :=
  match cs with
  | [] => none
  | '[' :: rest => readSpan? {} rest
  | c :: _ =>
    let name := cs.takeWhile fun c ↦ c != '=' && c != '['
    if !beginsName c then none
    else
      match cs.drop name.length with
      | '[' :: rest => readSpan? { target? := some name } rest
      | [] =>
        -- a name alone
        match Threshold.ofText? name with
        | some threshold => some { threshold }
        | none => some { target? := some name }
      | level => readThreshold? { target? := some name } level

/-- Reads a directive. Behind a blank there can only be a target, of which the blank is a part. -/
def read? (cs : List Char) : Option Directive :=
  if cs.head?.any isBlank then
    match readPlain? (trimChars cs) with
    | some _ => if cs.contains '=' || cs.contains '[' then none else some { target? := some cs }
    | none => none
  else readPlain? cs

/-- Whether a directive looks at spans. -/
def seesSpans (d : Directive) : Bool := d.span?.isSome || !d.fields.isEmpty

/-- Whether a directive can do without looking at spans. -/
def seesTargets (d : Directive) : Bool := d.span?.isNone && d.fields.all (·.value?.isNone)

/-- Whether a directive looks at the values of fields. -/
def seesValues (d : Directive) : Bool := d.fields.any (·.value?.isSome)

/-- Whether the directive `d` is to be asked before `e`: the longer target counts first, then the
larger number of fields. -/
def precedes (d e : Directive) : Bool :=
  -- an empty target is still longer than none
  let size (d : Directive) : Nat :=
    (d.target?.map fun t ↦ (String.ofList t).utf8ByteSize + 1).getD 0
  if size d != size e then size e < size d
  else if d.fields.length != e.fields.length then e.fields.length < d.fields.length
  else e.selector < d.selector

/-- Some directives in the order in which they are to be asked, with one more, which replaces one
that selects the same. -/
def insert (d : Directive) : List Directive → List Directive
  | [] => [d]
  | e :: es =>
    if d.selector = e.selector then d :: es
    else if d.precedes e then d :: e :: es
    else e :: insert d es

/-- Whether a directive selects a target. -/
def selectsTarget (d : Directive) (target : String) : Bool :=
  d.target?.all (·.isPrefixOf target.toList)

/-- Whether a directive selects a span. -/
def selectsSpan (d : Directive) (s : Span) : Bool :=
  d.selectsTarget Span.target && d.span?.all (· == s.name.toList) &&
    d.fields.all (·.isAmong s.fields)

end Directive

end TracedFibonacci
