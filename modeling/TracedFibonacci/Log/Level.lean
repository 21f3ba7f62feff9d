import TracedFibonacci.Text.Numeral

/-!
# Levels of the log

Five levels, from the gravest to the most talkative, and the thresholds that a filter sets: a
threshold lets through its own level and the graver ones, or nothing at all.
-/

namespace TracedFibonacci

/-- How grave an event is. -/
inductive Level where
  | error
  | warn
  | info
  | debug
  | trace
  deriving Repr, DecidableEq

namespace Level

/-- Every level, the gravest first. -/
def all : List Level := [.error, .warn, .info, .debug, .trace]

/-- How talkative a level is, from one to five. -/
def verbosity : Level → Nat
  | .error => 1
  | .warn => 2
  | .info => 3
  | .debug => 4
  | .trace => 5

/-- The name of a level in a configuration. -/
def name : Level → String
  | .error => "error"
  | .warn => "warn"
  | .info => "info"
  | .debug => "debug"
  | .trace => "trace"

/-- The name of a level in the log. -/
def label : Level → String
  | .error => "ERROR"
  | .warn => "WARN"
  | .info => "INFO"
  | .debug => "DEBUG"
  | .trace => "TRACE"

/-- The level of the given name, whatever the case of its ASCII letters. -/
def ofName? (s : String) : Option Level :=
  all.find? (·.name == String.ofList (s.toList.map Char.toLower))

/-- The level with the given label. -/
def ofLabel? (s : String) : Option Level := all.find? (·.label == s)

theorem ofName?_name (l : Level) : ofName? l.name = some l := by cases l <;> rfl

end Level

/-- What a filter lets through: a level and the graver ones, or nothing. -/
inductive Threshold where
  | off
  | upTo (l : Level)
  deriving Repr, DecidableEq

namespace Threshold

/-- How much a threshold lets through. -/
def verbosity : Threshold → Nat
  | .off => 0
  | .upTo l => l.verbosity

/-- Whether an event of the given level passes. -/
def admits (t : Threshold) (l : Level) : Bool := l.verbosity ≤ t.verbosity

/-- Every threshold, the one that lets through the least first. -/
def all : List Threshold := .off :: Level.all.map .upTo

/-- The name of a threshold. -/
def name : Threshold → String
  | .off => "off"
  | .upTo l => l.name

/-- The threshold that a text means: by its place among all, counted from zero, or by its name,
whatever the case of its ASCII letters. -/
def ofText? (cs : List Char) : Option Threshold :=
  match Text.Numeral.readUnsigned? cs with
  | some n => all[n]?
  | none => all.find? (·.name == String.ofList (cs.map Char.toLower))

/-- The one of two thresholds that lets through more. -/
def max (s t : Threshold) : Threshold := if s.verbosity ≤ t.verbosity then t else s

/-- The least threshold that lets through all that some thresholds do. -/
def join (ts : List Threshold) : Threshold := ts.foldl max .off

end Threshold

end TracedFibonacci
