import TracedFibonacci.Request.Fault
import TracedFibonacci.Text.Quoted

/-!
# What can go wrong with a request

Requests come one to a line. A line that is no request, the end of the stream and a fault of the
stream all end the run that meets them; the message says at which line, and shows the offending text
in quotes. The one text that stands unquoted is that of a number that is too large, and it consists
of digits.
-/

namespace TracedFibonacci

open Text

/-- Why there is no further request. -/
inductive RequestError where
  /-- The stream has ended. -/
  | closed
  /-- The line is not a row of digits. -/
  | malformed (line : Nat) (token : String)
  /-- The digits stand for a number above the largest word. -/
  | outOfRange (line : Nat) (token : String)
  /-- The stream ends inside the line. -/
  | missingNewline (line : Nat) (token : String)
  /-- The stream failed, or the line is not text. -/
  | unreadable (fault : Fault)
  deriving Repr, DecidableEq

namespace RequestError

/-- The kinds of error that are counted apart. -/
inductive Kind where
  | closed
  | malformed
  | outOfRange
  | missingNewline
  | unreadable
  deriving Repr, DecidableEq

/-- Every kind, sorted by label. -/
def Kind.all : List Kind := [.closed, .unreadable, .malformed, .missingNewline, .outOfRange]

/-- The label under which a kind is counted. -/
def Kind.label : Kind → String
  | .closed => "closed"
  | .malformed => "malformed"
  | .outOfRange => "out_of_range"
  | .missingNewline => "missing_newline"
  | .unreadable => "io"

/-- The kind with the given label. -/
def Kind.ofLabel? (s : String) : Option Kind := Kind.all.find? (·.label == s)

theorem Kind.ofLabel?_label (k : Kind) : Kind.ofLabel? k.label = some k := by cases k <;> rfl

/-- The kind of an error. -/
def kind : RequestError → Kind
  | .closed => .closed
  | .malformed .. => .malformed
  | .outOfRange .. => .outOfRange
  | .missingNewline .. => .missingNewline
  | .unreadable _ => .unreadable

/-- Whether the stream simply ended. -/
def isEnd (e : RequestError) : Bool := e.kind == .closed

/-- How a message names a line. -/
def lineLabel (line : Nat) : String := "line " ++ Numeral.decimal line ++ ": "

/-- How a message tells of an error. -/
def message : RequestError → String
  | .closed => "input stream closed"
  | .malformed line token =>
    lineLabel line ++ "expected an unsigned integer, got " ++ quote token
  | .outOfRange line token =>
    lineLabel line ++ token ++ " is out of range (max 18446744073709551615)"
  | .missingNewline line token =>
    lineLabel line ++ "missing trailing newline after " ++ quote token
  | .unreadable fault => "failed to read input: " ++ fault.message

end RequestError

end TracedFibonacci
