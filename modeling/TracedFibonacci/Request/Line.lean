import TracedFibonacci.Request.Error
import TracedFibonacci.Text.Utf8

/-!
# The form of a request

A request is a line of one or more ASCII digits, ended by a newline with at most one carriage return
before it. Leading zeros are allowed in any number; signs, spaces and separators are not. The value
has to fit a 64-bit word.

The checks come in a fixed order, and the first that fails names the error: the newline, then the
digits, then the size. So a text without a newline is reported as that and nothing else, whatever it
holds.
-/

namespace TracedFibonacci.Request

open Text

/-- A list without its last element, when that is the given one. -/
def dropEnd? (c : Char) (cs : List Char) : Option (List Char) :=
  if cs.getLast? = some c then some cs.dropLast else none

/-- An ASCII digit. -/
def isDigit (c : Char) : Bool := 48 ≤ c.toNat && c.toNat ≤ 57

/-- The value of a row of ASCII digits. -/
def digitsValue (cs : List Char) : Nat :=
  Numeral.ofDigits 10 (cs.map fun c ↦ c.toNat - 48)

/-- The part of a line that should be the number: all but the newline and one carriage return before
it. There is none when the newline is missing. -/
def token? (raw : List Char) : Option (List Char) :=
  (dropEnd? '\n' raw).map fun body ↦ (dropEnd? '\r' body).getD body

/-- Reads the line with the given number. -/
def parse (line : Nat) (raw : String) : Except RequestError UInt64 :=
  match token? raw.toList with
  | none => .error (.missingNewline line raw)
  | some token =>
    if token.isEmpty || !token.all isDigit then .error (.malformed line (String.ofList token))
    else if digitsValue token < UInt64.size then .ok (UInt64.ofNat (digitsValue token))
    else .error (.outOfRange line (String.ofList token))

/-- How a message tells that a line is not text. -/
def notTextMessage : Utf8.Fault → String
  | .invalid length index =>
    "invalid utf-8 sequence of " ++ Numeral.decimal length ++ " bytes from index " ++
      Numeral.decimal index
  | .incomplete index =>
    "incomplete utf-8 byte sequence from index " ++ Numeral.decimal index

/-- The error of a line that is not text. -/
def notText (f : Utf8.Fault) : RequestError := .unreadable ⟨.invalidData, some (notTextMessage f)⟩

end TracedFibonacci.Request
