import TracedFibonacci.Text.Numeral

/-!
# Writing JSON

The text of JSON values, on one line and without blanks. Quotes, backslashes and control characters
are escaped in strings, five of them by a letter; everything else stands as it is.
-/

namespace TracedFibonacci.Text.Json

/-- The letter that stands for a character after a backslash, for those that have one. -/
def escapeLetter? (c : Char) : Option Char :=
  if c = '"' then some '"'
  else if c = '\\' then some '\\'
  else if c = '\n' then some 'n'
  else if c = '\r' then some 'r'
  else if c = '\t' then some 't'
  else if c = '\x08' then some 'b'
  else if c = '\x0c' then some 'f'
  else none

/-- A character as it stands in a string. -/
def escape (c : Char) : List Char :=
  match escapeLetter? c with
  | some l => ['\\', l]
  | none =>
    if c.toNat < 0x20 then
      ['\\', 'u', '0', '0'] ++ [c.toNat / 16, c.toNat % 16].map Numeral.digitChar
    else [c]

/-- A string. -/
def string (s : String) : String := String.ofList ('"' :: s.toList.flatMap escape ++ ['"'])

/-- An object, of which the values are written already. -/
def object (members : List (String × String)) : String :=
  "\x7b" ++ String.intercalate "," (members.map fun m ↦ string m.1 ++ ":" ++ m.2) ++ "\x7d"

/-- An array of values that are written already. -/
def array (values : List String) : String := "[" ++ String.intercalate "," values ++ "]"

end TracedFibonacci.Text.Json
