import TracedFibonacci.Text.Hidden

/-!
# Quoted text

How a message shows a text that came from outside: between double quotes, with every character that
is not plainly visible written as an escape. The quote and the backslash are escaped, so the end of
the quotation is never in doubt; so is every hidden character, so a quoted text is one line and
holds no control character.

There are two kinds of escape. Six characters have a letter of their own; all other hidden
characters are written `\u{…}` with the hexadecimal digits of the code point, in lower case and
without leading zeros.
-/

namespace TracedFibonacci.Text

/-- The letter that stands for a character after a backslash, for the six that have one. -/
def escapeLetter? (c : Char) : Option Char :=
  if c = '"' then some '"'
  else if c = '\\' then some '\\'
  else if c = '\n' then some 'n'
  else if c = '\r' then some 'r'
  else if c = '\t' then some 't'
  else if c = '\x00' then some '0'
  else none

/-- A character as it stands inside a quoted text. -/
def quoteChar (c : Char) : List Char :=
  match escapeLetter? c with
  | some l => ['\\', l]
  | none => if isHidden c then ['\\', 'u', '\x7b'] ++ Numeral.write 16 c.toNat ++ ['\x7d'] else [c]

/-- The inside of a quoted text. -/
def quoteChars (cs : List Char) : List Char := cs.flatMap quoteChar

/-- A text in double quotes, with hidden characters escaped. -/
def quote (s : String) : String := String.ofList ('"' :: quoteChars s.toList ++ ['"'])

end TracedFibonacci.Text
