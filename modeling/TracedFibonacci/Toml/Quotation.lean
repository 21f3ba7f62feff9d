import TracedFibonacci.Text.Numeral

/-!
# Quotations and layout

The parts of a document that hold arbitrary text: quotations, and the blanks, comments and line ends
between everything else. There are four kinds of quotation: in double or in single quotation marks,
and in one or in three of them. Double quotation marks allow escapes, three of them allow several
lines. Control characters other than the tab stand in no part of a document.

A reader takes the text from where it begins and gives what it found with the text that is left.
-/

namespace TracedFibonacci.Toml

open Text

/-- A reader: what stands at the beginning of a text, and the text after it. -/
abbrev Reading (α : Type) := List Char → Option (α × List Char)

/-! ### Layout -/

/-- The blanks of a document. -/
def isGap (c : Char) : Bool := c == ' ' || c == '\t'

/-- The text without the blanks it begins with. -/
def skipGap (cs : List Char) : List Char := cs.dropWhile isGap

/-- The text after a line end. -/
def lineEnd? : List Char → Option (List Char)
  | '\n' :: cs => some cs
  | '\r' :: '\n' :: cs => some cs
  | _ => none

/-- The text after a line end; the end of the text is one. -/
def closing? (cs : List Char) : Option (List Char) := if cs.isEmpty then some [] else lineEnd? cs

/-- The characters that may stand in a document apart from line ends. -/
def isPrintable (c : Char) : Bool := c == '\t' || (0x20 ≤ c.toNat && c.toNat != 0x7F)

/-- The text after the rest of a line that holds nothing but a comment. -/
def restOfLine? (cs : List Char) : Option (List Char) :=
  match skipGap cs with
  | '#' :: cs => closing? (cs.dropWhile isPrintable)
  | cs => closing? cs

/-- The text without the blanks, line ends and comments it begins with. -/
def skipLines (inComment : Bool) : List Char → Option (List Char)
  | '\n' :: cs => skipLines false cs
  | '\r' :: '\n' :: cs => skipLines false cs
  | c :: cs =>
    if inComment then if isPrintable c then skipLines true cs else none
    else if isGap c then skipLines false cs
    else if c = '#' then skipLines true cs
    else some (c :: cs)
  | [] => if inComment then none else some []

/-! ### Quotations -/

/-- The character that a letter stands for after a backslash. -/
def escaped? : Char → Option Char
  | 'b' => some '\x08'
  | 't' => some '\t'
  | 'n' => some '\n'
  | 'f' => some '\x0c'
  | 'r' => some '\r'
  | '"' => some '"'
  | '\\' => some '\\'
  | _ => none

/-- The character with the code point that is written in hexadecimal digits. -/
def scalarValue? (digits : List Char) : Option Char :=
  (Numeral.read? 16 digits).bind fun n ↦
    if n.isValidChar then some (Char.ofNat n) else none

/-- Puts a character in front of what a reader found. -/
def prepend (c : Char) (found : List Char × List Char) : List Char × List Char :=
  (c :: found.1, found.2)

/-- The rest of a quotation in double quotation marks. -/
def basic : Reading (List Char)
  | '"' :: cs => some ([], cs)
  | '\\' :: 'u' :: a :: b :: c :: d :: cs => do
    return prepend (← scalarValue? [a, b, c, d]) (← basic cs)
  | '\\' :: 'U' :: a :: b :: c :: d :: e :: f :: g :: h :: cs => do
    return prepend (← scalarValue? [a, b, c, d, e, f, g, h]) (← basic cs)
  | '\\' :: c :: cs => do return prepend (← escaped? c) (← basic cs)
  | c :: cs => if isPrintable c then (basic cs).map (prepend c) else none
  | [] => none

/-- The rest of a quotation in single quotation marks. -/
def literal : Reading (List Char)
  | '\'' :: cs => some ([], cs)
  | c :: cs => if isPrintable c then (literal cs).map (prepend c) else none
  | [] => none

/-- The end of a quotation after three quotation marks: up to two more belong to what is quoted. -/
def threeMarks (mark : Char) (cs : List Char) : List Char × List Char :=
  match cs with
  | a :: b :: rest =>
    if a = mark ∧ b = mark then ([mark, mark], rest)
    else if a = mark then ([mark], b :: rest)
    else ([], cs)
  | [a] => if a = mark then ([mark], []) else ([], cs)
  | [] => ([], [])

/-- Whether nothing but blanks stands in the rest of a line. -/
def endsLine (cs : List Char) : Bool := (lineEnd? (skipGap cs)).isSome

/-- The rest of a quotation of several lines in double quotation marks. After a backslash at the end
of a line, blanks and line ends are `skipped`. -/
def basicLines (skipped : Bool) : Reading (List Char)
  | '"' :: '"' :: '"' :: cs => some (threeMarks '"' cs)
  | '\n' :: cs => if skipped then basicLines true cs else (basicLines false cs).map (prepend '\n')
  | '\r' :: '\n' :: cs =>
    if skipped then basicLines true cs else (basicLines false cs).map (prepend '\n')
  | '\\' :: 'u' :: a :: b :: c :: d :: cs => do
    return prepend (← scalarValue? [a, b, c, d]) (← basicLines false cs)
  | '\\' :: 'U' :: a :: b :: c :: d :: e :: f :: g :: h :: cs => do
    return prepend (← scalarValue? [a, b, c, d, e, f, g, h]) (← basicLines false cs)
  | '\\' :: c :: cs =>
    -- blanks may stand between the backslash and the end of its line
    if endsLine (c :: cs) then basicLines true (c :: cs)
    else do return prepend (← escaped? c) (← basicLines false cs)
  | c :: cs =>
    if skipped && isGap c then basicLines true cs
    else if isPrintable c then (basicLines false cs).map (prepend c) else none
  | [] => none

/-- The rest of a quotation of several lines in single quotation marks. -/
def literalLines : Reading (List Char)
  | '\'' :: '\'' :: '\'' :: cs => some (threeMarks '\'' cs)
  | '\n' :: cs => (literalLines cs).map (prepend '\n')
  | '\r' :: '\n' :: cs => (literalLines cs).map (prepend '\n')
  | c :: cs => if isPrintable c then (literalLines cs).map (prepend c) else none
  | [] => none

/-- The text without the line end it begins with. -/
def skipLineEnd (cs : List Char) : List Char := (lineEnd? cs).getD cs

/-- A quotation. -/
def quotation : Reading (List Char)
  | '"' :: '"' :: '"' :: cs => basicLines false (skipLineEnd cs)
  | '"' :: cs => basic cs
  | '\'' :: '\'' :: '\'' :: cs => literalLines (skipLineEnd cs)
  | '\'' :: cs => literal cs
  | _ => none

end TracedFibonacci.Toml
