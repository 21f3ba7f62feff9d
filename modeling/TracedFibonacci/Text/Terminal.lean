/-!
# Text on a terminal

A terminal takes some characters for orders: control characters, and whole sequences that begin
with the escape character. A message that repeats what came from outside leaves all of them out,
so that it can give no orders. Tabs, line ends and form feeds are not orders.

A sequence ends where the terminal would end it: a control sequence at its last letter, a title at
the bell, any sequence at the next escape character, at a cancel character, or with the text.
-/

namespace TracedFibonacci.Text

/-- Where a text stands with respect to sequences for the terminal. -/
inductive TerminalState where
  /-- Outside of any. -/
  | ground
  /-- Behind an escape character. -/
  | escape
  /-- Behind an escape character and further signs, but before the letter. -/
  | intermediate
  /-- In a control sequence. -/
  | sequence
  /-- In a string of its own, which a bell may end. -/
  | string (bell : Bool)
  deriving Repr, DecidableEq

namespace TerminalState

/-- The blanks among the control characters. -/
def isSpacing (c : Char) : Bool := c == '\t' || c == '\n' || c == '\x0c' || c == '\r'

/-- The state behind a character, and whether the character is shown. -/
def step (st : TerminalState) (c : Char) : Bool × TerminalState :=
  let n := c.toNat
  if n = 0x1b then (false, .escape)
  else if n = 0x18 || n = 0x1a then (false, .ground)
  else
    match st with
    | .ground => (if n < 0x20 then isSpacing c else n != 0x7f, .ground)
    | .string bell => (false, if bell && n = 7 then .ground else .string bell)
    | .escape =>
      if isSpacing c then (true, .ground)
      else if n < 0x20 || 0x7f ≤ n then (false, .escape)
      else if n < 0x30 then (false, .intermediate)
      else if c = '[' then (false, .sequence)
      else if c = ']' then (false, .string true)
      else if c = 'P' || c = 'X' || c = '^' || c = '_' then (false, .string false)
      else (false, .ground)
    | .intermediate =>
      if isSpacing c then (true, .ground)
      else (false, if 0x30 ≤ n && n < 0x7f then .ground else .intermediate)
    | .sequence =>
      if isSpacing c then (true, .ground)
      else (false, if 0x40 ≤ n && n < 0x7f then .ground else .sequence)

end TerminalState

/-- The characters that are shown, in the order in which they stand. -/
def shownChars (st : TerminalState) : List Char → List Char
  | [] => []
  | c :: rest =>
    let (shown, after) := st.step c
    if shown then c :: shownChars after rest else shownChars after rest

/-- A text as it is shown. -/
def shown (s : String) : String := String.ofList (shownChars .ground s.toList)

end TracedFibonacci.Text
