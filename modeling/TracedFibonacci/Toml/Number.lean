import TracedFibonacci.Toml.Item
import TracedFibonacci.Toml.Quotation

/-!
# Numbers, dates and times

What begins with a digit or a sign is a date, a time, a number with a point or a whole number, and
is read as the first of these that fits. Dates and times have fixed places, so only their digits
and their ranges need to be checked. In a number a single underscore may stand between two digits,
and a decimal number does not begin with a zero. Whole numbers have sixty-four bits with a sign.
-/

namespace TracedFibonacci.Toml

open Text Decimal

/-! ### Dates and times -/

/-- The value of two decimal digits. -/
def pair? (a b : Char) : Option Nat := Numeral.read? 10 [a, b]

/-- The value of four decimal digits. -/
def year? (a b c d : Char) : Option Nat := Numeral.read? 10 [a, b, c, d]

/-- Whether a year has a twenty-ninth of February. -/
def isLeap (year : Nat) : Bool := year % 4 == 0 && (year % 100 != 0 || year % 400 == 0)

/-- How many days a month has. -/
def daysIn (year month : Nat) : Nat :=
  if month = 2 then if isLeap year then 29 else 28
  else if month = 4 ∨ month = 6 ∨ month = 9 ∨ month = 11 then 30
  else 31

/-- Whether a condition holds, as a step of a reader. -/
def check (b : Bool) : Option Unit := if b then some () else none

/-- The text after a date. -/
def date? : List Char → Option (List Char)
  | a :: b :: c :: d :: '-' :: m :: n :: '-' :: x :: y :: cs => do
    let year ← year? a b c d
    let month ← pair? m n
    let day ← pair? x y
    check (1 ≤ month && month ≤ 12 && 1 ≤ day && day ≤ daysIn year month)
    return cs
  | _ => none

/-- The text after the fraction of a second, if there is one. -/
def skipFraction : List Char → List Char
  | '.' :: c :: cs => if c.isDigit then cs.dropWhile Char.isDigit else '.' :: c :: cs
  | cs => cs

/-- The text after a time. -/
def time? : List Char → Option (List Char)
  | a :: b :: ':' :: c :: d :: ':' :: e :: f :: cs => do
    let hour ← pair? a b
    let minute ← pair? c d
    let second ← pair? e f
    check (hour ≤ 23 && minute ≤ 59 && second ≤ 60)
    return skipFraction cs
  | _ => none

/-- The text after the offset of a time, if there is one. -/
def skipOffset : List Char → List Char
  | 'Z' :: cs | 'z' :: cs => cs
  | s :: a :: b :: ':' :: c :: d :: cs =>
    let offset? : Option Unit := do
      let hour ← pair? a b
      let minute ← pair? c d
      check ((s == '+' || s == '-') && hour ≤ 23 && minute ≤ 59)
    if offset?.isSome then cs else s :: a :: b :: ':' :: c :: d :: cs
  | cs => cs

/-- The text after a date, a time or both. -/
def moment? (cs : List Char) : Option (List Char) :=
  match date? cs with
  | none => time? cs
  | some [] => some []
  | some (c :: rest) =>
    -- a blank divides date and time only if a time follows
    if c = 'T' ∨ c = 't' ∨ c = ' ' then
      match time? rest with
      | some after => some (skipOffset after)
      | none => some (c :: rest)
    else some (c :: rest)

/-! ### Numbers -/

/-- More digits of a number, and the text after them. -/
def moreDigits (isDigit : Char → Bool) : Reading (List Char)
  | '_' :: c :: cs => if isDigit c then (moreDigits isDigit cs).map (prepend c) else none
  | c :: cs =>
    if isDigit c then (moreDigits isDigit cs).map (prepend c)
    else if c = '_' then none else some ([], c :: cs)
  | [] => some ([], [])

/-- Digits, at least one. -/
def digits (isDigit : Char → Bool) : Reading (List Char)
  | c :: cs => if isDigit c then (moreDigits isDigit cs).map (prepend c) else none
  | [] => none

/-- A sign, and whether it is negative. -/
def sign : List Char → Bool × List Char
  | '+' :: cs => (false, cs)
  | '-' :: cs => (true, cs)
  | cs => (false, cs)

/-- The digits of a whole number that does not begin with a zero, unless that is all of it. -/
def wholeDigits : Reading (List Char)
  | '0' :: cs => some (['0'], cs)
  | cs => digits Char.isDigit cs

/-- The exponent of a number, if there is one. -/
def exponent : Reading (Option Int)
  | 'e' :: cs | 'E' :: cs => do
    let (negative, cs) := sign cs
    let (ds, cs) ← digits Char.isDigit cs
    let n : Int := (Numeral.read? 10 ds).getD 0
    return (some (if negative then -n else n), cs)
  | cs => some (none, cs)

/-- The digits after the point of a number, if there is one. -/
def fraction : Reading (Option (List Char))
  | '.' :: cs => (digits Char.isDigit cs).map fun (ds, cs) ↦ (some ds, cs)
  | cs => some (none, cs)

/-- The text after a word, if it begins with that. -/
def word? (word : String) (cs : List Char) : Option (List Char) :=
  if word.toList.isPrefixOf cs then some (cs.drop word.length) else none

/-- The number that is written in digits before and after a point, with an exponent. Nothing is as
large as positive infinity. -/
def floatValue? (negative : Bool) (whole part : List Char) (exp : Int) : Option FloatValue :=
  let magnitude :=
    Double.ofDecimal ((Numeral.read? 10 (whole ++ part)).getD 0) (exp - part.length)
  if magnitude = .infinity ∧ !negative then none else some (.number negative magnitude)

/-- A number with a point or an exponent, or one of the words for what is no such number. -/
def float? (cs : List Char) : Option (Option FloatValue × List Char) :=
  let (negative, rest) := sign cs
  match word? "inf" rest, word? "nan" rest with
  | some after, _ => some (some (.number negative .infinity), after)
  | _, some after => some (some .nan, after)
  | none, none => do
    let (whole, rest) ← wholeDigits rest
    let (part?, rest) ← fraction rest
    let (exp?, rest) ← exponent rest
    -- without both it is a whole number, which has other limits
    if part?.isNone ∧ exp?.isNone then return (none, cs)
    else return (some (← floatValue? negative whole (part?.getD []) (exp?.getD 0)), rest)

/-- Whether a character is a digit to a base. -/
def isDigitOf (base : Nat) (c : Char) : Bool := (Numeral.digitValue? base c).isSome

/-- A whole number to a base. -/
def integerTo (base : Nat) : Reading Int := fun cs ↦ do
  let (ds, cs) ← digits (isDigitOf base) cs
  return ((← Numeral.read? base ds : Nat), cs)

/-- A whole number of any size. -/
def anyInteger : Reading Int
  | '0' :: 'x' :: cs => integerTo 16 cs
  | '0' :: 'o' :: cs => integerTo 8 cs
  | '0' :: 'b' :: cs => integerTo 2 cs
  | cs => do
    let (negative, cs) := sign cs
    let (ds, cs) ← wholeDigits cs
    let n : Int := (Numeral.read? 10 ds).getD 0
    return (if negative then -n else n, cs)

/-- A whole number of sixty-four bits. -/
def integer : Reading Int := fun cs ↦ do
  let (n, cs) ← anyInteger cs
  check (Int64.minValue.toInt ≤ n && n ≤ Int64.maxValue.toInt)
  return (n, cs)

/-- What begins with a digit or a sign. -/
def number (cs : List Char) : Option (Scalar × List Char) :=
  match moment? cs with
  | some rest => some (.moment, rest)
  | none => do
    match ← float? cs with
    | (some f, rest) => return (.float f, rest)
    | (none, _) => return (← integer cs).map .integer id

end TracedFibonacci.Toml
