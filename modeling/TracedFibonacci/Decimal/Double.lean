import TracedFibonacci.Text.Numeral

/-!
# Doubles and their shortest decimals

A double is a whole number times a power of two, with at most fifty-three bits in the number. This
module rounds a decimal to the nearest double, and writes a double with the fewest digits that read
back as the same double; of several such decimals it takes the one that is nearest. Everything is
computed with whole numbers, so nothing depends on the arithmetic of the machine.

The decimals that round to a double form an interval. For a growing number of digits the two
neighbours of the double on that grid are tried: if any decimal with so many digits lies in the
interval, one of the neighbours does.
-/

namespace TracedFibonacci.Decimal

open Text

/-- A double that is not negative: `mantissa * 2 ^ power`, where the power may be negative, or
infinity. -/
inductive Double where
  /-- A finite one. -/
  | finite (mantissa : Nat) (power : Int)
  /-- Infinity. -/
  | infinity
  deriving Repr, DecidableEq

namespace Double

/-- The least power of two. -/
def minPower : Int := -1074

/-- The greatest power of two. -/
def maxPower : Int := 971

/-- How many bits a mantissa has. -/
def bits : Nat := 53

/-- Multiplies numerator or denominator, so that the quotient is multiplied by `base ^ e`. -/
def scale (base : Nat) (e : Int) (q : Nat × Nat) : Nat × Nat :=
  if 0 ≤ e then (q.1 * base.pow e.toNat, q.2) else (q.1, q.2 * base.pow (-e).toNat)

/-- The whole number nearest to a quotient; of two the even one. -/
def nearest (q : Nat × Nat) : Nat :=
  let n := q.1 / q.2
  let r := 2 * (q.1 % q.2)
  if r < q.2 ∨ (r = q.2 ∧ n % 2 = 0) then n else n + 1

/-- The double nearest to a positive quotient. -/
def ofQuotient (q : Nat × Nat) : Double :=
  let estimate : Int := (q.1.log2 : Int) - q.2.log2 - bits
  let power (e : Int) : Int := max minPower e
  let fits (e : Int) : Bool := let (n, d) := scale 2 (-e) q; n < d <<< bits
  let e := if fits (power estimate) then power estimate else power (estimate + 1)
  let m := nearest (scale 2 (-e) q)
  let (m, e) := if m = 1 <<< bits then (1 <<< (bits - 1), e + 1) else (m, e)
  if maxPower < e then .infinity else .finite m e

/-- The double nearest to `digits * 10 ^ exponent`. Far outside the range of doubles the exact value
does not matter. -/
def ofDecimal (digits : Nat) (exponent : Int) : Double :=
  let size : Int := (Numeral.digits 10 digits).length + exponent
  if digits = 0 ∨ size < -400 then .finite 0 0
  else if 400 < size then .infinity
  else ofQuotient (scale 10 exponent (digits, 1))

/-- Whether a quotient rounds to the double with this mantissa and this power. -/
def roundsTo (m : Nat) (e : Int) (q : Nat × Nat) : Bool := ofQuotient q == .finite m e

/-- A decimal: `digits * 10 ^ exponent`. -/
structure Written where
  /-- The digits. -/
  digits : Nat
  /-- The exponent. -/
  exponent : Int
  deriving Repr, DecidableEq

/-- The decimal on the grid of `10 ^ exponent` that stands for a quotient, if one rounds to the
double with this mantissa and this power. -/
def onGrid? (m : Nat) (e exponent : Int) (q : Nat × Nat) : Option Written :=
  let (n, d) := scale 10 (-exponent) q
  let low := n / d
  let good (k : Nat) : Bool := k != 0 && roundsTo m e (scale 10 exponent (k, 1))
  let nearLow := 2 * (n % d) ≤ d
  if good low && (nearLow || !good (low + 1)) then some ⟨low, exponent⟩
  else if good (low + 1) then some ⟨low + 1, exponent⟩
  else none

/-- The shortest decimal for a positive double on the grid of `10 ^ exponent` or, where there is
none on that, on the next finer ones; `finer` bounds how many are tried. Seventeen digits are
always enough. -/
def shortestFrom (m : Nat) (e : Int) (q : Nat × Nat) : (finer : Nat) → (exponent : Int) → Written
  | 0, exponent => ⟨0, exponent⟩
  | finer + 1, exponent =>
    match onGrid? m e exponent q with
    | some w => w
    | none => shortestFrom m e q finer (exponent - 1)

/-- The number of digits before the point of a positive quotient, which is negative when there are
zeros after it. -/
def magnitude (q : Nat × Nat) : Int :=
  let (n, d) := q
  if d ≤ n then (Numeral.digits 10 (n / d)).length
  else -((Numeral.digits 10 ((d - 1) / n)).length : Int) + 1

/-- The shortest decimal for a double. -/
def shortest (m : Nat) (e : Int) : Written :=
  if m = 0 then ⟨0, 0⟩
  else
    let q := scale 2 e (m, 1)
    shortestFrom m e q 20 (magnitude q)

/-- The text of a decimal without an exponent. -/
def Written.text (w : Written) : String :=
  let ds := Numeral.write 10 w.digits
  let shift := w.exponent
  if 0 ≤ shift then
    String.ofList (if w.digits = 0 then ds else ds ++ List.replicate shift.toNat '0')
  else
    let places := (-shift).toNat
    let ds := List.replicate (places + 1 - ds.length) '0' ++ ds
    let whole := ds.take (ds.length - places)
    String.ofList (whole ++ ['.'] ++ ds.drop (ds.length - places))

end Double

end TracedFibonacci.Decimal
