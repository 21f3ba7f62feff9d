import TracedFibonacci.Text.Numeral

/-!
# Sets of code points

Unicode properties are sets of code points that come in a few hundred ranges. Here such a set is
written the way the standard prints it, as a text of hexadecimal ranges such as
`300-36f 483-489 5bf`, and read into an array once.

The reader is forgiving on purpose: a piece that is no range is left out. The tables are constants
of this library, so a bad piece would be a mistake in a table and not in an input.
-/

namespace TracedFibonacci.Text

/-- A set of code points, as closed ranges. -/
structure CodePoints where
  /-- The ranges, each with its first and its last member. -/
  ranges : Array (Nat × Nat)

namespace CodePoints

/-- Reads one range: `a-b`, or `a` for the range that holds `a` alone. -/
def range? (piece : List Char) : Option (Nat × Nat) :=
  match piece.splitOn '-' with
  | [a] => (Numeral.read? 16 a).map fun n ↦ (n, n)
  | [a, b] => do
    let lo ← Numeral.read? 16 a
    let hi ← Numeral.read? 16 b
    pure (lo, hi)
  | _ => none

/-- Reads a table: rows of ranges separated by single spaces. -/
def ofRows (rows : List String) : CodePoints :=
  ⟨(rows.flatMap fun row ↦ (row.toList.splitOn ' ').filterMap range?).toArray⟩

/-- Whether a character is in the set. -/
def contains (s : CodePoints) (c : Char) : Bool :=
  s.ranges.any fun r ↦ r.1 ≤ c.toNat && c.toNat ≤ r.2

end CodePoints

end TracedFibonacci.Text
