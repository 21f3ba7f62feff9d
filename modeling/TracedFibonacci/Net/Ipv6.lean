import TracedFibonacci.Net.Ipv4

/-!
# IPv6 addresses

Eight groups of sixteen bits, written in hexadecimal with colons between them. The longest row of at
least two zero groups is written as a double colon, and of several such rows the first. A reader
takes a double colon in any one place, for at least one group, and an IPv4 address for the last two
groups.
-/

namespace TracedFibonacci.Net

open Text

/-- An IPv6 address. -/
structure Ipv6 where
  /-- The groups. -/
  groups : List UInt16
  /-- There are eight of them. -/
  length_eq : groups.length = 8
  deriving Repr, DecidableEq

namespace Ipv6

/-- Where the first of the longest rows of zeros begins, and how long it is. -/
def longestZeros : List UInt16 → Nat × Nat
  | [] => (0, 0)
  | g :: gs =>
    let here := ((g :: gs).takeWhile (· == 0)).length
    let (start, length) := longestZeros gs
    if length ≤ here then (0, here) else (start + 1, length)

/-- The text of a group. -/
def writeGroup (g : UInt16) : List Char := Numeral.write 16 g.toNat

/-- The texts of some groups, with colons between them. -/
def writeGroups (gs : List UInt16) : List Char := List.intercalate [':'] (gs.map writeGroup)

/-- The text of an address. -/
def write (ip : Ipv6) : List Char :=
  let (start, length) := longestZeros ip.groups
  if length < 2 then writeGroups ip.groups
  else writeGroups (ip.groups.take start) ++ [':', ':'] ++
    writeGroups (ip.groups.drop (start + length))

/-- The value of one to four hexadecimal digits. -/
def readGroup? (cs : List Char) : Option UInt16 :=
  if cs.isEmpty ∨ 4 < cs.length then none else (Numeral.read? 16 cs).map UInt16.ofNat

/-- Two bytes as a group. -/
def group (hi lo : UInt8) : UInt16 := hi.toUInt16 * 256 + lo.toUInt16

/-- The last group of an address, or the last two groups written as an IPv4 address. -/
def readLast? (cs : List Char) : Option (List UInt16) :=
  match readGroup? cs with
  | some g => some [g]
  | none => (Ipv4.read? cs).map fun ip ↦ [group ip.a ip.b, group ip.c ip.d]

/-- The groups in front of a double colon; none in an empty text. -/
def readFront? (cs : List Char) : Option (List UInt16) :=
  if cs.isEmpty then some [] else (cs.splitOn ':').mapM readGroup?

/-- The groups at the end of an address; none in an empty text. -/
def readBack? (cs : List Char) : Option (List UInt16) :=
  if cs.isEmpty then some []
  else
    let pieces := cs.splitOn ':'
    do return (← pieces.dropLast.mapM readGroup?) ++ (← readLast? (pieces.getLast?.getD []))

/-- The parts of a text before and after the first double colon. -/
def splitDouble? : List Char → Option (List Char × List Char)
  | ':' :: ':' :: rest => some ([], rest)
  | c :: rest => (splitDouble? rest).map fun p ↦ (c :: p.1, p.2)
  | [] => none

/-- The address of these groups, if there are eight of them. -/
def ofGroups? (gs : List UInt16) : Option Ipv6 :=
  if h : gs.length = 8 then some ⟨gs, h⟩ else none

/-- The address with the given text. -/
def read? (cs : List Char) : Option Ipv6 :=
  match splitDouble? cs with
  | none => (readBack? cs).bind ofGroups?
  | some (front, back) => do
    let xs ← readFront? front
    let ys ← readBack? back
    if xs.length + ys.length ≤ 7 then
      ofGroups? (xs ++ List.replicate (8 - xs.length - ys.length) 0 ++ ys)
    else none

/-- The IPv4 address that an address stands for, if it is one of those. -/
def mapped? (ip : Ipv6) : Option Ipv4 :=
  match ip.groups with
  | [0, 0, 0, 0, 0, 0xFFFF, hi, lo] =>
    some ⟨UInt8.ofNat (hi.toNat / 256), UInt8.ofNat hi.toNat,
      UInt8.ofNat (lo.toNat / 256), UInt8.ofNat lo.toNat⟩
  | _ => none

theorem takeWhile_eq_replicate (gs : List UInt16) :
    gs.takeWhile (· == 0) = List.replicate (gs.takeWhile (· == 0)).length 0 := by
  induction gs with
  | nil => rfl
  | cons g gs ih =>
    by_cases h : g = 0
    · simpa [h, List.replicate_succ] using ih
    · simp [h]

theorem drop_length_takeWhile (gs : List UInt16) :
    gs.drop (gs.takeWhile (· == 0)).length = gs.dropWhile (· == 0) := by
  induction gs with
  | nil => rfl
  | cons g gs ih => by_cases h : g = 0 <;> simp [h, ih]

/-- What is found as the longest row of zeros is a row of zeros, in the place where it was found. -/
theorem take_zeros_drop (gs : List UInt16) :
    gs.take (longestZeros gs).1 ++ List.replicate (longestZeros gs).2 0 ++
      gs.drop ((longestZeros gs).1 + (longestZeros gs).2) = gs := by
  induction gs with
  | nil => rfl
  | cons g gs ih =>
    simp only [longestZeros]
    split
    · rw [← takeWhile_eq_replicate, List.take_zero, List.nil_append, Nat.zero_add,
        drop_length_takeWhile, List.takeWhile_append_dropWhile]
    · dsimp only
      rw [Nat.add_right_comm, List.take_succ_cons, List.drop_succ_cons, List.cons_append,
        List.cons_append, ih]

end Ipv6

end TracedFibonacci.Net
