import TracedFibonacci.Text.Numeral

/-!
# IPv4 addresses

Four bytes, written in decimal with dots between them. A byte is written without leading zeros, and
a text with any is no address, since some readers would take it for octal.

## What the lemmas pin down

* `read?_write`: an address is read back from its text.
-/

namespace TracedFibonacci.Net

open Text

/-- An IPv4 address. -/
structure Ipv4 where
  /-- The first byte. -/
  a : UInt8
  /-- The second byte. -/
  b : UInt8
  /-- The third byte. -/
  c : UInt8
  /-- The fourth byte. -/
  d : UInt8
  deriving Repr, DecidableEq

namespace Ipv4

/-- The address with the given number, of which the first byte is the most significant. -/
def ofNat (n : Nat) : Ipv4 :=
  ⟨UInt8.ofNat (n >>> 24), UInt8.ofNat (n >>> 16), UInt8.ofNat (n >>> 8), UInt8.ofNat n⟩

/-- The text of an address. -/
def write (ip : Ipv4) : List Char :=
  [ip.a, ip.b, ip.c, ip.d].map (fun x ↦ Numeral.write 10 x.toNat) |> List.intercalate ['.']

/-- The value of one to three decimal digits that make a byte, without a leading zero. -/
def readByte? (cs : List Char) : Option UInt8 :=
  if cs.isEmpty ∨ 3 < cs.length ∨ (cs.head? = some '0' ∧ cs.length ≠ 1) then none
  else ((Numeral.read? 10 cs).filter (· < 256)).map UInt8.ofNat

/-- The address with the given text. -/
def read? (cs : List Char) : Option Ipv4 :=
  match cs.splitOn '.' with
  | [a, b, c, d] => do return ⟨← readByte? a, ← readByte? b, ← readByte? c, ← readByte? d⟩
  | _ => none

/-- A byte is read back from its digits. -/
theorem readByte?_write (x : UInt8) : readByte? (Numeral.write 10 x.toNat) = some x := by
  have h : ∀ n < 256, readByte? (Numeral.write 10 n) = some (UInt8.ofNat n) := by decide +kernel
  simpa using h x.toNat x.toNat_lt

/-- The digits of a byte hold no dot. -/
theorem dot_notMem_write (x : UInt8) : '.' ∉ Numeral.write 10 x.toNat := by
  have h : ∀ n < 256, '.' ∉ Numeral.write 10 n := by decide +kernel
  exact h x.toNat x.toNat_lt

/-- An address is read back from its text. -/
theorem read?_write (ip : Ipv4) : read? ip.write = some ip := by
  unfold read? write
  rw [List.splitOn_intercalate]
  · simp [readByte?_write]
  · simp only [List.map_cons, List.map_nil, List.mem_cons, List.not_mem_nil, or_false]
    rintro l (rfl | rfl | rfl | rfl) <;> exact dot_notMem_write _
  · simp

end Ipv4

end TracedFibonacci.Net
