import TracedFibonacci.Fibonacci
import Mathlib.Data.Nat.Fib.Basic

/-!
# The answers are Fibonacci numbers

Three computations are held against the sequence `fib` over the natural numbers: doubling with
words that wrap (`wrapped`), adding up term by term with words that wrap (`addedUp`), and adding up
with additions that have to fit (`fib?`).

The first two wrap again and again on the way, so what they hold on the way are not Fibonacci
numbers. What carries through is that they are *modulo the size of a word*: `UInt64.ofNat` turns
sums, products and differences of numbers into those of words, so a recurrence of the numbers is one
of the words (`wrappedPair_eq`, `iterate_stepUp`).

The third never wraps, and its words are Fibonacci numbers outright (`climb_eq_some_iff`). An
addition that does not fit ends it, and since the sequence never goes down again, the term that was
asked for does not fit either. No term behind that one is formed, so nothing is lost to an overflow
there. Which term is the last that fits is left to `fib?` itself (`fib_lt_size_iff`).
-/

namespace TracedFibonacci

/-! ### The sequence -/

/-- The sequence is the one of the mathematical library. -/
theorem fib_eq : ∀ n, fib n = Nat.fib n
  | 0 => rfl
  | 1 => rfl
  | n + 2 => by rw [fib, fib_eq n, fib_eq (n + 1), Nat.fib_add_two]

theorem fib_mono : Monotone fib := by
  rw [show fib = Nat.fib from funext fib_eq]
  exact Nat.fib_mono

theorem fib_two_mul (k : Nat) : fib (2 * k) = fib k * (fib (k + 1) + fib (k + 1) - fib k) := by
  rw [fib_eq, fib_eq, fib_eq, Nat.fib_two_mul, Nat.two_mul]

theorem fib_two_mul_add_one (k : Nat) :
    fib (2 * k + 1) = fib k * fib k + fib (k + 1) * fib (k + 1) := by
  rw [fib_eq, fib_eq, fib_eq, Nat.fib_two_mul_add_one, Nat.pow_two, Nat.pow_two, Nat.add_comm]

/-! ### Words that wrap -/

theorem ofNat_fib_add_two (n : Nat) :
    UInt64.ofNat (fib (n + 2)) = UInt64.ofNat (fib n) + UInt64.ofNat (fib (n + 1)) := by
  rw [fib, UInt64.ofNat_add]

theorem ofNat_fib_two_mul (k : Nat) :
    UInt64.ofNat (fib (2 * k)) = UInt64.ofNat (fib k) *
      (UInt64.ofNat (fib (k + 1)) + UInt64.ofNat (fib (k + 1)) - UInt64.ofNat (fib k)) := by
  have hle : fib k ≤ fib (k + 1) + fib (k + 1) :=
    (fib_mono (Nat.le_succ k)).trans (Nat.le_add_right ..)
  rw [fib_two_mul, UInt64.ofNat_mul, UInt64.ofNat_sub hle, UInt64.ofNat_add]

theorem ofNat_fib_two_mul_add_one (k : Nat) :
    UInt64.ofNat (fib (2 * k + 1)) = UInt64.ofNat (fib k) * UInt64.ofNat (fib k) +
      UInt64.ofNat (fib (k + 1)) * UInt64.ofNat (fib (k + 1)) := by
  rw [fib_two_mul_add_one, UInt64.ofNat_add, UInt64.ofNat_mul, UInt64.ofNat_mul]

/-- **Doubling keeps to the sequence** modulo the size of a word. -/
theorem wrappedPair_eq (n : Nat) :
    wrappedPair n = (UInt64.ofNat (fib n), UInt64.ofNat (fib (n + 1))) := by
  fun_induction wrappedPair n with
  | case1 => rfl
  | case2 n hn a b hpair even odd heven ih =>
    obtain ⟨rfl, rfl⟩ := Prod.mk.inj (hpair.symm.trans ih)
    have hn2 : n = 2 * (n / 2) := by omega
    rw [hn2, ofNat_fib_two_mul, ofNat_fib_two_mul_add_one]
  | case3 n hn a b hpair even odd hodd ih =>
    obtain ⟨rfl, rfl⟩ := Prod.mk.inj (hpair.symm.trans ih)
    have hn2 : n = 2 * (n / 2) + 1 := by omega
    rw [hn2, ofNat_fib_add_two, ofNat_fib_two_mul, ofNat_fib_two_mul_add_one]

/-- The next two terms, after two neighbouring ones. -/
def stepUp (p : UInt64 × UInt64) : UInt64 × UInt64 := (p.2, p.2 + p.1)

/-- The `n`-th term, by `n - 1` additions of words. -/
def addedUp (n : UInt64) : UInt64 := if n ≤ 1 then n else (stepUp^[n.toNat - 1] (0, 1)).2

/-- **Adding up keeps to the sequence** modulo the size of a word. -/
theorem iterate_stepUp (k : Nat) :
    stepUp^[k] (0, 1) = (UInt64.ofNat (fib k), UInt64.ofNat (fib (k + 1))) := by
  induction k with
  | zero => rfl
  | succ k ih =>
    rw [Function.iterate_succ_apply', ih, stepUp, ofNat_fib_add_two, UInt64.add_comm]

theorem wrapped_eq_ofNat (n : UInt64) : wrapped n = UInt64.ofNat (fib n.toNat) := by
  rw [wrapped, wrappedPair_eq]

theorem addedUp_eq_ofNat (n : UInt64) : addedUp n = UInt64.ofNat (fib n.toNat) := by
  rw [addedUp]
  split
  · next h =>
    have hsmall : ∀ k ≤ 1, fib k = k := by decide
    rw [hsmall _ (UInt64.le_iff_toNat_le.1 h), UInt64.ofNat_toNat]
  · next h =>
    have hbig : 1 < n.toNat := by simpa [UInt64.le_iff_toNat_le] using h
    rw [iterate_stepUp, Nat.sub_add_cancel (by omega)]

/-- **A request under the wrapping policy is answered with the Fibonacci number modulo the size of a
word**, and never with an error. It is what adding up comes to, one term after the other. -/
theorem wrapped_eq_fib_mod (n : UInt64) :
    (wrapped n).toNat = fib n.toNat % UInt64.size ∧ wrapped n = addedUp n ∧
    OverflowPolicy.compute .wrapping n = .ok (wrapped n) ∧
    ∀ e, OverflowPolicy.compute .wrapping n ≠ .error e := by
  refine ⟨?_, ?_, OverflowPolicy.compute_wrapping n, fun e ↦ ?_⟩
  · rw [wrapped_eq_ofNat, UInt64.toNat_ofNat']
  · rw [wrapped_eq_ofNat, addedUp_eq_ofNat]
  · rw [OverflowPolicy.compute_wrapping]
    simp

/-! ### Additions that fit -/

theorem addWithin?_eq_some_iff {a b c : UInt64} :
    addWithin? a b = some c ↔ c.toNat = a.toNat + b.toNat := by
  rw [addWithin?]
  split
  · next h =>
    have hsum : (a + b).toNat = a.toNat + b.toNat := by
      rw [UInt64.toNat_add, Nat.mod_eq_of_lt h]
    rw [Option.some.injEq, ← UInt64.toNat_inj, hsum, eq_comm]
  · next h =>
    have hc : c.toNat < UInt64.size := c.toNat_lt
    simp only [reduceCtorEq, false_iff]
    omega

theorem addWithin?_eq_none_iff {a b : UInt64} :
    addWithin? a b = none ↔ UInt64.size ≤ a.toNat + b.toNat := by
  rw [addWithin?]
  split
  · next h => simpa using h
  · next h => simpa using h

/-- **Climbing finds the term it goes to exactly if that fits a word.** When an addition on the way
does not fit, neither does any later term. -/
theorem climb_eq_some_iff {steps i : Nat} {a b v : UInt64} (ha : a.toNat = fib i)
    (hb : b.toNat = fib (i + 1)) : climb steps a b = some v ↔ v.toNat = fib (i + steps) := by
  induction steps generalizing i a b with
  | zero => rw [climb, Option.some.injEq, ← UInt64.toNat_inj, ha, Nat.add_zero, eq_comm]
  | succ steps ih =>
    cases steps with
    | zero => rw [climb, Option.some.injEq, ← UInt64.toNat_inj, hb, eq_comm]
    | succ steps =>
      rw [climb]
      cases hc : addWithin? a b with
      | some c =>
        have hnext : c.toNat = fib (i + 1 + 1) := by rw [addWithin?_eq_some_iff.1 hc, ha, hb, fib]
        rw [Option.bind_some, ih hb hnext, Nat.add_right_comm]
        rfl
      | none =>
        have hover : UInt64.size ≤ fib (i + 2) := by
          rw [fib, ← ha, ← hb]
          exact addWithin?_eq_none_iff.1 hc
        have hlater : fib (i + 2) ≤ fib (i + (steps + 1 + 1)) := fib_mono (by omega)
        have hv : v.toNat < UInt64.size := v.toNat_lt
        simp only [Option.bind_none, reduceCtorEq, false_iff]
        omega

theorem fib?_eq_some_iff {n v : UInt64} : fib? n = some v ↔ v.toNat = fib n.toNat := by
  rw [fib?, climb_eq_some_iff (i := 0) rfl rfl, Nat.zero_add]

theorem fib?_eq_none_iff {n : UInt64} : fib? n = none ↔ UInt64.size ≤ fib n.toNat := by
  rw [Option.eq_none_iff_forall_ne_some]
  refine ⟨fun h ↦ ?_, fun h v hv ↦ ?_⟩
  · by_contra hfits
    exact h (.ofNat (fib n.toNat))
      (fib?_eq_some_iff.2 (UInt64.toNat_ofNat_of_lt' (Nat.lt_of_not_le hfits)))
  · have : v.toNat < UInt64.size := v.toNat_lt
    rw [fib?_eq_some_iff.1 hv] at this
    omega

/-- The last term that fits a word is the ninety-third. -/
theorem fib_lt_size_iff {k : Nat} : fib k < UInt64.size ↔ k ≤ 93 := by
  have hlast : fib 93 < UInt64.size :=
    Nat.lt_of_not_le (mt (fib?_eq_none_iff (n := 93)).2 (by decide))
  have hfirst : UInt64.size ≤ fib 94 := (fib?_eq_none_iff (n := 94)).1 (by decide)
  refine ⟨fun h ↦ ?_, fun h ↦ (fib_mono h).trans_lt hlast⟩
  by_contra hk
  exact absurd (hfirst.trans (fib_mono (by omega : 94 ≤ k))) (Nat.not_le.2 h)

/-- **A request under the checked policy is answered with the Fibonacci number exactly if that fits
a word**, which it does up to the ninety-third. Then the answer is that of the wrapping policy, and
otherwise the overflow of this very request is reported. -/
theorem fib?_exact (n : UInt64) :
    (∀ v, fib? n = some v ↔ v.toNat = fib n.toNat) ∧
    (fib? n = none ↔ UInt64.size ≤ fib n.toNat) ∧
    ((fib? n).isSome ↔ n ≤ 93) ∧
    OverflowPolicy.compute .checked n =
      if n ≤ 93 then OverflowPolicy.compute .wrapping n else .error ⟨n⟩ := by
  have hcut : (fib? n).isSome ↔ n ≤ 93 := by
    rw [Option.isSome_iff_ne_none, Ne, fib?_eq_none_iff, Nat.not_le, fib_lt_size_iff,
      UInt64.le_iff_toNat_le]
    rfl
  refine ⟨fun v ↦ fib?_eq_some_iff, fib?_eq_none_iff, hcut, ?_⟩
  cases hv : fib? n with
  | some v =>
    have hfits : n ≤ 93 := hcut.1 (by rw [hv]; rfl)
    have hword : wrapped n = v := by
      rw [wrapped_eq_ofNat, ← fib?_eq_some_iff.1 hv, UInt64.ofNat_toNat]
    simp only [OverflowPolicy.compute, hv, hfits, if_true, hword]
  | none =>
    have hover : ¬n ≤ 93 := fun h ↦ by simpa [hv] using hcut.2 h
    simp only [OverflowPolicy.compute, hv, hover, if_false]

end TracedFibonacci
