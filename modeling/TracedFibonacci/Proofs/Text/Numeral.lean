import TracedFibonacci.Text.Numeral
import Mathlib.Algebra.Order.Group.Nat
import Mathlib.Data.List.Basic

/-!
# The form of a numeral

What can be seen of a number from how it is written: there is at least one digit, none that is no
digit, no zero in front unless the number is zero, and no more digits than its size asks for. So
where something else than a digit follows, the number can be told (`write_append_inj`).
-/

namespace TracedFibonacci.Text.Numeral

variable {base n : Nat}

theorem write_ne_nil (base n : Nat) : write base n ≠ [] := by
  simp [write, digits_ne_nil]

theorem exists_digit_of_mem_write {c : Char} (hbase : 2 ≤ base) (h : c ∈ write base n) :
    ∃ d < base, c = digitChar d := by
  obtain ⟨d, hd, rfl⟩ := List.mem_map.1 h
  exact ⟨d, digits_lt hbase d hd, rfl⟩

theorem notMem_write {stop : Char} (hbase : 2 ≤ base) (hstop : ∀ d < base, digitChar d ≠ stop) :
    stop ∉ write base n := fun h ↦ by
  obtain ⟨d, hd, rfl⟩ := exists_digit_of_mem_write hbase h
  exact hstop d hd rfl

/-- A number is known by its digits. -/
theorem write_inj {n m : Nat} (h2 : 2 ≤ base) (h36 : base ≤ 36) (h : write base n = write base m) :
    n = m :=
  Option.some.inj (by rw [← read?_write h2 h36 n, h, read?_write h2 h36 m])

/-- A number ends at a character that is no digit. -/
theorem write_append_inj {n m : Nat} {stop : Char} {x y : List Char} (h2 : 2 ≤ base)
    (h36 : base ≤ 36) (hstop : ∀ d < base, digitChar d ≠ stop)
    (h : write base n ++ stop :: x = write base m ++ stop :: y) : n = m ∧ x = y := by
  have hends (k : Nat) (z : List Char) :
      (write base k ++ stop :: z).takeWhile (· != stop) = write base k := by
    have hdigits : ∀ c ∈ write base k, (c != stop) = true := fun c hc ↦
      bne_iff_ne.2 fun heq ↦ notMem_write h2 hstop (heq ▸ hc)
    rw [List.takeWhile_append_of_pos hdigits]
    simp
  have hwrite : write base n = write base m := by rw [← hends n x, h, hends m y]
  rw [hwrite, List.append_cancel_left_eq] at h
  exact ⟨write_inj h2 h36 hwrite, (List.cons.inj h).2⟩

theorem isDigit_of_mem_write {c : Char} (h : c ∈ write 10 n) : c.isDigit = true := by
  obtain ⟨d, hd, rfl⟩ := exists_digit_of_mem_write (by decide) h
  have hall : ∀ d < 10, (digitChar d).isDigit = true := by decide
  exact hall d hd

/-- A number begins with a zero only if it is zero. -/
theorem exists_digits_eq_cons (hbase : 2 ≤ base) (hn : 0 < n) :
    ∃ d ds, digits base n = d :: ds ∧ 0 < d := by
  fun_induction digits base n with
  | case1 n h => exact ⟨n, [], rfl, hn⟩
  | case2 n h ih =>
    obtain ⟨d, ds, hds, hd⟩ := ih (Nat.div_pos (by omega) (by omega))
    exact ⟨d, ds ++ [n % base], by rw [hds]; rfl, hd⟩

theorem write_zero : write 10 0 = ['0'] := by
  rw [write, digits, if_pos (by decide)]
  rfl

theorem exists_write_eq_cons (hn : 0 < n) : ∃ c cs, write 10 n = c :: cs ∧ c ≠ '0' := by
  obtain ⟨d, ds, hds, hd⟩ : ∃ d ds, digits 10 n = d :: ds ∧ 0 < d :=
    exists_digits_eq_cons (by decide) hn
  have hmem : d ∈ digits 10 n := by simp [hds]
  have hlt := digits_lt (by decide) d hmem
  have hall : ∀ d < 10, 0 < d → digitChar d ≠ '0' := by decide
  exact ⟨_, _, by rw [write, hds]; rfl, hall d hlt hd⟩

/-- A number below the power of a base has at most so many digits. -/
theorem length_write_le {k : Nat} (hk : 0 < k) (h : n < base ^ k) :
    (write base n).length ≤ k := by
  rw [write, List.length_map]
  fun_induction digits base n generalizing k with
  | case1 n _ => exact hk
  | case2 n hn ih =>
    obtain ⟨k, rfl⟩ := Nat.exists_eq_succ_of_ne_zero hk.ne'
    have hdiv : n / base < base ^ k := by
      rw [Nat.div_lt_iff_lt_mul (by omega), ← Nat.pow_succ]
      exact h
    have hpos : 0 < k := by
      by_contra hzero
      obtain rfl : k = 0 := by omega
      simp only [Nat.succ_eq_add_one, Nat.zero_add, Nat.pow_one] at h
      omega
    rw [List.length_append, List.length_singleton]
    exact Nat.succ_le_succ (ih hpos hdiv)

end TracedFibonacci.Text.Numeral
