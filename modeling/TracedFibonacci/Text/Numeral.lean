/-!
# Numerals

Writing a number in a base and reading it back. Digits above nine are lower-case letters; reading
takes either case. There is no sign, no separator and no prefix here: formats that have them add
them around a numeral.

## What the lemmas pin down

* `ofDigits_digits`: the digits of a number have that number as their value.
* `digits_lt`: every digit lies below the base.
* `read?_write`: a number is read back from its characters.
-/

namespace TracedFibonacci.Text.Numeral

/-- The digits of `n` in a base of at least two, most significant first; `0` has the one digit
`0`. -/
def digits (base n : Nat) : List Nat :=
  if base < 2 ∨ n < base then [n] else digits base (n / base) ++ [n % base]
termination_by n
decreasing_by
  exact Nat.div_lt_self (by omega) (by omega)

/-- The value of a list of digits, most significant first. -/
def ofDigits (base : Nat) (ds : List Nat) : Nat := ds.foldl (fun v d ↦ v * base + d) 0

theorem ofDigits_append_singleton (base : Nat) (ds : List Nat) (d : Nat) :
    ofDigits base (ds ++ [d]) = ofDigits base ds * base + d := by
  simp [ofDigits]

/-- Writing loses nothing: the digits of `n` have the value `n`. -/
theorem ofDigits_digits (base n : Nat) : ofDigits base (digits base n) = n := by
  fun_induction digits base n with
  | case1 n h => simp [ofDigits]
  | case2 n h ih => rw [ofDigits_append_singleton, ih, Nat.div_add_mod']

/-- A digit is smaller than the base. -/
theorem digits_lt {base n : Nat} (hb : 2 ≤ base) : ∀ d ∈ digits base n, d < base := by
  fun_induction digits base n with
  | case1 n h => intro d hd; simp at hd; omega
  | case2 n h ih =>
    intro d hd
    rcases List.mem_append.1 hd with hd | hd
    · exact ih d hd
    · simp at hd; subst hd; exact Nat.mod_lt _ (by omega)

/-- A number is written with at least one digit. -/
theorem digits_ne_nil (base n : Nat) : digits base n ≠ [] := by
  unfold digits; split <;> simp

/-- The character of a digit: `0` to `9`, then `a` to `z`. -/
def digitChar (d : Nat) : Char := if d < 10 then Char.ofNat (48 + d) else Char.ofNat (87 + d)

/-- The value of a digit character below the base, in either letter case. -/
def digitValue? (base : Nat) (c : Char) : Option Nat :=
  let n := c.toNat
  let v? := if 48 ≤ n ∧ n ≤ 57 then some (n - 48)
    else if 97 ≤ n ∧ n ≤ 122 then some (n - 87)
    else if 65 ≤ n ∧ n ≤ 90 then some (n - 55)
    else none
  v?.filter (· < base)

/-- The characters of a number. -/
def write (base n : Nat) : List Char := (digits base n).map digitChar

/-- The value of a string of digit characters; nothing when one is no digit of the base. The empty
string has the value zero, so a format that wants at least one digit asks for it. -/
def read? (base : Nat) (cs : List Char) : Option Nat :=
  (cs.mapM (digitValue? base)).map (ofDigits base)

/-- A digit is read back from its character. -/
theorem digitValue?_digitChar {base d : Nat} (hd : d < base) (hb : base ≤ 36) :
    digitValue? base (digitChar d) = some d := by
  have h : ∀ d < 36, ∀ base < 37, d < base → digitValue? base (digitChar d) = some d := by
    decide +kernel
  exact h d (by omega) base (by omega) hd

/-- A number is read back from its characters. -/
theorem read?_write {base : Nat} (h2 : 2 ≤ base) (h36 : base ≤ 36) (n : Nat) :
    read? base (write base n) = some n := by
  have h : ∀ ds : List Nat, (∀ d ∈ ds, d < base) →
      (ds.map digitChar).mapM (digitValue? base) = some ds := by
    intro ds
    induction ds with
    | nil => intro _; rfl
    | cons d ds ih =>
      intro hds
      simp [List.mapM_cons, digitValue?_digitChar (hds d (by simp)) h36,
        ih fun x hx ↦ hds x (by simp [hx])]
  simp [read?, write, h _ (digits_lt h2), ofDigits_digits]

/-- The value of at least one decimal digit. -/
def readDecimal? (cs : List Char) : Option Nat := if cs.isEmpty then none else read? 10 cs

/-- The value of at least one decimal digit, which a plus sign may precede. -/
def readUnsigned? (cs : List Char) : Option Nat :=
  readDecimal? (if cs.head? = some '+' then cs.tail else cs)

/-- A number in decimal digits. -/
def decimal (n : Nat) : String := String.ofList (write 10 n)

/-- A number in lower-case hexadecimal digits. -/
def hex (n : Nat) : String := String.ofList (write 16 n)

end TracedFibonacci.Text.Numeral
