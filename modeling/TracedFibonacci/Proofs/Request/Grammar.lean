import TracedFibonacci.Proofs.Request.Value
import TracedFibonacci.Proofs.Text.Numeral

/-!
# The grammar of a request

A line is a numeral and an ending. What the reader of lines makes of any text is told here in terms
of the text alone: the last character, the *token* in front of the ending, and whether the token is
a numeral whose value fits a word (`parse_classified`).

A carriage return before the newline may belong to the ending or to the token, and the ending takes
at most one. So the token of a line is whatever stands before `\r\n` or, when there is no carriage
return, before the newline (`IsToken`); it is never ambiguous, and a second carriage return stays in
it and makes it malformed.
-/

namespace TracedFibonacci.Request

open Text

/-- One or more ASCII digits. -/
def IsNumeral (cs : List Char) : Prop := cs ≠ [] ∧ ∀ c ∈ cs, c.isDigit = true

/-- The number that a row of digits means, where each digit counts ten times the one after it. -/
def decimalValue (cs : List Char) : Nat := Nat.ofDigits 10 (cs.reverse.map fun c ↦ c.toNat - 48)

/-! ### Digits and values -/

theorem isDigit_eq (c : Char) : isDigit c = c.isDigit := by
  simp [isDigit, Char.isDigit, UInt32.le_iff_toNat_le]

theorem isNumeral_iff {cs : List Char} :
    IsNumeral cs ↔ (cs.isEmpty || !cs.all isDigit) = false := by
  simp [IsNumeral, isDigit_eq]

theorem decimalValue_eq (cs : List Char) : decimalValue cs = digitsValue cs := by
  rw [decimalValue, digitsValue, ofDigits_eq, List.map_reverse]

/-- **A number written in its digits has its value**, with any number of zeros in front. -/
theorem decimalValue_write (k n : Nat) :
    decimalValue (List.replicate k '0' ++ Numeral.write 10 n) = n := by
  have hdigit : ∀ d < 10, (Numeral.digitChar d).toNat - 48 = d := by decide
  have hdigits : (Numeral.write 10 n).map (fun c ↦ c.toNat - 48) = Numeral.digits 10 n := by
    rw [Numeral.write, List.map_map]
    conv_rhs => rw [← List.map_id (Numeral.digits 10 n)]
    exact List.map_congr_left fun d hd ↦ hdigit d (Numeral.digits_lt (by decide) d hd)
  rw [decimalValue_eq, digitsValue, List.map_append, hdigits, ofDigits_eq, List.reverse_append,
    List.map_replicate, List.reverse_replicate]
  show Nat.ofDigits 10 (_ ++ List.replicate k 0) = n
  rw [Nat.ofDigits_append_replicate_zero, ← ofDigits_eq, Numeral.ofDigits_digits]

theorem isNumeral_write (k n : Nat) : IsNumeral (List.replicate k '0' ++ Numeral.write 10 n) := by
  refine ⟨by simp [Numeral.write_ne_nil], fun c hc ↦ ?_⟩
  rcases List.mem_append.1 hc with hc | hc
  · rw [List.eq_of_mem_replicate hc]
    rfl
  · exact Numeral.isDigit_of_mem_write hc

/-! ### Tokens -/

theorem token?_eq_none_iff {cs : List Char} : token? cs = none ↔ cs.getLast? ≠ some '\n' := by
  rw [token?, Option.map_eq_none_iff, dropEnd?_eq_none_iff]

/-- A line with its newline has a token, and only one. -/
theorem existsUnique_isToken {cs : List Char} (h : cs.getLast? = some '\n') :
    ∃! token, IsToken cs token := by
  cases htoken : token? cs with
  | none => exact absurd h (token?_eq_none_iff.1 htoken)
  | some token =>
    refine ⟨token, token?_eq_some_iff.1 htoken, fun other hother ↦ ?_⟩
    have := token?_eq_some_iff.2 hother
    rw [htoken] at this
    exact (Option.some.inj this).symm

/-! ### What the reader of lines makes of a text -/

variable {line : Nat} {raw : String}

theorem parse_eq_ok_iff_numeral {v : UInt64} :
    parse line raw = .ok v ↔ ∃ ds, IsNumeral ds ∧ decimalValue ds = v.toNat ∧
      (raw.toList = ds ++ ['\n'] ∨ raw.toList = ds ++ ['\r', '\n']) := by
  rw [parse_eq_ok_iff]
  constructor
  · rintro ⟨ds, hne, hds, hraw, hlt, rfl⟩
    refine ⟨ds, ⟨hne, fun c hc ↦ isDigit_eq c ▸ hds c hc⟩, ?_, hraw⟩
    rw [decimalValue_eq, UInt64.toNat_ofNat_of_lt' hlt]
  · rintro ⟨ds, ⟨hne, hds⟩, hvalue, hraw⟩
    rw [decimalValue_eq] at hvalue
    refine ⟨ds, hne, fun c hc ↦ (isDigit_eq c).trans (hds c hc), hraw, ?_, ?_⟩
    · rw [hvalue]
      exact v.toNat_lt
    · rw [hvalue, UInt64.ofNat_toNat]

theorem parse_of_unended (h : raw.toList.getLast? ≠ some '\n') :
    parse line raw = .error (.missingNewline line raw) := by
  rw [parse, token?_eq_none_iff.2 h]

theorem parse_of_isToken {token : List Char} (h : IsToken raw.toList token) :
    (¬IsNumeral token → parse line raw = .error (.malformed line (String.ofList token))) ∧
    (IsNumeral token → UInt64.size ≤ decimalValue token →
      parse line raw = .error (.outOfRange line (String.ofList token))) := by
  rw [parse, token?_eq_some_iff.2 h]
  refine ⟨fun hbad ↦ if_pos ?_, fun hgood hbig ↦ ?_⟩
  · exact Bool.eq_true_of_not_eq_false (mt isNumeral_iff.2 hbad)
  · rw [decimalValue_eq] at hbig
    dsimp only
    rw [isNumeral_iff.1 hgood, if_neg Bool.false_ne_true, if_neg (Nat.not_lt.2 hbig)]

/-- **The reader of lines accepts its grammar and tells why it refuses anything else.** The value of
a request is that of its digits in decimal, whatever zeros stand in front. A text without a newline
at its end is told of as such and whole; of any other text the token is told of, as malformed when
it is no numeral and as out of range when it is too large. What is told of is always at the given
line. -/
theorem parse_classified (line : Nat) (raw : String) :
    (∀ v : UInt64, parse line raw = .ok v ↔ ∃ ds, IsNumeral ds ∧ decimalValue ds = v.toNat ∧
      (raw.toList = ds ++ ['\n'] ∨ raw.toList = ds ++ ['\r', '\n'])) ∧
    (∀ k n, IsNumeral (List.replicate k '0' ++ Numeral.write 10 n) ∧
      decimalValue (List.replicate k '0' ++ Numeral.write 10 n) = n) ∧
    (raw.toList.getLast? ≠ some '\n' → parse line raw = .error (.missingNewline line raw)) ∧
    (raw.toList.getLast? = some '\n' → ∃! token, IsToken raw.toList token) ∧
    (∀ token, IsToken raw.toList token →
      (token = [] ∨ (∃ c ∈ token, c.isDigit = false) →
        parse line raw = .error (.malformed line (String.ofList token))) ∧
      (token ≠ [] → (∀ c ∈ token, c.isDigit = true) → UInt64.size ≤ decimalValue token →
        parse line raw = .error (.outOfRange line (String.ofList token)))) ∧
    ∀ e, parse line raw = .error e → e.line? = some line := by
  refine ⟨fun v ↦ parse_eq_ok_iff_numeral, fun k n ↦ ⟨isNumeral_write k n, decimalValue_write k n⟩,
    parse_of_unended, existsUnique_isToken, fun token htoken ↦ ⟨fun hbad ↦ ?_, ?_⟩,
    fun e ↦ line?_of_parse⟩
  · refine (parse_of_isToken htoken).1 fun hgood ↦ ?_
    rcases hbad with hempty | ⟨c, hc, hdigit⟩
    · exact hgood.1 hempty
    · exact absurd (hgood.2 c hc) (by simp [hdigit])
  · exact fun hne hdigits ↦ (parse_of_isToken htoken).2 ⟨hne, hdigits⟩

/-- A number without a newline, one behind which the line ends, one with a carriage return too many,
and one that is too large by one. -/
theorem parse_classified_digits :
    parse 1 "0042" = .error (.missingNewline 1 "0042") ∧
    parse 2 "0042\r\n" = .ok 42 ∧
    parse 3 "0042\r\r\n" = .error (.malformed 3 "0042\r") ∧
    parse 4 "018446744073709551616\n" = .error (.outOfRange 4 "018446744073709551616") := by
  obtain ⟨-, -, hunended, -, -, -⟩ := parse_classified 1 "0042"
  obtain ⟨haccepted, -, -, -, -, -⟩ := parse_classified 2 "0042\r\n"
  obtain ⟨-, -, -, -, hmalformed, -⟩ := parse_classified 3 "0042\r\r\n"
  obtain ⟨-, -, -, -, hlarge, -⟩ := parse_classified 4 "018446744073709551616\n"
  have hdigits (cs : List Char) (h : cs.all Char.isDigit = true) : ∀ c ∈ cs, c.isDigit = true :=
    List.all_eq_true.1 h
  refine ⟨hunended (by simp), ?_, ?_, ?_⟩
  · exact (haccepted 42).2
      ⟨"0042".toList, ⟨by decide, hdigits _ (by decide)⟩, by decide, .inr rfl⟩
  · exact (hmalformed "0042\r".toList (.inl rfl)).1 (.inr ⟨'\r', by decide, rfl⟩)
  · exact (hlarge "018446744073709551616".toList (.inr ⟨rfl, by decide⟩)).2 (by decide)
      (hdigits _ (by decide)) (by decide)

end TracedFibonacci.Request
