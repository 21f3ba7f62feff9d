import TracedFibonacci.Proofs.Text.Escapes

/-!
# Plain text

A text is plain if all that it holds can be seen (`IsPlain`). Then it is one line and gives no
orders to whoever prints it (`IsPlain.oneLine`): control characters are hidden, and so are the two
characters of Unicode that end a line and are no control characters.

Quotations are plain whatever they quote (`isPlain_quote`). What else a message is put together from
are fixed texts and numbers, which are plain because they are printable ASCII.
-/

namespace TracedFibonacci.Text

/-- All that the text holds can be seen. -/
def IsPlain (s : String) : Prop := ∀ c ∈ s.toList, isHidden c = false

/-- The characters that end a line. -/
def lineBreaks : List Char := ['\n', '\x0b', '\x0c', '\r', '\x85', '\u2028', '\u2029']

/-- The text is one line without control characters. -/
structure OneLine (s : String) : Prop where
  /-- It has no line break. -/
  no_break : ∀ c ∈ s.toList, c ∉ lineBreaks
  /-- It has no control character. -/
  no_control : ∀ c ∈ s.toList, isControl c = false

/-! ### Hidden characters -/

/-- Whether a character is in a table is told by its rows, one by one. -/
theorem CodePoints.contains_ofRows (rows : List String) (c : Char) :
    (ofRows rows).contains c = rows.any fun row ↦
      ((row.toList.splitOn ' ').filterMap range?).any fun r ↦
        r.1 ≤ c.toNat && c.toNat ≤ r.2 := by
  simp [ofRows, contains, List.any_flatMap]

/-- The two separators of Unicode leave no mark on the page. -/
theorem contains_unprintable_of_separator {c : Char} (h : c = '\u2028' ∨ c = '\u2029') :
    unprintable.contains c = true := by
  rw [unprintable, CodePoints.contains_ofRows, List.any_eq_true]
  refine ⟨"2028-202f 205f-206f 2072-2073 208f 209d-209f 20c2-20cf 20f1-20ff 218c-218f 242a-243f",
    ?_, ?_⟩
  · simp only [List.mem_cons, true_or, or_true]
  · rcases h with rfl | rfl <;> decide +kernel

theorem isHidden_of_mem_lineBreaks {c : Char} (h : c ∈ lineBreaks) : isHidden c = true := by
  simp only [lineBreaks, List.mem_cons, List.not_mem_nil, or_false] at h
  rcases h with rfl | rfl | rfl | rfl | rfl | h
  all_goals try exact isHidden_of_isControl (by decide)
  have hbig : 0x7F < c.toNat := by rcases h with rfl | rfl <;> decide
  simp [isHidden, hbig, contains_unprintable_of_separator h]

namespace IsPlain

variable {s t : String}

/-- **A plain text is one line.** -/
theorem oneLine (h : IsPlain s) : OneLine s where
  no_break c hc hbreak := by
    have := h c hc
    rw [isHidden_of_mem_lineBreaks hbreak] at this
    contradiction
  no_control c hc := by
    have := h c hc
    rw [isHidden, Bool.or_eq_false_iff] at this
    exact this.1

theorem append (hs : IsPlain s) (ht : IsPlain t) : IsPlain (s ++ t) := fun c hc ↦ by
  rw [String.toList_append, List.mem_append] at hc
  exact hc.elim (hs c) (ht c)

end IsPlain

/-- A printable character of ASCII. -/
def isGraphic (c : Char) : Bool := 0x20 ≤ c.toNat && c.toNat < 0x7F

theorem isHidden_of_isGraphic {c : Char} (h : isGraphic c = true) : isHidden c = false := by
  rw [isGraphic, Bool.and_eq_true, decide_eq_true_eq, decide_eq_true_eq] at h
  exact isHidden_eq_false_of_ascii h.1 h.2

theorem isPlain_of_isGraphic {s : String} (h : s.toList.all isGraphic = true) : IsPlain s :=
  fun c hc ↦ isHidden_of_isGraphic (List.all_eq_true.1 h c hc)

theorem isPlain_ofList_digits {cs : List Char} (h : ∀ c ∈ cs, c.isDigit = true) :
    IsPlain (String.ofList cs) := by
  refine isPlain_of_isGraphic (List.all_eq_true.2 fun c hc ↦ ?_)
  rw [String.toList_ofList] at hc
  have hdigit := h c hc
  simp only [Char.isDigit, Bool.and_eq_true, decide_eq_true_eq, UInt32.le_iff_toNat_le] at hdigit
  rw [isGraphic, Bool.and_eq_true, decide_eq_true_eq, decide_eq_true_eq]
  exact ⟨le_trans (by decide) hdigit.1, lt_of_le_of_lt hdigit.2 (by decide)⟩

theorem isPlain_decimal (n : Nat) : IsPlain (Numeral.decimal n) :=
  isPlain_ofList_digits fun _ ↦ Numeral.isDigit_of_mem_write

/-! ### Quotations -/

/-- The letters that stand for characters can be seen. -/
theorem isHidden_of_escapeLetter? {c l : Char} (h : escapeLetter? c = some l) :
    isHidden l = false := by
  unfold escapeLetter? at h
  split_ifs at h <;> obtain rfl := Option.some.inj h <;>
    exact isHidden_of_isGraphic (by decide)

theorem isHidden_of_mem_bracedDigits {c d : Char} (h : d ∈ bracedDigits c) :
    isHidden d = false := by
  simp only [bracedDigits, List.cons_append, List.mem_cons, List.mem_append, List.not_mem_nil,
    or_false] at h
  rcases h with rfl | hdigit | rfl
  · exact isHidden_of_isGraphic (by decide)
  · obtain ⟨k, hk, rfl⟩ := Numeral.exists_digit_of_mem_write (by decide) hdigit
    have hall : ∀ k < 16, isGraphic (Numeral.digitChar k) = true := by decide
    exact isHidden_of_isGraphic (hall k hk)
  · exact isHidden_of_isGraphic (by decide)

/-- What stands for a character in a quotation can be seen. -/
theorem isHidden_of_mem_quoteChar {c d : Char} (h : d ∈ quoteChar c) : isHidden d = false := by
  have hslash : isHidden '\\' = false := isHidden_of_isGraphic (by decide)
  have hescapes := escaping.escapes c
  rw [← quoteChar_eq] at hescapes
  generalize quoteChar c = w at h hescapes
  cases hescapes with
  | letter hl =>
    rcases List.mem_pair.1 h with rfl | rfl
    · exact hslash
    · exact isHidden_of_escapeLetter? hl
  | digits =>
    rcases List.mem_cons.1 h with rfl | h
    · exact hslash
    rcases List.mem_cons.1 h with rfl | h
    · exact isHidden_of_isGraphic (by decide)
    · exact isHidden_of_mem_bracedDigits h
  | plain hseen => rwa [List.mem_singleton.1 h]

/-- **A quotation is plain**, whatever it quotes. -/
theorem isPlain_quote (s : String) : IsPlain (quote s) := by
  intro c hc
  simp only [quote, quoteChars, String.toList_ofList, List.cons_append, List.mem_cons,
    List.mem_append, List.mem_flatMap, List.not_mem_nil, or_false] at hc
  rcases hc with rfl | ⟨d, -, hd⟩ | rfl
  · exact isHidden_of_isGraphic (by decide)
  · exact isHidden_of_mem_quoteChar hd
  · exact isHidden_of_isGraphic (by decide)

end TracedFibonacci.Text
