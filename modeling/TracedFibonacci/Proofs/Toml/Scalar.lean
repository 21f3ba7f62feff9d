import TracedFibonacci.Proofs.Text.Numeral
import TracedFibonacci.Toml.Value
import Mathlib.Data.List.Basic

/-!
# Writing texts and numbers into a document

Texts stand in a document as quotations in double quotation marks, keys as they are where that is
allowed and else as quotations, and whole numbers in decimal digits. What is written so is read
back.
-/

namespace TracedFibonacci.Toml

open Text

/-! ### Quotations -/

/-- How a character stands in a quotation. Control characters without a letter of their own stand as
four hexadecimal digits. -/
def escape (c : Char) : List Char :=
  match c with
  | '"' => ['\\', '"']
  | '\\' => ['\\', '\\']
  | '\x08' => ['\\', 'b']
  | '\t' => ['\\', 't']
  | '\n' => ['\\', 'n']
  | '\x0c' => ['\\', 'f']
  | '\r' => ['\\', 'r']
  | c =>
    if isPrintable c then [c]
    else
      ['\\', 'u', '0', '0', Numeral.digitChar (c.toNat / 16), Numeral.digitChar (c.toNat % 16)]

/-- A text in double quotation marks. -/
def quoted (cs : List Char) : List Char := '"' :: (cs.flatMap escape ++ ['"'])

theorem quoted_append (cs rest : List Char) :
    quoted cs ++ rest = '"' :: (cs.flatMap escape ++ '"' :: rest) := by
  simp [quoted]

/-- A control character is read back from its digits. -/
theorem scalarValue?_digits {c : Char} (h : isPrintable c = false) :
    scalarValue? ['0', '0', Numeral.digitChar (c.toNat / 16), Numeral.digitChar (c.toNat % 16)] =
      some c := by
  have hall : ∀ n < 128, scalarValue? ['0', '0', Numeral.digitChar (n / 16),
      Numeral.digitChar (n % 16)] = some (Char.ofNat n) := by decide +kernel
  have hlt : c.toNat < 128 := by
    simp only [isPrintable, Bool.or_eq_false_iff, Bool.and_eq_false_iff, decide_eq_false_iff_not,
      bne_eq_false_iff_eq] at h
    omega
  rw [hall _ hlt, Char.ofNat_toNat]

theorem basic_of_printable {c : Char} (h : isPrintable c = true) (hmark : c ≠ '"')
    (hslash : c ≠ '\\') (rest : List Char) : basic (c :: rest) = (basic rest).map (prepend c) := by
  rw [basic.eq_5 c rest hmark (fun _ _ _ _ _ h _ ↦ hslash h)
    (fun _ _ _ _ _ _ _ _ _ h _ ↦ hslash h) (fun _ _ h _ ↦ hslash h), if_pos h]

theorem basic_of_escaped {c letter : Char} (h : escaped? letter = some c) (rest : List Char) :
    basic ('\\' :: letter :: rest) = (basic rest).map (prepend c) := by
  have hfour : letter ≠ 'u' := by
    rintro rfl
    simp [escaped?] at h
  have height : letter ≠ 'U' := by
    rintro rfl
    simp [escaped?] at h
  rw [basic.eq_4 letter rest (fun _ _ _ _ _ h _ ↦ hfour h)
    (fun _ _ _ _ _ _ _ _ _ h _ ↦ height h), h]
  cases basic rest <;> rfl

theorem basic_of_scalarValue {c a b d e : Char} (h : scalarValue? [a, b, d, e] = some c)
    (rest : List Char) :
    basic ('\\' :: 'u' :: a :: b :: d :: e :: rest) = (basic rest).map (prepend c) := by
  rw [basic.eq_2, h]
  cases basic rest <;> rfl

/-- What stands for a character in a quotation is read as this character. -/
theorem basic_escape (c : Char) (rest : List Char) :
    basic (escape c ++ rest) = (basic rest).map (prepend c) := by
  rw [escape.eq_def]
  split
  iterate 7 exact basic_of_escaped rfl rest
  next hmark hslash _ _ _ _ _ =>
    cases hprintable : isPrintable c with
    | true => exact basic_of_printable hprintable hmark hslash rest
    | false => exact basic_of_scalarValue (scalarValue?_digits hprintable) rest

/-- A quotation is read back. -/
theorem basic_flatMap_escape (cs rest : List Char) :
    basic (cs.flatMap escape ++ '"' :: rest) = some (cs, rest) := by
  induction cs with
  | nil => rfl
  | cons c cs ih =>
    rw [List.flatMap_cons, List.append_assoc, basic_escape, ih]
    rfl

/-- No quotation mark stands for a character. -/
theorem exists_escape_eq_cons (c : Char) : ∃ d ds, escape c = d :: ds ∧ d ≠ '"' := by
  rw [escape.eq_def]
  split
  iterate 7 exact ⟨_, _, rfl, by decide⟩
  next hmark _ _ _ _ _ _ =>
    cases isPrintable c with
    | true => exact ⟨_, _, rfl, hmark⟩
    | false => exact ⟨_, _, rfl, by decide⟩

/-- A text in quotation marks is read back, unless a third mark follows those of the empty text. -/
theorem quotation_quoted (cs : List Char) {rest : List Char} (h : rest.head? ≠ some '"') :
    quotation (quoted cs ++ rest) = some (cs, rest) := by
  rw [quoted_append, quotation.eq_2, basic_flatMap_escape]
  intro after hthree
  cases cs with
  | nil => simp_all
  | cons c cs =>
    obtain ⟨d, ds, hd, hmark⟩ := exists_escape_eq_cons c
    simp_all

/-! ### Keys -/

/-- Whether a name can stand as a key without quotation marks. -/
def isBareName (name : String) : Bool := !name.toList.isEmpty && name.toList.all isBare

theorem isBareName_iff {name : String} :
    isBareName name = true ↔ name.toList ≠ [] ∧ ∀ c ∈ name.toList, isBare c = true := by
  rw [isBareName, Bool.and_eq_true, Bool.not_eq_true', List.isEmpty_eq_false_iff, List.all_eq_true]

/-- A key with the given name: as it is, or in quotation marks where that is needed. -/
def writeKey (name : String) : List Char :=
  if isBareName name then name.toList else quoted name.toList

theorem exists_writeKey_eq_cons (name : String) :
    ∃ c cs, writeKey name = c :: cs ∧ (c = '"' ∨ isBare c = true) := by
  rw [writeKey]
  split
  · next h =>
    rw [isBareName_iff] at h
    obtain ⟨c, cs, hname⟩ := List.exists_cons_of_ne_nil h.1
    exact ⟨c, cs, hname, .inr (h.2 c (by simp [hname]))⟩
  · exact ⟨_, _, rfl, .inl rfl⟩

/-- A key is read back where it ends. -/
theorem simpleKey_writeKey (name : String) {rest : List Char}
    (h : ∀ c ∈ rest.head?, isBare c = false) :
    simpleKey (writeKey name ++ rest) =
      some (⟨name, .between (writeKey name ++ rest) rest⟩, rest) := by
  rw [writeKey]
  split
  · next hbare =>
    rw [isBareName_iff] at hbare
    obtain ⟨c, cs, hname⟩ := List.exists_cons_of_ne_nil hbare.1
    have hc : isBare c = true := hbare.2 c (by simp [hname])
    have hword : (name.toList ++ rest).takeWhile isBare = name.toList := by
      rw [List.takeWhile_append_of_pos hbare.2]
      cases rest with
      | nil => simp
      | cons d ds => simp [h d rfl]
    rw [simpleKey.eq_3, hword, if_neg (by simp [hname])]
    · simp
    · rintro after hafter
      rw [hname] at hafter
      obtain ⟨rfl, -⟩ := List.cons.inj hafter
      exact absurd hc (by decide)
    · rintro after hafter
      rw [hname] at hafter
      obtain ⟨rfl, -⟩ := List.cons.inj hafter
      exact absurd hc (by decide)
  · rw [quoted_append, simpleKey.eq_1, basic_flatMap_escape]
    simp

/-! ### Whole numbers -/

/-- A text before which a value ends: a line end, or what follows a value in brackets or braces. -/
inductive Stops : List Char → Prop
  | lineEnd (rest : List Char) : Stops ('\n' :: rest)
  | comma (rest : List Char) : Stops (',' :: rest)
  | bracket (rest : List Char) : Stops (']' :: rest)
  | brace (rest : List Char) : Stops ('\x7d' :: rest)

/-- No value goes on with what it stops before. -/
theorem Stops.exists_cons {cs : List Char} (h : Stops cs) :
    ∃ c rest, cs = c :: rest ∧ c.isDigit = false ∧ c ∉ ['-', ':', '"', 'x', 'o', 'b'] := by
  cases h <;> exact ⟨_, _, rfl, rfl, by decide⟩

section Digits

variable {ds rest : List Char}

theorem isDigit_of_digitValue? {c : Char} (h : (Numeral.digitValue? 10 c).isSome = true) :
    c.isDigit = true := by
  obtain ⟨v, hv⟩ := Option.isSome_iff_exists.1 h
  rw [Numeral.digitValue?, Option.filter_eq_some_iff] at hv
  obtain ⟨hv, hlt⟩ := hv
  simp only [decide_eq_true_eq] at hlt
  simp only [Char.isDigit, Bool.and_eq_true, decide_eq_true_eq]
  split at hv
  · next hdigit => exact hdigit
  · split at hv
    · have := Option.some.inj hv
      omega
    · split at hv
      · have := Option.some.inj hv
        omega
      · contradiction

/-- Where a number is read, there are digits. -/
theorem isDigit_of_read? {cs : List Char} {v : Nat} (h : Numeral.read? 10 cs = some v) :
    ∀ c ∈ cs, c.isDigit = true := by
  rw [Numeral.read?, Option.map_eq_some_iff] at h
  obtain ⟨values, hvalues, -⟩ := h
  induction cs generalizing values with
  | nil => simp
  | cons c cs ih =>
    rw [List.mapM_cons, Option.bind_eq_bind, Option.bind_eq_some_iff] at hvalues
    obtain ⟨v, hv, hvalues⟩ := hvalues
    rw [Option.bind_eq_bind, Option.bind_eq_some_iff] at hvalues
    obtain ⟨rest, hrest, -⟩ := hvalues
    rw [List.forall_mem_cons]
    exact ⟨isDigit_of_digitValue? (by simp [hv]), ih rest hrest⟩

theorem moreDigits_append (hds : ∀ c ∈ ds, c.isDigit = true) (h : Stops rest) :
    moreDigits Char.isDigit (ds ++ rest) = some (ds, rest) := by
  induction ds with
  | nil => cases h <;> rfl
  | cons d ds ih =>
    have hd := hds d List.mem_cons_self
    rw [List.cons_append, moreDigits.eq_2, if_pos hd,
      ih fun c hc ↦ hds c (List.mem_cons_of_mem d hc)]
    · rfl
    · rintro _ _ rfl
      exact absurd hd (by decide)

theorem digits_append (hne : ds ≠ []) (hds : ∀ c ∈ ds, c.isDigit = true) (h : Stops rest) :
    digits Char.isDigit (ds ++ rest) = some (ds, rest) := by
  obtain ⟨d, ds, rfl⟩ := List.exists_cons_of_ne_nil hne
  rw [List.cons_append, digits, if_pos (hds d List.mem_cons_self),
    moreDigits_append (fun c hc ↦ hds c (List.mem_cons_of_mem d hc)) h]
  rfl

/-- A date begins with four digits and a dash. -/
theorem date?_eq_none {cs : List Char} (h : (cs.dropWhile Char.isDigit).head? ≠ some '-') :
    date? cs = none := by
  rw [date?.eq_def]
  split
  · next a b c d m n x y rest =>
    cases hyear : year? a b c d with
    | none => rfl
    | some year =>
      have hdigits := isDigit_of_read? hyear
      simp only [List.forall_mem_cons, List.not_mem_nil, false_imp_iff, implies_true] at hdigits
      obtain ⟨ha, hb, hc, hd, -⟩ := hdigits
      simp [ha, hb, hc, hd] at h
  · rfl

/-- A time begins with two digits and a colon. -/
theorem time?_eq_none {cs : List Char} (h : (cs.dropWhile Char.isDigit).head? ≠ some ':') :
    time? cs = none := by
  rw [time?.eq_def]
  split
  · next a b c d e f rest =>
    cases hhour : pair? a b with
    | none => rfl
    | some hour =>
      have hdigits := isDigit_of_read? hhour
      simp only [List.forall_mem_cons, List.not_mem_nil, false_imp_iff, implies_true] at hdigits
      obtain ⟨ha, hb, -⟩ := hdigits
      simp [ha, hb] at h
  · rfl

/-- Digits that no dash or colon follows do not begin a date or a time. -/
theorem moment?_append (hds : ∀ c ∈ ds, c.isDigit = true) (h : Stops rest) :
    moment? (ds ++ rest) = none := by
  obtain ⟨c, rest, rfl, hdigit, hmark⟩ := h.exists_cons
  simp only [List.mem_cons, not_or] at hmark
  have hrest : ((ds ++ c :: rest).dropWhile Char.isDigit).head? = some c := by
    rw [List.dropWhile_append_of_pos hds, List.dropWhile_cons_of_neg (by simp [hdigit])]
    rfl
  rw [moment?, date?_eq_none, time?_eq_none]
  · rw [hrest]
    simp [hmark.2.1]
  · rw [hrest]
    simp [hmark.1]

end Digits

section Decimal

variable (n : Nat) {rest : List Char}

theorem wholeDigits_write (h : Stops rest) :
    wholeDigits (Numeral.write 10 n ++ rest) = some (Numeral.write 10 n, rest) := by
  rcases Nat.eq_zero_or_pos n with rfl | hn
  · rw [Numeral.write_zero]
    rfl
  · obtain ⟨c, cs, hwrite, hc⟩ := Numeral.exists_write_eq_cons hn
    rw [wholeDigits.eq_2,
      digits_append (Numeral.write_ne_nil 10 n) (fun _ ↦ Numeral.isDigit_of_mem_write) h]
    intro cs' hcs
    rw [hwrite] at hcs
    exact hc (List.cons.inj hcs).1

theorem exists_write_append_eq_cons (rest : List Char) :
    ∃ c cs, Numeral.write 10 n ++ rest = c :: cs ∧ c.isDigit = true := by
  obtain ⟨c, cs, hcs⟩ := List.exists_cons_of_ne_nil (Numeral.write_ne_nil 10 n)
  exact ⟨c, cs ++ rest, by rw [hcs]; rfl, Numeral.isDigit_of_mem_write (hcs ▸ List.mem_cons_self)⟩

theorem sign_write (rest : List Char) :
    sign (Numeral.write 10 n ++ rest) = (false, Numeral.write 10 n ++ rest) := by
  obtain ⟨c, cs, hcs, hc⟩ := exists_write_append_eq_cons n rest
  rw [hcs]
  refine sign.eq_3 _ ?_ ?_
  all_goals
    intro cs' h
    obtain ⟨rfl, -⟩ := List.cons.inj h
    exact absurd hc (by decide)

theorem skipGap_write (rest : List Char) :
    skipGap (Numeral.write 10 n ++ rest) = Numeral.write 10 n ++ rest := by
  obtain ⟨c, cs, hcs, hc⟩ := exists_write_append_eq_cons n rest
  rw [hcs]
  refine List.dropWhile_cons_of_neg fun hgap ↦ ?_
  have hblank : c = ' ' ∨ c = '\t' := by simpa [isGap] using hgap
  rcases hblank with rfl | rfl <;> contradiction

theorem fraction_of_stops (h : Stops rest) : fraction rest = some (none, rest) := by
  cases h <;> rfl

theorem exponent_of_stops (h : Stops rest) : exponent rest = some (none, rest) := by
  cases h <;> rfl

/-- A whole number is no number with a point or an exponent. -/
theorem float?_write (h : Stops rest) :
    float? (Numeral.write 10 n ++ rest) = some (none, Numeral.write 10 n ++ rest) := by
  have hword (word : String) (d : Char) (ds : List Char) (hd : d.isDigit = false)
      (hds : word.toList = d :: ds) : word? word (Numeral.write 10 n ++ rest) = none := by
    obtain ⟨c, cs, hcs, hc⟩ := exists_write_append_eq_cons n rest
    have hdc : d ≠ c := by
      rintro rfl
      exact absurd hc (by simp [hd])
    rw [word?, hcs, hds]
    simp [List.isPrefixOf, hdc]
  simp only [float?, sign_write, hword "inf" 'i' ['n', 'f'] rfl rfl,
    hword "nan" 'n' ['a', 'n'] rfl rfl, wholeDigits_write n h, fraction_of_stops h,
    exponent_of_stops h, Option.bind_eq_bind, Option.bind_some, Option.isNone_none, and_self,
    if_true, Option.pure_def]

theorem anyInteger_write (h : Stops rest) :
    anyInteger (Numeral.write 10 n ++ rest) = some ((n : Int), rest) := by
  have hbase (mark : Char) (hmark : mark ∈ ['x', 'o', 'b']) (cs : List Char) :
      Numeral.write 10 n ++ rest ≠ '0' :: mark :: cs := by
    intro hcs
    rcases Nat.eq_zero_or_pos n with rfl | hn
    · rw [Numeral.write_zero] at hcs
      obtain ⟨c, rest, rfl, -, hnot⟩ := h.exists_cons
      obtain rfl : c = mark := (List.cons.inj (List.cons.inj hcs).2).1
      simp_all
    · obtain ⟨c, cs', hwrite, hc⟩ := Numeral.exists_write_eq_cons hn
      rw [hwrite] at hcs
      exact hc (List.cons.inj hcs).1
  rw [anyInteger.eq_4 _ (hbase 'x' (by simp)) (hbase 'o' (by simp)) (hbase 'b' (by simp)),
    sign_write]
  simp [wholeDigits_write n h, Numeral.read?_write]

/-- A whole number is read back if it has sixty-four bits with a sign. -/
theorem number_write (h : Stops rest) :
    number (Numeral.write 10 n ++ rest) =
      if (n : Int) ≤ Int64.maxValue.toInt then some (.integer n, rest) else none := by
  rw [number, moment?_append (fun _ ↦ Numeral.isDigit_of_mem_write) h, float?_write n h]
  simp only [integer, anyInteger_write n h, Option.bind_eq_bind, Option.bind_some]
  split
  · next hmax => simp [check, hmax]
  · next hmax => simp [check, hmax]

end Decimal

/-! ### Single values -/

/-- A truth value in a document. -/
def writeBoolean (b : Bool) : List Char := if b then "true".toList else "false".toList

/-- What does not begin with a bracket or a brace is a single value. -/
theorem value_cons {c : Char} (cs : List Char) (hbracket : c ≠ '[') (hbrace : c ≠ '\x7b')
    (depth : Nat) :
    value depth (c :: cs) =
      (scalar (c :: cs)).map fun x ↦ (.scalar (.between (c :: cs) x.2) x.1, x.2) := by
  cases depth with
  | zero =>
    exact value.eq_3 _ (fun _ h ↦ hbracket (List.cons.inj h).1)
      fun _ h ↦ hbrace (List.cons.inj h).1
  | succ depth =>
    exact value.eq_6 _ depth (fun _ h ↦ hbracket (List.cons.inj h).1)
      fun _ h ↦ hbrace (List.cons.inj h).1

section Values

variable (depth : Nat) {rest : List Char}

theorem value_quoted (s : String) (h : Stops rest) :
    value depth (quoted s.toList ++ rest) =
      some (.scalar (.between (quoted s.toList ++ rest) rest) (.string s), rest) := by
  have hmark : rest.head? ≠ some '"' := by
    obtain ⟨c, rest, rfl, -, hnot⟩ := h.exists_cons
    intro hhead
    obtain rfl : c = '"' := Option.some.inj hhead
    simp at hnot
  have hread := quotation_quoted s.toList hmark
  rw [quoted_append] at hread ⊢
  rw [value_cons _ (by decide) (by decide), scalar.eq_def]
  simp [hread]

theorem value_writeBoolean (b : Bool) (rest : List Char) :
    value depth (writeBoolean b ++ rest) =
      some (.scalar (.between (writeBoolean b ++ rest) rest) (.boolean b), rest) := by
  cases b with
  | true =>
    show value depth ('t' :: 'r' :: 'u' :: 'e' :: rest) = _
    rw [value_cons _ (by decide) (by decide)]
    rfl
  | false =>
    show value depth ('f' :: 'a' :: 'l' :: 's' :: 'e' :: rest) = _
    rw [value_cons _ (by decide) (by decide)]
    rfl

theorem value_write (n : Nat) (h : Stops rest) :
    value depth (Numeral.write 10 n ++ rest) =
      if (n : Int) ≤ Int64.maxValue.toInt then
        some (.scalar (.between (Numeral.write 10 n ++ rest) rest) (.integer n), rest)
      else none := by
  obtain ⟨c, cs, hcs, hc⟩ := exists_write_append_eq_cons n rest
  have hread := number_write n h
  rw [hcs] at hread ⊢
  have hne (d : Char) (hd : d.isDigit = false) : c ≠ d := by
    rintro rfl
    simp [hc] at hd
  rw [value_cons _ (hne _ rfl) (hne _ rfl), scalar.eq_def]
  dsimp only
  rw [if_neg (by simp [hne '"' rfl, hne '\'' rfl]), if_pos (.inr (.inr hc)), hread]
  split <;> rfl

end Values

end TracedFibonacci.Toml
