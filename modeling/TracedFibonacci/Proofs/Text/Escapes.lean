import TracedFibonacci.Proofs.Text.Numeral
import TracedFibonacci.Text.Json
import TracedFibonacci.Text.Quoted

/-!
# Words that end by themselves

A message is put together from words, and who reads it wants to know which. That can be told if each
word ends by itself, whatever stands behind it, as the words of a code do (`SelfDelimiting`): if two
texts are equal and each begins with a word, these are equal, and so is what they leave.

## Texts in quotes

Two kinds of text in quotes are such words, strings of JSON and quotations in messages. Both write a
character with a letter behind a backslash, with digits behind a backslash and a `u`, or as it
stands, and the quote and the backslash never stand as they are. They differ in the letters, in the
characters that get digits, and in the form of these. `escapeWith` takes all three as parameters,
and `Escaping` says what they have to fulfil so that a text in quotes ends by itself
(`Escaping.selfDelimiting_quoted`).

The digits need not have a fixed length for that: a quotation puts them in braces.
-/

namespace TracedFibonacci

open Text

/-! ### Codes -/

/-- Every word of a code ends by itself: a text begins with one word at most. -/
def SelfDelimiting {α : Type} (code : α → List Char) : Prop :=
  ∀ ⦃a b : α⦄ ⦃x y : List Char⦄, code a ++ x = code b ++ y → a = b ∧ x = y

/-- A sequence of words ends at a character with which no word begins. -/
theorem SelfDelimiting.flatMap_append {α : Type} {code : α → List Char} (h : SelfDelimiting code)
    {stop : Char} (hstop : ∀ a, ∃ c cs, code a = c :: cs ∧ c ≠ stop) {as bs : List α}
    {x y : List Char} (heq : as.flatMap code ++ stop :: x = bs.flatMap code ++ stop :: y) :
    as = bs ∧ x = y := by
  induction as generalizing bs with
  | nil =>
    cases bs with
    | nil => exact ⟨rfl, (List.cons.inj heq).2⟩
    | cons b bs =>
      obtain ⟨c, cs, hc, hne⟩ := hstop b
      rw [List.flatMap_cons, hc] at heq
      exact absurd (List.cons.inj heq).1.symm hne
  | cons a as ih =>
    cases bs with
    | nil =>
      obtain ⟨c, cs, hc, hne⟩ := hstop a
      rw [List.flatMap_cons, hc] at heq
      exact absurd (List.cons.inj heq).1 hne
    | cons b bs =>
      simp only [List.flatMap_cons, List.append_assoc] at heq
      obtain ⟨rfl, hrest⟩ := h heq
      obtain ⟨rfl, hxy⟩ := ih hrest
      exact ⟨rfl, hxy⟩

namespace Text

/-! ### Escapes -/

section Escapes

variable (letter? : Char → Option Char) (hides : Char → Bool) (digits : Char → List Char)

/-- A character in a text in quotes: a letter in its place, its digits if it is not to be seen, or
the character itself. -/
def escapeWith (c : Char) : List Char :=
  match letter? c with
  | some l => ['\\', l]
  | none => if hides c then '\\' :: 'u' :: digits c else [c]

/-- What stands for a character, case by case. -/
inductive Escapes (c : Char) : List Char → Prop
  | letter {l : Char} (h : letter? c = some l) : Escapes c ['\\', l]
  | digits (h : hides c = true) : Escapes c ('\\' :: 'u' :: digits c)
  | plain (hseen : hides c = false) (hslash : c ≠ '\\') (hmark : c ≠ '"') : Escapes c [c]

/-- The character for which a letter behind a backslash stands. -/
def meant : Char → Char
  | 'n' => '\n'
  | 'r' => '\r'
  | 't' => '\t'
  | 'b' => '\x08'
  | 'f' => '\x0c'
  | '0' => '\x00'
  | l => l

/-- What stands for characters can be told apart. -/
structure Escaping : Prop where
  /-- The quote has a letter. -/
  mark : letter? '"' ≠ none
  /-- So has the backslash. -/
  slash : letter? '\\' ≠ none
  /-- A letter stands for one character, and is not the one that announces digits. -/
  letter : ∀ {c l : Char}, letter? c = some l → meant l = c ∧ l ≠ 'u'
  /-- Digits tell their character, and end by themselves. -/
  digits : ∀ {c d : Char} {x y : List Char}, hides c = true → hides d = true →
    digits c ++ x = digits d ++ y → c = d ∧ x = y

namespace Escaping

variable {letter? hides digits} (h : Escaping letter? hides digits)

include h

theorem escapes (c : Char) :
    Escapes letter? hides digits c (escapeWith letter? hides digits c) := by
  rw [escapeWith]
  split
  next l hl => exact .letter hl
  next hl =>
    split
    next hc => exact .digits hc
    next hc =>
      refine .plain (Bool.eq_false_iff.2 hc) ?_ ?_
      · rintro rfl
        exact h.slash hl
      · rintro rfl
        exact h.mark hl

/-- What stands for a character ends by itself. -/
theorem selfDelimiting : SelfDelimiting (escapeWith letter? hides digits) := by
  intro c d x y heq
  have hc := h.escapes c
  have hd := h.escapes d
  generalize escapeWith letter? hides digits c = v at hc heq
  generalize escapeWith letter? hides digits d = w at hd heq
  cases hc with
  | @letter l hc =>
    obtain ⟨hmeant, hl⟩ := h.letter hc
    cases hd with
    | @letter l' hd =>
      simp only [List.cons_append, List.nil_append, List.cons.injEq, true_and] at heq
      exact ⟨by rw [← hmeant, heq.1, (h.letter hd).1], heq.2⟩
    | digits => exact absurd (List.cons.inj (List.cons.inj heq).2).1 hl
    | plain _ hslash _ => exact absurd (List.cons.inj heq).1.symm hslash
  | digits hc =>
    cases hd with
    | @letter l' hd =>
      exact absurd (List.cons.inj (List.cons.inj heq).2).1.symm (h.letter hd).2
    | digits hd => exact h.digits hc hd (List.cons.inj (List.cons.inj heq).2).2
    | plain _ hslash _ => exact absurd (List.cons.inj heq).1.symm hslash
  | plain _ hslash _ =>
    cases hd with
    | letter | digits => exact absurd (List.cons.inj heq).1 hslash
    | plain => exact List.cons.inj heq

/-- **A text in quotes ends by itself.** -/
theorem selfDelimiting_quoted : SelfDelimiting fun s : String ↦
    '"' :: s.toList.flatMap (escapeWith letter? hides digits) ++ ['"'] := by
  have hfirst : ∀ c, ∃ d ds, escapeWith letter? hides digits c = d :: ds ∧ d ≠ '"' := fun c ↦ by
    have hc := h.escapes c
    generalize escapeWith letter? hides digits c = v at hc ⊢
    cases hc with
    | letter | digits => exact ⟨_, _, rfl, by decide⟩
    | plain _ _ hmark => exact ⟨_, _, rfl, hmark⟩
  intro s s' x y heq
  simp only [List.cons_append, List.append_assoc, List.nil_append, List.cons.injEq,
    true_and] at heq
  obtain ⟨hs, hxy⟩ := h.selfDelimiting.flatMap_append hfirst heq
  exact ⟨String.toList_inj.1 hs, hxy⟩

end Escaping

end Escapes

/-! ### Strings of JSON -/

namespace Json

/-- The digits of a character in JSON. -/
def digits (c : Char) : List Char :=
  ['0', '0'] ++ [c.toNat / 16, c.toNat % 16].map Numeral.digitChar

theorem escaping : Escaping escapeLetter? (·.toNat < 0x20) digits where
  mark := by simp [escapeLetter?]
  slash := by simp [escapeLetter?]
  letter {c l} h := by
    unfold escapeLetter? at h
    split_ifs at h with hc hc hc hc hc hc hc <;> obtain rfl := Option.some.inj h <;>
      exact ⟨hc.symm, by decide⟩
  digits {c d x y} hc hd h := by
    have hall : ∀ n < 0x20, ∀ m < 0x20, Numeral.digitChar (n / 16) = Numeral.digitChar (m / 16) →
        Numeral.digitChar (n % 16) = Numeral.digitChar (m % 16) → n = m := by
      decide +kernel
    simp only [digits, List.map_cons, List.map_nil, List.cons_append, List.nil_append,
      List.cons.injEq, true_and] at h
    exact ⟨Char.toNat_inj.1 (hall _ (of_decide_eq_true hc) _ (of_decide_eq_true hd) h.1 h.2.1),
      h.2.2⟩

theorem escape_eq : escape = escapeWith escapeLetter? (·.toNat < 0x20) digits := by
  funext c
  rw [escape, escapeWith]
  cases escapeLetter? c with
  | some l => rfl
  | none => simp [digits]

/-- A string of JSON ends by itself. -/
theorem selfDelimiting_string : SelfDelimiting fun s ↦ (string s).toList := by
  simpa only [string, String.toList_ofList, escape_eq] using escaping.selfDelimiting_quoted

theorem newline_notMem_escape (c : Char) : '\n' ∉ escape c := by
  have hc := escaping.escapes c
  rw [escape_eq]
  generalize escapeWith escapeLetter? (·.toNat < 0x20) digits c = v at hc ⊢
  cases hc with
  | @letter l hl =>
    rw [List.mem_pair]
    rintro (h | rfl)
    · exact absurd h (by decide)
    -- A letter stands for one character, and the one for a line end is no line end.
    · obtain rfl : '\n' = c := (escaping.letter hl).1
      exact absurd hl (by decide)
  | digits h =>
    have hall : ∀ n < 0x20, '\n' ∉ [n / 16, n % 16].map Numeral.digitChar := by decide +kernel
    simpa [digits] using hall c.toNat (of_decide_eq_true h)
  | plain h =>
    rw [List.mem_singleton]
    rintro rfl
    exact absurd h (by decide)

/-- A string of JSON is on one line, whatever text it is for. -/
theorem newline_notMem_string (s : String) : '\n' ∉ (string s).toList := by
  simp [string, newline_notMem_escape]

end Json

/-! ### Quotations -/

/-- The digits of a character in a quotation. -/
def bracedDigits (c : Char) : List Char := '\x7b' :: Numeral.write 16 c.toNat ++ ['\x7d']

theorem escaping : Escaping escapeLetter? isHidden bracedDigits where
  mark := by simp [escapeLetter?]
  slash := by simp [escapeLetter?]
  letter {c l} h := by
    unfold escapeLetter? at h
    split_ifs at h with hc hc hc hc hc hc <;> obtain rfl := Option.some.inj h <;>
      exact ⟨hc.symm, by decide⟩
  digits {c d x y} _ _ h := by
    have hbrace : ∀ k < 16, Numeral.digitChar k ≠ '\x7d' := by decide
    simp only [bracedDigits, List.cons_append, List.append_assoc, List.nil_append,
      List.cons.injEq, true_and] at h
    obtain ⟨hcode, hxy⟩ := Numeral.write_append_inj (by decide) (by decide) hbrace h
    exact ⟨Char.toNat_inj.1 hcode, hxy⟩

theorem quoteChar_eq : quoteChar = escapeWith escapeLetter? isHidden bracedDigits := by
  funext c
  rw [quoteChar, escapeWith]
  rfl

/-- A quotation ends by itself. -/
theorem selfDelimiting_quote : SelfDelimiting fun s ↦ (quote s).toList := by
  simpa only [quote, quoteChars, String.toList_ofList, quoteChar_eq] using
    escaping.selfDelimiting_quoted

theorem quote_inj {s t : String} (h : quote s = quote t) : s = t :=
  (selfDelimiting_quote (x := []) (y := []) (by simp [h])).1

end Text

end TracedFibonacci
