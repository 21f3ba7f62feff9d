import TracedFibonacci.Text.Numeral

/-!
# Percent-encoding

A URL shows a byte that may not stand in it as a per cent sign with two hexadecimal digits, in
capitals. Which characters those are depends on the part of the URL; characters outside the visible
part of ASCII are encoded everywhere, each as the bytes of its UTF-8 form. A per cent sign itself is
left alone, so text that is encoded already stays as it is.

## What the lemmas pin down

* `visible_of_mem_percentEncode`: encoded text is visible ASCII.
* `percentEncode_eq_self`: text without characters to encode stays as it is.
-/

namespace TracedFibonacci.Text

/-- The visible characters of ASCII. -/
def isVisible (c : Char) : Bool := 0x21 ≤ c.toNat && c.toNat ≤ 0x7E

/-- A hexadecimal digit in capitals. -/
def capitalDigit (d : Nat) : Char := if d < 10 then Char.ofNat (48 + d) else Char.ofNat (55 + d)

/-- A byte as a per cent sign and two digits. -/
def percentByte (b : UInt8) : List Char :=
  ['%', capitalDigit (b.toNat / 16), capitalDigit (b.toNat % 16)]

/-- A character in a part of a URL where the characters `reserved` have to be encoded. -/
def percentChar (reserved : List Char) (c : Char) : List Char :=
  if isVisible c && !reserved.contains c then [c]
  else (String.utf8EncodeChar c).flatMap percentByte

/-- A text in a part of a URL where the characters `reserved` have to be encoded. -/
def percentEncode (reserved : List Char) (cs : List Char) : List Char :=
  cs.flatMap (percentChar reserved)

/-- The bytes of a text in which some are written with per cent signs. A per cent sign without two
digits after it stands for itself. -/
def percentDecode : List Char → List UInt8
  | [] => []
  | '%' :: a :: b :: cs =>
    match Numeral.digitValue? 16 a, Numeral.digitValue? 16 b with
    | some x, some y => UInt8.ofNat (x * 16 + y) :: percentDecode cs
    | _, _ => String.utf8EncodeChar '%' ++ percentDecode (a :: b :: cs)
  | c :: cs => String.utf8EncodeChar c ++ percentDecode cs

theorem visible_of_mem_percentByte {b : UInt8} {c : Char} (h : c ∈ percentByte b) :
    isVisible c = true := by
  have hdigit : ∀ d < 16, isVisible (capitalDigit d) = true := by decide +kernel
  have hb := b.toNat_lt
  simp only [percentByte, List.mem_cons, List.not_mem_nil, or_false] at h
  rcases h with rfl | rfl | rfl
  · decide
  · exact hdigit _ (by omega)
  · exact hdigit _ (by omega)

/-- Encoded text is visible ASCII. -/
theorem visible_of_mem_percentEncode {reserved cs : List Char} {c : Char}
    (h : c ∈ percentEncode reserved cs) : isVisible c = true := by
  obtain ⟨d, -, hd⟩ := List.mem_flatMap.1 h
  unfold percentChar at hd
  split at hd
  · next hv =>
    simp only [List.mem_singleton] at hd
    subst hd
    simp_all
  · obtain ⟨b, -, hb⟩ := List.mem_flatMap.1 hd
    exact visible_of_mem_percentByte hb

/-- A reserved character does not stand in encoded text, unless it is one that encoding writes. -/
theorem notMem_percentEncode {reserved cs : List Char} {c : Char} (hc : c ∈ reserved)
    (hp : ∀ b, c ∉ percentByte b) : c ∉ percentEncode reserved cs := by
  intro h
  obtain ⟨d, -, hd⟩ := List.mem_flatMap.1 h
  unfold percentChar at hd
  split at hd
  · next hv =>
    simp only [List.mem_singleton] at hd
    subst hd
    simp_all
  · obtain ⟨b, -, hb⟩ := List.mem_flatMap.1 hd
    exact hp b hb

/-- Text without characters to encode stays as it is. -/
theorem percentEncode_eq_self {reserved cs : List Char}
    (h : ∀ c ∈ cs, isVisible c = true ∧ c ∉ reserved) : percentEncode reserved cs = cs := by
  induction cs with
  | nil => rfl
  | cons c cs ih =>
    have hc := h c (by simp)
    have : percentChar reserved c = [c] := by simp [percentChar, hc.1, hc.2]
    simp only [percentEncode, List.flatMap_cons, this] at ih ⊢
    rw [ih fun d hd ↦ h d (by simp [hd])]
    rfl

/-- A text without per cent signs stands for its own bytes. -/
theorem percentDecode_eq_self {cs : List Char} (h : '%' ∉ cs) :
    percentDecode cs = cs.flatMap String.utf8EncodeChar := by
  induction cs with
  | nil => rfl
  | cons c cs ih =>
    have hc : c ≠ '%' := fun hc ↦ h (by simp [hc])
    rw [percentDecode.eq_def]
    split <;> simp_all

end TracedFibonacci.Text
