import TracedFibonacci.Proofs.Text.Utf8
import TracedFibonacci.Text.Blank
import TracedFibonacci.Text.Percent

/-!
# Encoded text stays as it is

A part of a URL is encoded once, when it is read, and its text is what encoding has left: visible
ASCII without the characters that are reserved in that part (`IsEncoded`). Encoding such a text
again changes nothing. This takes that encoding writes no reserved character itself, neither the per
cent sign nor a digit (`Spared`).

What encoded text begins with is seen on the text it comes from: a character stands there itself, or
it is the per cent sign of a byte that was encoded (`exists_of_percentEncode_eq_percent`). So no dot
that is written with a per cent sign comes from encoding, as long as dots need none.
-/

namespace TracedFibonacci.Text

/-! ### Characters of ASCII -/

/-- What holds of every character of ASCII can be settled by going through them. -/
theorem forall_ascii {p : Char → Prop} (hp : ∀ n < 128, p (Char.ofNat n)) {c : Char}
    (hc : c.toNat < 128) : p c := by
  simpa using hp c.toNat hc

theorem lt_of_isVisible {c : Char} (h : isVisible c = true) : c.toNat < 128 := by
  simp only [isVisible, Bool.and_eq_true, decide_eq_true_eq] at h
  omega

/-- Text that has been encoded. -/
def IsEncoded (reserved cs : List Char) : Prop := ∀ c ∈ cs, isVisible c = true ∧ c ∉ reserved

/-- The characters that encoding writes are not reserved. -/
def Spared (reserved : List Char) : Prop :=
  '%' ∉ reserved ∧ ∀ d < 16, capitalDigit d ∉ reserved

instance (reserved : List Char) : Decidable (Spared reserved) :=
  inferInstanceAs (Decidable (_ ∧ _))

variable {reserved cs : List Char}

theorem isEncoded_nil : IsEncoded reserved [] := by simp [IsEncoded]

/-- **Text is encoded after encoding it.** -/
theorem isEncoded_percentEncode (h : Spared reserved) (cs : List Char) :
    IsEncoded reserved (percentEncode reserved cs) := by
  intro c hc
  refine ⟨visible_of_mem_percentEncode hc, fun hr ↦ notMem_percentEncode hr (fun b hb ↦ ?_) hc⟩
  have hlt := b.toNat_lt
  simp only [percentByte, List.mem_cons, List.not_mem_nil, or_false] at hb
  rcases hb with rfl | rfl | rfl
  · exact h.1 hr
  · exact h.2 _ (by omega) hr
  · exact h.2 _ (by omega) hr

theorem IsEncoded.percentEncode_eq (h : IsEncoded reserved cs) : percentEncode reserved cs = cs :=
  percentEncode_eq_self h

/-- What stands in encoded text stood there before, or is written by encoding. -/
theorem mem_of_mem_percentEncode {c : Char} (h : c ∈ percentEncode reserved cs) :
    c ∈ cs ∨ c = '%' ∨ ∃ d < 16, c = capitalDigit d := by
  obtain ⟨d, hd, hc⟩ := List.mem_flatMap.1 h
  rw [percentChar] at hc
  split at hc
  · exact .inl (List.mem_singleton.1 hc ▸ hd)
  · obtain ⟨b, -, hc⟩ := List.mem_flatMap.1 hc
    have hlt := b.toNat_lt
    simp only [percentByte, List.mem_cons, List.not_mem_nil, or_false] at hc
    rcases hc with rfl | rfl | rfl
    · exact .inr (.inl rfl)
    · exact .inr (.inr ⟨_, by omega, rfl⟩)
    · exact .inr (.inr ⟨_, by omega, rfl⟩)

/-! ### The beginning of encoded text -/

/-- The first byte of a character is its own only in ASCII. -/
theorem toNat_eq_of_encodeChar {c : Char} {b : UInt8} {bs : List UInt8}
    (h : String.utf8EncodeChar c = b :: bs) (hb : b.toNat < 128) : c.toNat = b.toNat := by
  obtain ⟨a, rest, hbytes, hfront⟩ := Utf8.front_encodeChar c []
  rw [h, List.append_nil] at hbytes
  obtain ⟨rfl, -⟩ := List.cons.inj hbytes
  have hlt : b < 0x80 := UInt8.lt_iff_toNat_lt.2 hb
  rw [Utf8.front.eq_def, if_pos hlt] at hfront
  obtain ⟨rfl, -⟩ := Utf8.Front.scalar.inj hfront
  exact Utf8.val_ofNat (.inl (by omega))

/-- A character stands for itself, or its bytes are encoded. Then the first of them is not the byte
of a character that stands for itself. -/
theorem percentChar_cases (reserved : List Char) (c : Char) :
    percentChar reserved c = [c] ∨
      ∃ b rest, percentChar reserved c = percentByte b ++ rest ∧
        ∀ d, isVisible d = true → d ∉ reserved → b.toNat ≠ d.toNat := by
  rw [percentChar]
  split
  · exact .inl rfl
  · next hc =>
    obtain ⟨b, bs, hbytes⟩ := List.exists_cons_of_ne_nil (String.utf8EncodeChar_ne_nil (c := c))
    refine .inr ⟨b, bs.flatMap percentByte, by rw [hbytes, List.flatMap_cons], ?_⟩
    intro d hd hfree hb
    have hlt := lt_of_isVisible hd
    have hsame : c = d := by
      rw [← Char.toNat_inj, toNat_eq_of_encodeChar hbytes (by omega), hb]
    subst hsame
    simp [hd, hfree] at hc

theorem eq_nil_of_percentEncode_eq_nil (h : percentEncode reserved cs = []) : cs = [] := by
  cases cs with
  | nil => rfl
  | cons c cs =>
    rw [percentEncode, List.flatMap_cons] at h
    rcases percentChar_cases reserved c with hc | ⟨b, rest, hc, -⟩ <;> simp [hc, percentByte] at h

theorem exists_of_percentEncode_eq_cons {d : Char} {rest : List Char} (hd : d ≠ '%')
    (h : percentEncode reserved cs = d :: rest) :
    ∃ cs', cs = d :: cs' ∧ percentEncode reserved cs' = rest := by
  cases cs with
  | nil => contradiction
  | cons c cs =>
    rw [percentEncode, List.flatMap_cons] at h
    rcases percentChar_cases reserved c with hc | ⟨b, bs, hc, -⟩
    · rw [hc] at h
      obtain ⟨rfl, hrest⟩ := List.cons.inj h
      exact ⟨cs, rfl, hrest⟩
    · rw [hc] at h
      exact absurd (List.cons.inj h).1.symm hd

theorem exists_of_percentEncode_eq_percent {rest : List Char}
    (h : percentEncode reserved cs = '%' :: rest) :
    (∃ cs', cs = '%' :: cs' ∧ percentEncode reserved cs' = rest) ∨
      ∃ (b : UInt8) (rest' : List Char),
        rest = capitalDigit (b.toNat / 16) :: capitalDigit (b.toNat % 16) :: rest' ∧
        ∀ d, isVisible d = true → d ∉ reserved → b.toNat ≠ d.toNat := by
  cases cs with
  | nil => contradiction
  | cons c cs =>
    rw [percentEncode, List.flatMap_cons] at h
    rcases percentChar_cases reserved c with hc | ⟨b, bs, hc, hb⟩
    · rw [hc] at h
      obtain ⟨rfl, hrest⟩ := List.cons.inj h
      exact .inl ⟨cs, rfl, hrest⟩
    · rw [hc] at h
      exact .inr ⟨b, _, (List.cons.inj h).2.symm, hb⟩

/-! ### Decoding -/

/-- A text without per cent signs is read as it stands. -/
theorem decode_percentDecode (h : '%' ∉ cs) :
    Utf8.decode (percentDecode cs) = .ok (String.ofList cs) := by
  have hbytes : Utf8.encode (String.ofList cs) = cs.flatMap String.utf8EncodeChar := by
    rw [Utf8.encode, String.toList_ofList]
  rw [percentDecode_eq_self h, ← hbytes, Utf8.decode_encode]

end TracedFibonacci.Text
