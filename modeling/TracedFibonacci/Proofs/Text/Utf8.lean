import TracedFibonacci.Text.Utf8
import Mathlib.Data.List.Basic

/-!
# UTF-8 against its encoding

`Utf8.decode` reads a byte string from the front and says where it goes wrong. Here it is measured
against the other direction, the bytes that a text is encoded as: it succeeds on those bytes and on
no others, and gives back the text they came from (`decode_eq_ok_iff`).

## What each direction rests on

* `front_encodeChar` says that the bytes of one scalar value are taken whole, whatever follows
  them. The tests of `Utf8.front` on the leading byte are the bounds of the four lengths, so this
  is arithmetic on the value.
* `encodeChar_of_front` says that nothing else is taken for a scalar value. This is where the
  narrower range of some second bytes is needed: it keeps the value in the range of its length, and
  out of the surrogates.
-/

namespace TracedFibonacci.Text.Utf8

/-- The bytes of a text. -/
def encode (s : String) : List UInt8 := s.toList.flatMap String.utf8EncodeChar

/-! ### The tests of a byte, as bounds on its value -/

theorem isTrail_iff {b : UInt8} : isTrail b = true ↔ 0x80 ≤ b.toNat ∧ b.toNat ≤ 0xBF := by
  simp [isTrail, UInt8.le_iff_toNat_le]

theorem isSecond_iff {a b : UInt8} :
    isSecond a b = true ↔ 0x80 ≤ b.toNat ∧ b.toNat ≤ 0xBF ∧
      (a.toNat = 0xE0 → 0xA0 ≤ b.toNat) ∧ (a.toNat = 0xED → b.toNat ≤ 0x9F) ∧
      (a.toNat = 0xF0 → 0x90 ≤ b.toNat) ∧ (a.toNat = 0xF4 → b.toNat ≤ 0x8F) := by
  rw [isSecond]
  simp only [beq_iff_eq, ← UInt8.toNat_inj, UInt8.reduceToNat]
  split
  · simp only [Bool.and_eq_true, decide_eq_true_eq, UInt8.le_iff_toNat_le, UInt8.reduceToNat]
    omega
  split
  · simp only [Bool.and_eq_true, decide_eq_true_eq, UInt8.le_iff_toNat_le, UInt8.reduceToNat]
    omega
  split
  · simp only [Bool.and_eq_true, decide_eq_true_eq, UInt8.le_iff_toNat_le, UInt8.reduceToNat]
    omega
  split
  · simp only [Bool.and_eq_true, decide_eq_true_eq, UInt8.le_iff_toNat_le, UInt8.reduceToNat]
    omega
  · rw [isTrail_iff]
    omega

/-- What stands at the front of a byte string when it is a scalar value: one of four lengths. -/
inductive ScalarAt : UInt8 → List UInt8 → Char → List UInt8 → Prop where
  | one {a rest} (ha : a.toNat < 0x80) : ScalarAt a rest (Char.ofNat a.toNat) rest
  | two {a b rest} (ha : 0xC2 ≤ a.toNat) (ha' : a.toNat < 0xE0) (hb : isTrail b = true) :
    ScalarAt a (b :: rest) (Char.ofNat (a.toNat % 32 * 64 + payload b)) rest
  | three {a b c rest} (ha : 0xE0 ≤ a.toNat) (ha' : a.toNat < 0xF0) (hb : isSecond a b = true)
    (hc : isTrail c = true) :
    ScalarAt a (b :: c :: rest)
      (Char.ofNat ((a.toNat % 16 * 64 + payload b) * 64 + payload c)) rest
  | four {a b c d rest} (ha : 0xF0 ≤ a.toNat) (ha' : a.toNat < 0xF5) (hb : isSecond a b = true)
    (hc : isTrail c = true) (hd : isTrail d = true) :
    ScalarAt a (b :: c :: d :: rest)
      (Char.ofNat (((a.toNat % 8 * 64 + payload b) * 64 + payload c) * 64 + payload d)) rest

theorem scalarAt_of_front {a : UInt8} {bs rest : List UInt8} {c : Char}
    (h : front a bs = .scalar c rest) : ScalarAt a bs c rest := by
  unfold front at h
  simp only [UInt8.lt_iff_toNat_lt] at h
  split at h
  · next ha =>
    injection h with h₁ h₂
    subst h₁ h₂
    exact .one ha
  split at h
  · contradiction
  split at h
  · next ha ha' =>
    split at h
    · contradiction
    split at h
    · next hb =>
      injection h with h₁ h₂
      subst h₁ h₂
      exact .two (by simpa using ha) ha' hb
    · contradiction
  split at h
  · next ha ha' =>
    split at h
    · contradiction
    split at h
    · contradiction
    split at h
    · contradiction
    split at h
    · injection h with h₁ h₂
      subst h₁ h₂
      exact .three (by simpa using ha) ha' (by simp_all) (by assumption)
    · contradiction
  split at h
  · next ha ha' =>
    split at h
    · contradiction
    split at h
    · contradiction
    split at h
    · contradiction
    split at h
    · contradiction
    split at h
    · contradiction
    split at h
    · injection h with h₁ h₂
      subst h₁ h₂
      exact .four (by simpa using ha) ha' (by simp_all) (by simp_all) (by assumption)
    · contradiction
  · contradiction

theorem front_of_scalarAt {a : UInt8} {bs rest : List UInt8} {c : Char}
    (h : ScalarAt a bs c rest) : front a bs = .scalar c rest := by
  unfold front
  simp only [UInt8.lt_iff_toNat_lt]
  cases h with
  | one ha => rw [if_pos (by simpa using ha)]
  | two ha ha' hb =>
    rw [if_neg (by simp; omega), if_neg (by simp; omega), if_pos (by simpa using ha')]
    simp [hb]
  | three ha ha' hb hc =>
    rw [if_neg (by simp; omega), if_neg (by simp; omega), if_neg (by simp; omega),
      if_pos (by simpa using ha')]
    simp [hb, hc]
  | four ha ha' hb hc hd =>
    rw [if_neg (by simp; omega), if_neg (by simp; omega), if_neg (by simp; omega),
      if_neg (by simp; omega), if_pos (by simpa using ha')]
    simp [hb, hc, hd]

/-! ### One scalar value -/

theorem val_ofNat {v : Nat} (h : v.isValidChar) : (Char.ofNat v).val.toNat = v := by
  rw [Char.ofNat, dif_pos h]
  rfl

/-- The bytes of a scalar value stand at the front of any byte string that begins with them. -/
theorem front_encodeChar (c : Char) (rest : List UInt8) :
    ∃ a bs, String.utf8EncodeChar c ++ rest = a :: bs ∧ front a bs = .scalar c rest := by
  have hv : c.val.toNat < 0xD800 ∨ 0xDFFF < c.val.toNat ∧ c.val.toNat < 0x110000 := c.valid
  have hc : ∀ v, v = c.val.toNat → Char.ofNat v = c := by
    rintro v rfl
    exact Char.ofNat_toNat c
  have hbyte : ∀ n, n < 256 → (UInt8.ofNat n).toNat = n := fun n ↦ UInt8.toNat_ofNat_of_lt'
  unfold String.utf8EncodeChar
  generalize c.val.toNat = v at hv hc
  dsimp only
  split
  · have ha := hbyte v (by omega)
    refine ⟨_, _, rfl, front_of_scalarAt ?_⟩
    rw [← hc _ ha]
    exact .one (by omega)
  split
  · have ha := hbyte (v / 64 % 32 + 0xC0) (by omega)
    have hb := hbyte (v % 64 + 0x80) (by omega)
    refine ⟨_, _, rfl, front_of_scalarAt ?_⟩
    rw [← hc ((UInt8.ofNat (v / 64 % 32 + 0xC0)).toNat % 32 * 64 +
      payload (UInt8.ofNat (v % 64 + 0x80))) (by rw [ha, payload, hb]; omega)]
    exact .two (by omega) (by omega) (isTrail_iff.2 (by omega))
  split
  · have ha := hbyte (v / 4096 % 16 + 0xE0) (by omega)
    have hb := hbyte (v / 64 % 64 + 0x80) (by omega)
    have hd := hbyte (v % 64 + 0x80) (by omega)
    refine ⟨_, _, rfl, front_of_scalarAt ?_⟩
    rw [← hc (((UInt8.ofNat (v / 4096 % 16 + 0xE0)).toNat % 16 * 64 +
      payload (UInt8.ofNat (v / 64 % 64 + 0x80))) * 64 + payload (UInt8.ofNat (v % 64 + 0x80)))
      (by rw [ha, payload, payload, hb, hd]; omega)]
    exact .three (by omega) (by omega) (isSecond_iff.2 (by omega)) (isTrail_iff.2 (by omega))
  · have ha := hbyte (v / 262144 % 8 + 0xF0) (by omega)
    have hb := hbyte (v / 4096 % 64 + 0x80) (by omega)
    have hd := hbyte (v / 64 % 64 + 0x80) (by omega)
    have he := hbyte (v % 64 + 0x80) (by omega)
    refine ⟨_, _, rfl, front_of_scalarAt ?_⟩
    rw [← hc ((((UInt8.ofNat (v / 262144 % 8 + 0xF0)).toNat % 8 * 64 +
      payload (UInt8.ofNat (v / 4096 % 64 + 0x80))) * 64 +
      payload (UInt8.ofNat (v / 64 % 64 + 0x80))) * 64 + payload (UInt8.ofNat (v % 64 + 0x80)))
      (by rw [ha, payload, payload, payload, hb, hd, he]; omega)]
    exact .four (by omega) (by omega) (isSecond_iff.2 (by omega)) (isTrail_iff.2 (by omega))
      (isTrail_iff.2 (by omega))

/-- A byte is known by its value. -/
theorem ofNat_eq_of_toNat {n : Nat} {b : UInt8} (h : n = b.toNat) : UInt8.ofNat n = b := by
  rw [h, UInt8.ofNat_toNat]

/-- Whatever is taken for a scalar value is its bytes. -/
theorem encodeChar_of_front {a : UInt8} {bs rest : List UInt8} {c : Char}
    (h : front a bs = .scalar c rest) : String.utf8EncodeChar c ++ rest = a :: bs := by
  unfold String.utf8EncodeChar
  cases scalarAt_of_front h with
  | one ha =>
    rw [val_ofNat (by omega)]
    simp only [if_pos (show a.toNat ≤ 0x7F by omega), UInt8.ofNat_toNat]
    rfl
  | @two b _ ha ha' hb =>
    have hb := isTrail_iff.1 hb
    rw [val_ofNat (by rw [payload]; omega)]
    dsimp only [payload]
    rw [if_neg (by omega), if_pos (by omega), ofNat_eq_of_toNat (b := a) (by omega),
      ofNat_eq_of_toNat (b := b) (by omega)]
    rfl
  | @three b d _ ha ha' hb hd =>
    have hb := isSecond_iff.1 hb
    have hd := isTrail_iff.1 hd
    rw [val_ofNat (by rw [payload, payload]; omega)]
    dsimp only [payload]
    rw [if_neg (by omega), if_neg (by omega), if_pos (by omega),
      ofNat_eq_of_toNat (b := a) (by omega), ofNat_eq_of_toNat (b := b) (by omega),
      ofNat_eq_of_toNat (b := d) (by omega)]
    rfl
  | @four b d e _ ha ha' hb hd he =>
    have hb := isSecond_iff.1 hb
    have hd := isTrail_iff.1 hd
    have he := isTrail_iff.1 he
    rw [val_ofNat (by rw [payload, payload, payload]; omega)]
    dsimp only [payload]
    rw [if_neg (by omega), if_neg (by omega), if_neg (by omega),
      ofNat_eq_of_toNat (b := a) (by omega), ofNat_eq_of_toNat (b := b) (by omega),
      ofNat_eq_of_toNat (b := d) (by omega), ofNat_eq_of_toNat (b := e) (by omega)]
    rfl

/-! ### A whole text -/

theorem decodeFrom_flatMap (index : Nat) (cs : List Char) :
    decodeFrom index (cs.flatMap String.utf8EncodeChar) = .ok cs := by
  induction cs generalizing index with
  | nil => simp [decodeFrom]
  | cons c cs ih =>
    obtain ⟨a, bs, hbs, hfront⟩ := front_encodeChar c (cs.flatMap String.utf8EncodeChar)
    rw [List.flatMap_cons, hbs, decodeFrom]
    split
    · next c' rest h =>
      rw [hfront] at h
      injection h with h₁ h₂
      subst h₁ h₂
      rw [ih]
    · next h => simp [hfront] at h
    · next h => simp [hfront] at h

theorem flatMap_of_decodeFrom {index : Nat} {bs : List UInt8} {cs : List Char}
    (h : decodeFrom index bs = .ok cs) : cs.flatMap String.utf8EncodeChar = bs := by
  fun_induction decodeFrom index bs generalizing cs with
  | case1 =>
    cases h
    rfl
  | case2 index a bs c rest hfront _ cs' hrest ih =>
    cases h
    rw [List.flatMap_cons, ih hrest, encodeChar_of_front hfront]
  | case3 | case4 | case5 => simp at h

/-- **Decoding is exact.** A byte string decodes to a text just when it is that text's bytes. -/
theorem decode_eq_ok_iff {bs : List UInt8} {s : String} : decode bs = .ok s ↔ encode s = bs := by
  constructor
  · intro h
    obtain ⟨cs, hcs, rfl⟩ : ∃ cs, decodeFrom 0 bs = .ok cs ∧ String.ofList cs = s := by
      rw [decode] at h
      cases hd : decodeFrom 0 bs with
      | error f => simp [hd, Except.map] at h
      | ok cs => exact ⟨cs, rfl, by simpa [hd, Except.map] using h⟩
    rw [encode, String.toList_ofList]
    exact flatMap_of_decodeFrom hcs
  · rintro rfl
    rw [decode, encode, decodeFrom_flatMap, Except.map, String.ofList_toList]

theorem decode_encode (s : String) : decode (encode s) = .ok s := decode_eq_ok_iff.2 rfl

/-- A byte string that is no text's bytes has a fault. -/
theorem exists_fault_of_forall {bs : List UInt8} (h : ∀ s, encode s ≠ bs) :
    ∃ f, decode bs = .error f := by
  cases hd : decode bs with
  | error f => exact ⟨f, rfl⟩
  | ok s => exact absurd (decode_eq_ok_iff.1 hd) (h s)

end TracedFibonacci.Text.Utf8
