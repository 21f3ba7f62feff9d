import TracedFibonacci.Proofs.Request.Splitting
import Mathlib.Data.Nat.Digits.Defs

/-!
# The value of a line

A line is a request when it is a row of digits with a newline, and at most one carriage return
before that; and then it has a value. What makes a line a request is seen on its bytes
(`value?_eq_some_iff`), so it can be asked of the tail of a line as well as of the line.

A tail of digits is a line of its own, and that is the danger in losing the beginning of a line.
`value?_append_iff` says when nothing comes of it: the value of the tail is that of the line exactly
when what was lost is leading zeros.
-/

namespace TracedFibonacci.Request

open Text Source

/-- The number that a line asks for, if it is a request. -/
def value? (p : List UInt8) : Option UInt64 := (Reader.receive 0 p).1.toOption

/-- The values of the pieces before the first that is no request. -/
def accepted : List (List UInt8) → List UInt64
  | [] => []
  | p :: ps =>
    match value? p with
    | some n => n :: accepted ps
    | none => []

/-- The zero. -/
def zero : UInt8 := 48

/-- The byte of an ASCII digit. -/
def IsDigit (b : UInt8) : Prop := 48 ≤ b.toNat ∧ b.toNat ≤ 57

/-- The value of a row of digits. -/
def rowValue (ds : List UInt8) : Nat := Numeral.ofDigits 10 (ds.map fun b ↦ b.toNat - 48)

/-- What may end a line behind its digits. -/
def IsLineEnd (bs : List UInt8) : Prop := bs = [newline] ∨ bs = [13, newline]

/-! ### The value of a row of digits -/

theorem ofDigits_eq (base : Nat) (ds : List Nat) :
    Numeral.ofDigits base ds = Nat.ofDigits base ds.reverse := by
  induction ds using List.reverseRecOn with
  | nil => rfl
  | append_singleton ds d ih =>
    rw [Numeral.ofDigits_append_singleton, ih, List.reverse_append, List.reverse_singleton,
      List.singleton_append, Nat.ofDigits_cons, Nat.mul_comm, Nat.add_comm]

theorem rowValue_append (as bs : List UInt8) :
    rowValue (as ++ bs) = rowValue bs + 10 ^ bs.length * rowValue as := by
  rw [rowValue, rowValue, rowValue, ofDigits_eq, ofDigits_eq, ofDigits_eq, List.map_append,
    List.reverse_append, Nat.ofDigits_append, List.length_reverse, List.length_map]

/-- Only zeros have the value zero. -/
theorem rowValue_eq_zero_iff {ds : List UInt8} (hds : ∀ b ∈ ds, IsDigit b) :
    rowValue ds = 0 ↔ ∀ b ∈ ds, b = zero := by
  refine ⟨fun h b hb ↦ ?_, fun h ↦ ?_⟩
  · rw [rowValue, ofDigits_eq] at h
    have := Nat.digits_zero_of_eq_zero (by decide) h (b.toNat - 48)
      (List.mem_reverse.2 (List.mem_map_of_mem hb))
    have hb48 : b.toNat = 48 := by
      have := (hds b hb).1
      omega
    exact UInt8.toNat_inj.1 hb48
  · induction ds with
    | nil => rfl
    | cons b ds ih =>
      rw [show b :: ds = [b] ++ ds from rfl, rowValue_append,
        ih (fun c hc ↦ hds c (.tail _ hc)) (fun c hc ↦ h c (.tail _ hc)), h b (.head _)]
      rfl

/-! ### A request in its characters -/

theorem dropEnd?_eq_some_iff {c : Char} {cs ds : List Char} :
    dropEnd? c cs = some ds ↔ cs = ds ++ [c] := by
  rw [dropEnd?]
  refine ⟨fun h ↦ ?_, ?_⟩
  · split at h
    · next hl =>
      obtain ⟨ys, rfl⟩ := List.getLast?_eq_some_iff.1 hl
      simpa using h
    · contradiction
  · rintro rfl
    simp

theorem dropEnd?_eq_none_iff {c : Char} {cs : List Char} :
    dropEnd? c cs = none ↔ cs.getLast? ≠ some c := by
  simp [dropEnd?]

theorem isDigit_iff {c : Char} : isDigit c = true ↔ 48 ≤ c.toNat ∧ c.toNat ≤ 57 := by
  simp [isDigit]

/-- What remains of a line without its newline and without one carriage return before that. -/
def IsToken (cs token : List Char) : Prop :=
  cs = token ++ ['\r', '\n'] ∨ cs = token ++ ['\n'] ∧ token.getLast? ≠ some '\r'

theorem token?_eq_some_iff {cs token : List Char} : token? cs = some token ↔ IsToken cs token := by
  constructor
  · intro h
    rw [token?, Option.map_eq_some_iff] at h
    obtain ⟨body, hbody, htoken⟩ := h
    rw [dropEnd?_eq_some_iff] at hbody
    cases hr : dropEnd? '\r' body with
    | none =>
      rw [hr, Option.getD_none] at htoken
      subst htoken
      exact .inr ⟨hbody, dropEnd?_eq_none_iff.1 hr⟩
    | some rest =>
      rw [hr, Option.getD_some] at htoken
      subst htoken
      exact .inl (by simp [hbody, dropEnd?_eq_some_iff.1 hr])
  · rintro (rfl | ⟨rfl, hlast⟩)
    · rw [token?, show token ++ ['\r', '\n'] = token ++ ['\r'] ++ ['\n'] by simp,
        dropEnd?_eq_some_iff.2 rfl, Option.map_some, dropEnd?_eq_some_iff.2 rfl, Option.getD_some]
    · rw [token?, dropEnd?_eq_some_iff.2 rfl, Option.map_some, dropEnd?_eq_none_iff.2 hlast,
        Option.getD_none]

/-- A row of digits is the token of its line. -/
theorem isToken_of_digits {cs ds : List Char} (hds : ∀ c ∈ ds, isDigit c = true)
    (h : cs = ds ++ ['\n'] ∨ cs = ds ++ ['\r', '\n']) : IsToken cs ds := by
  have hlast : ds.getLast? ≠ some '\r' := fun hlast ↦
    absurd (hds '\r' (List.mem_of_getLast? hlast)) (by decide)
  exact (h.imp_left fun h ↦ ⟨h, hlast⟩).symm

theorem parse_eq_ok_iff {line : Nat} {raw : String} {n : UInt64} :
    parse line raw = .ok n ↔ ∃ ds, ds ≠ [] ∧ (∀ c ∈ ds, isDigit c = true) ∧
      (raw.toList = ds ++ ['\n'] ∨ raw.toList = ds ++ ['\r', '\n']) ∧
      digitsValue ds < UInt64.size ∧ n = UInt64.ofNat (digitsValue ds) := by
  rw [parse]
  refine ⟨fun h ↦ ?_, ?_⟩
  · split at h
    · contradiction
    · next ds hds =>
      split at h
      · contradiction
      · next hdig =>
        split at h
        · next hlt =>
          simp only [Bool.or_eq_true, List.isEmpty_iff, Bool.not_eq_true', not_or,
            Bool.not_eq_false, List.all_eq_true] at hdig
          exact ⟨ds, hdig.1, hdig.2, (token?_eq_some_iff.1 hds).symm.imp_left And.left, hlt,
            by simpa using h.symm⟩
        · contradiction
  · rintro ⟨ds, hne, hds, hraw, hlt, rfl⟩
    have htok : token? raw.toList = some ds := token?_eq_some_iff.2 (isToken_of_digits hds hraw)
    have hall : ds.all isDigit = true := List.all_eq_true.2 hds
    have hemp : ds.isEmpty = false := by simpa using hne
    simp only [htok, hall, hemp, hlt]
    rfl

/-! ### Characters and bytes -/

/-- An ASCII character is one byte. -/
theorem encodeChar_of_lt {c : Char} (h : c.toNat < 128) :
    String.utf8EncodeChar c = [UInt8.ofNat c.toNat] := by
  have h1 : c.utf8Size = 1 := by
    rw [Char.utf8Size_eq_one_iff, UInt32.le_iff_toNat_le]
    exact Nat.le_of_lt_succ h
  rw [String.utf8EncodeChar_eq_singleton h1]
  rfl

theorem flatMap_encodeChar {cs : List Char} (h : ∀ c ∈ cs, c.toNat < 128) :
    cs.flatMap String.utf8EncodeChar = cs.map fun c ↦ UInt8.ofNat c.toNat := by
  induction cs with
  | nil => rfl
  | cons c cs ih =>
    rw [List.flatMap_cons, ih fun d hd ↦ h d (.tail _ hd), encodeChar_of_lt (h c (.head _))]
    rfl

/-- The character of an ASCII byte. -/
def charOf (b : UInt8) : Char := Char.ofNat b.toNat

/-- The byte of an ASCII character. -/
def byteOf (c : Char) : UInt8 := UInt8.ofNat c.toNat

theorem toNat_charOf (b : UInt8) : (charOf b).toNat = b.toNat := by
  have hb := b.toNat_lt
  exact Utf8.val_ofNat (.inl (by omega))

theorem toNat_byteOf {c : Char} (h : c.toNat < 128) : (byteOf c).toNat = c.toNat :=
  UInt8.toNat_ofNat_of_lt' (by show _ < 256; omega)

@[simp] theorem byteOf_charOf (b : UInt8) : byteOf (charOf b) = b := by
  rw [byteOf, toNat_charOf, UInt8.ofNat_toNat]

/-- A digit is the same in its character and in its byte. -/
theorem isDigit_byteOf {c : Char} (h : isDigit c = true) : IsDigit (byteOf c) := by
  rw [isDigit_iff] at h
  rwa [IsDigit, toNat_byteOf (by omega)]

theorem isDigit_charOf {b : UInt8} (h : IsDigit b) : isDigit (charOf b) = true := by
  rwa [isDigit_iff, toNat_charOf]

theorem lt_of_isDigit {c : Char} (h : isDigit c = true) : c.toNat < 128 := by
  have := isDigit_iff.1 h
  omega

/-- A row of digits has the same value in its characters and in its bytes. -/
theorem rowValue_map {cs : List Char} (h : ∀ c ∈ cs, isDigit c = true) :
    rowValue (cs.map byteOf) = digitsValue cs := by
  rw [rowValue, digitsValue, List.map_map]
  congr 1
  refine List.map_congr_left fun c hc ↦ ?_
  show (byteOf c).toNat - 48 = c.toNat - 48
  rw [toNat_byteOf (lt_of_isDigit (h c hc))]

theorem encode_row {cs : List Char} (h : ∀ c ∈ cs, isDigit c = true) (e : List Char) :
    Utf8.encode (String.ofList (cs ++ e)) =
      cs.map byteOf ++ e.flatMap String.utf8EncodeChar := by
  rw [Utf8.encode, String.toList_ofList, List.flatMap_append,
    flatMap_encodeChar fun c hc ↦ lt_of_isDigit (h c hc)]
  rfl

/-! ### A request in its bytes -/

theorem receive_eq_ok_iff {lines : Nat} {p : List UInt8} {n : UInt64} :
    (Reader.receive lines p).1 = .ok n ↔
      p ≠ [] ∧ ∃ raw, Utf8.encode raw = p ∧ parse (lines + 1) raw = .ok n := by
  rcases eq_or_ne p [] with rfl | hp
  · simp [Reader.receive]
  · have hr := replies_receive lines hp
    constructor
    · intro h
      refine ⟨hp, ?_⟩
      generalize Reader.receive lines p = x at h hr
      cases hr with
      | unreadable => contradiction
      | line raw => exact ⟨raw, rfl, h⟩
    · rintro ⟨-, raw, rfl, h⟩
      rw [receive_encode hp, h]

/-- A byte string that is a line of digits with the given value. -/
structure IsRow (p ds e : List UInt8) (n : UInt64) : Prop where
  /-- There is a digit. -/
  ne_nil : ds ≠ []
  /-- They are all digits. -/
  digits : ∀ b ∈ ds, IsDigit b
  /-- Behind them the line ends. -/
  lineEnd : IsLineEnd e
  /-- There is nothing else. -/
  eq_append : p = ds ++ e
  /-- The value fits a word. -/
  lt : rowValue ds < UInt64.size
  /-- It is the given one. -/
  value : n = UInt64.ofNat (rowValue ds)

/-- **A request in its bytes** is digits and the end of a line; its number plays no part. -/
theorem receive_eq_ok_iff_row (lines : Nat) {p : List UInt8} {n : UInt64} :
    (Reader.receive lines p).1 = .ok n ↔ ∃ ds e, IsRow p ds e n := by
  rw [receive_eq_ok_iff]
  constructor
  · rintro ⟨-, raw, rfl, h⟩
    obtain ⟨cs, hne, hcs, hraw, hlt, rfl⟩ := parse_eq_ok_iff.1 h
    have hrow : ∀ e : List Char, raw.toList = cs ++ e →
        IsLineEnd (e.flatMap String.utf8EncodeChar) → ∃ ds e',
          IsRow (Utf8.encode raw) ds e' (UInt64.ofNat (digitsValue cs)) := fun e he hend ↦ by
      refine ⟨cs.map byteOf, e.flatMap String.utf8EncodeChar, by simpa using hne, ?_, hend, ?_, ?_,
        ?_⟩
      · intro b hb
        obtain ⟨c, hc, rfl⟩ := List.mem_map.1 hb
        exact isDigit_byteOf (hcs c hc)
      · rw [← encode_row hcs, ← he, String.ofList_toList]
      · rwa [rowValue_map hcs]
      · rw [rowValue_map hcs]
    rcases hraw with hraw | hraw
    · exact hrow ['\n'] hraw (.inl rfl)
    · exact hrow ['\r', '\n'] hraw (.inr rfl)
  · rintro ⟨ds, e, hne, hds, he, rfl, hlt, rfl⟩
    have hcs : ∀ c ∈ ds.map charOf, isDigit c = true := fun c hc ↦ by
      obtain ⟨b, hb, rfl⟩ := List.mem_map.1 hc
      exact isDigit_charOf (hds b hb)
    have hmap : (ds.map charOf).map byteOf = ds := by
      rw [List.map_map]
      exact List.map_id'' byteOf_charOf ds
    have hval : digitsValue (ds.map charOf) = rowValue ds := by rw [← rowValue_map hcs, hmap]
    rw [← hval] at hlt ⊢
    refine ⟨by simp [hne], ?_⟩
    rcases he with rfl | rfl
    · refine ⟨String.ofList (ds.map charOf ++ ['\n']), ?_, parse_eq_ok_iff.2
        ⟨_, by simpa using hne, hcs, .inl String.toList_ofList, hlt, rfl⟩⟩
      rw [encode_row hcs, hmap]
      rfl
    · refine ⟨String.ofList (ds.map charOf ++ ['\r', '\n']), ?_, parse_eq_ok_iff.2
        ⟨_, by simpa using hne, hcs, .inr String.toList_ofList, hlt, rfl⟩⟩
      rw [encode_row hcs, hmap]
      rfl

theorem value?_eq_some_iff {p : List UInt8} {n : UInt64} :
    value? p = some n ↔ ∃ ds e, IsRow p ds e n := by
  rw [← receive_eq_ok_iff_row 0, value?]
  cases (Reader.receive 0 p).1 <;> simp [Except.toOption]

/-- What a piece comes to at any line: its value, or no request. -/
theorem toOption_receive (lines : Nat) (p : List UInt8) :
    (Reader.receive lines p).1.toOption = value? p := by
  refine Option.ext fun n ↦ ?_
  rw [value?_eq_some_iff, ← receive_eq_ok_iff_row lines]
  cases (Reader.receive lines p).1 <;> simp [Except.toOption]

theorem value?_of_receive {lines lines' : Nat} {p : List UInt8} {n : UInt64}
    (h : Reader.receive lines p = (.ok n, lines')) : value? p = some n := by
  rw [← toOption_receive lines, h]
  rfl

/-- A request has a newline. -/
theorem newline_mem_of_value? {p : List UInt8} {n : UInt64} (h : value? p = some n) :
    newline ∈ p := by
  obtain ⟨ds, e, hrow⟩ := value?_eq_some_iff.1 h
  rw [hrow.eq_append]
  rcases hrow.lineEnd with rfl | rfl <;> simp

/-! ### The tail of a line -/

/-- A line that ends in another line of digits ends in the same way. -/
theorem IsRow.lineEnd_eq {p q t ds es d e : List UInt8} {n m : UInt64} (hp : IsRow p ds d n)
    (hq : IsRow q es e m) (h : q = t ++ p) : es = t ++ ds ∧ e = d := by
  rw [hp.eq_append, hq.eq_append] at h
  obtain ⟨xs, x, rfl⟩ := (List.eq_nil_or_concat' ds).resolve_left hp.ne_nil
  have hx : x ≠ 13 := by
    rintro rfl
    exact absurd (hp.digits 13 (by simp)).1 (by decide)
  have hcr : 13 ∉ es := fun hm ↦ absurd (hq.digits 13 hm).1 (by decide)
  rcases hp.lineEnd with rfl | rfl <;> rcases hq.lineEnd with rfl | rfl
  · exact ⟨List.append_cancel_right (h.trans (List.append_assoc ..).symm), rfl⟩
  -- the carriage return would be the last digit of the tail
  · have h' : es ++ [13] = t ++ xs ++ [x] := by
      have : (es ++ [13]) ++ [newline] = (t ++ xs ++ [x]) ++ [newline] := by simpa using h
      exact List.append_cancel_right this
    have := List.append_inj_right' h' rfl
    exact absurd (by simpa using this.symm) hx
  -- or a digit of the whole
  · have h' : es = t ++ (xs ++ [x]) ++ [13] := by
      have : es ++ [newline] = (t ++ (xs ++ [x]) ++ [13]) ++ [newline] := by simpa using h
      exact List.append_cancel_right this
    exact absurd (by simp [h']) hcr
  · exact ⟨List.append_cancel_right (h.trans (List.append_assoc ..).symm), rfl⟩

/-- **The tail of a line has the value of the line exactly when leading zeros are missing.** -/
theorem value?_append_iff {t p : List UInt8} {n : UInt64} (hp : value? p = some n) :
    value? (t ++ p) = some n ↔ ∀ b ∈ t, b = zero := by
  obtain ⟨ds, d, hrow⟩ := value?_eq_some_iff.1 hp
  constructor
  · intro h
    obtain ⟨es, e, hrow'⟩ := value?_eq_some_iff.1 h
    obtain ⟨rfl, -⟩ := hrow.lineEnd_eq hrow' rfl
    have hval : rowValue (t ++ ds) = rowValue ds := by
      have := congrArg UInt64.toNat (hrow'.value.symm.trans hrow.value)
      rwa [UInt64.toNat_ofNat_of_lt' hrow'.lt, UInt64.toNat_ofNat_of_lt' hrow.lt] at this
    rw [rowValue_append] at hval
    have hzero : rowValue t = 0 := by
      have : 10 ^ ds.length * rowValue t = 0 := by omega
      exact (Nat.mul_eq_zero.1 this).resolve_left (by positivity)
    exact (rowValue_eq_zero_iff fun b hb ↦ hrow'.digits b (List.mem_append_left _ hb)).1 hzero
  · intro h
    have hdig : ∀ b ∈ t, IsDigit b := fun b hb ↦ by
      rw [h b hb]
      exact ⟨by decide, by decide⟩
    have hval : rowValue (t ++ ds) = rowValue ds := by
      rw [rowValue_append, (rowValue_eq_zero_iff hdig).2 h, Nat.mul_zero, Nat.add_zero]
    refine value?_eq_some_iff.2 ⟨t ++ ds, d, by simp [hrow.ne_nil], ?_, hrow.lineEnd, ?_, ?_, ?_⟩
    · intro b hb
      rcases List.mem_append.1 hb with hb | hb
      · exact hdig b hb
      · exact hrow.digits b hb
    · rw [hrow.eq_append, List.append_assoc]
    · rw [hval]
      exact hrow.lt
    · rw [hval]
      exact hrow.value

end TracedFibonacci.Request
