import TracedFibonacci.Proofs.Text.Percent
import TracedFibonacci.Url.Path
import Mathlib.Data.List.Basic
import Mathlib.Tactic.Common

/-!
# Paths are read back from their texts

What is left to do for a path that was read already? Nothing is left to encode, and no separator
stands inside a segment. The dots take a thought. They are looked for before a segment is encoded,
and a dot may be written with a per cent sign; so encoding might make up a dot that was not there.
It does not, since a dot needs no encoding and what encoding writes are bytes other than a dot's
(`isDots_of_percentEncode`). Drives do not matter any more, as they only keep two dots from going
back.
-/

namespace TracedFibonacci.Url.Path

open Text

/-! ### Segments -/

/-- A segment of a path that was read: it is encoded, holds no separator and is no place before or
where it stands. -/
structure IsSegment (s : List Char) : Prop where
  /-- It is encoded. -/
  encoded : IsEncoded pathReserved s
  /-- It holds no separator. -/
  separator : ∀ c ∈ s, isSeparator c = false
  /-- It is no single dot. -/
  dot : isDots 1 s = false
  /-- It is no pair of dots. -/
  dots : isDots 2 s = false

theorem spared_pathReserved : Spared pathReserved := by decide +kernel

/-- Encoding makes up no dots. -/
theorem isDots_of_percentEncode {n : Nat} {s : List Char}
    (h : isDots n (percentEncode pathReserved s) = true) : isDots n s = true := by
  generalize hout : percentEncode pathReserved s = out at h
  fun_induction isDots n out generalizing s with
  | case1 =>
    obtain rfl := eq_nil_of_percentEncode_eq_nil hout
    rfl
  | case2 n out ih =>
    obtain ⟨s', rfl, hs'⟩ := exists_of_percentEncode_eq_cons (by decide) hout
    exact ih hs' h
  | case3 n out ih =>
    rcases exists_of_percentEncode_eq_percent hout with ⟨s₁, rfl, h₁⟩ | ⟨b, rest, hrest, -⟩
    · obtain ⟨s₂, rfl, h₂⟩ := exists_of_percentEncode_eq_cons (by decide) h₁
      obtain ⟨s₃, rfl, h₃⟩ := exists_of_percentEncode_eq_cons (by decide) h₂
      exact ih h₃ h
    · -- the digits of bytes are capitals
      have hall : ∀ d < 16, 'e' ≠ capitalDigit d := by decide
      injection hrest with _ hrest
      exact absurd (List.cons.inj hrest).1 (hall _ (by omega))
  | case4 n out ih =>
    rcases exists_of_percentEncode_eq_percent hout with ⟨s₁, rfl, h₁⟩ | ⟨b, rest, hrest, hb⟩
    · obtain ⟨s₂, rfl, h₂⟩ := exists_of_percentEncode_eq_cons (by decide) h₁
      obtain ⟨s₃, rfl, h₃⟩ := exists_of_percentEncode_eq_cons (by decide) h₂
      exact ih h₃ h
    · have htwo : ∀ d < 16, '2' = capitalDigit d → d = 2 := by decide
      have hlast : ∀ d < 16, 'E' = capitalDigit d → d = 14 := by decide
      have hlt := b.toNat_lt
      injection hrest with hfirst hrest
      have hhigh := htwo _ (by omega) hfirst
      have hlow := hlast _ (by omega) (List.cons.inj hrest).1
      have hdot : b.toNat = '.'.toNat := by
        rw [show '.'.toNat = 46 from rfl]
        omega
      exact absurd hdot (hb '.' (by decide) (by decide))
  | case5 => contradiction

theorem isSeparator_of_percentEncode {s : List Char} (h : ∀ c ∈ s, isSeparator c = false) :
    ∀ c ∈ percentEncode pathReserved s, isSeparator c = false := by
  intro c hc
  have hdigit : ∀ d < 16, isSeparator (capitalDigit d) = false := by decide
  rcases mem_of_mem_percentEncode hc with hc | rfl | ⟨d, hd, rfl⟩
  · exact h c hc
  · decide
  · exact hdigit d hd

/-- A segment that is no dots is a proper one after encoding it. -/
theorem isSegment_percentEncode {s : List Char} (hsep : ∀ c ∈ s, isSeparator c = false)
    (hdot : ¬isDots 1 s = true) (hdots : ¬isDots 2 s = true) :
    IsSegment (percentEncode pathReserved s) where
  encoded := isEncoded_percentEncode spared_pathReserved s
  separator := isSeparator_of_percentEncode hsep
  dot := Bool.eq_false_iff.2 fun h ↦ hdot (isDots_of_percentEncode h)
  dots := Bool.eq_false_iff.2 fun h ↦ hdots (isDots_of_percentEncode h)

theorem isSegment_nil : IsSegment [] := ⟨isEncoded_nil, by simp, rfl, rfl⟩

/-! ### Reading a path -/

/-- A path in its normal form. -/
def IsNormal (path : Path) : Prop := path ≠ [] ∧ ∀ s ∈ path, IsSegment s

theorem up_subset (before : Path) : up before ⊆ before := by
  cases before with
  | nil => exact List.Subset.refl _
  | cons s before =>
    rw [up]
    split
    · exact List.Subset.refl _
    · exact List.subset_cons_self s before

/-- Dots at the end of a text leave an empty segment behind. -/
theorem isSegment_of_mem_ite {before : Path} (h : ∀ s ∈ before, IsSegment s) {last : Bool} :
    ∀ s ∈ if last then [] :: before else before, IsSegment s := by
  cases last with
  | false => exact h
  | true => exact List.forall_mem_cons.2 ⟨isSegment_nil, h⟩

theorem isNormal_follow {before segments : Path} (hne : before ≠ [] ∨ segments ≠ [])
    (hbefore : ∀ s ∈ before, IsSegment s)
    (hsep : ∀ s ∈ segments, ∀ c ∈ s, isSeparator c = false) :
    (follow before segments).IsNormal := by
  fun_induction follow before segments with
  | case1 before => exact ⟨by simpa using hne, by simpa using hbefore⟩
  | case2 before s rest _ ih =>
    refine ih (by cases rest <;> simp) (isSegment_of_mem_ite ?_) (List.forall_mem_cons.1 hsep).2
    exact fun t ht ↦ hbefore t (up_subset before ht)
  | case3 before s rest _ _ ih =>
    exact ih (by cases rest <;> simp) (isSegment_of_mem_ite hbefore) (List.forall_mem_cons.1 hsep).2
  | case4 before s rest hdots hdot ih =>
    obtain ⟨hs, hrest⟩ := List.forall_mem_cons.1 hsep
    refine ih (.inl (by simp)) (List.forall_mem_cons.2 ⟨?_, hbefore⟩) hrest
    exact isSegment_percentEncode hs hdot hdots

theorem forall_mem_splitOnP {p : Char → Bool} (cs : List Char) :
    ∀ s ∈ cs.splitOnP p, ∀ c ∈ s, p c = false := by
  induction cs with
  | nil => simp
  | cons c cs ih =>
    obtain ⟨t, ts, hts⟩ := List.exists_cons_of_ne_nil (List.splitOnP_ne_nil p cs)
    rw [hts] at ih
    rw [List.splitOnP_cons_eq_if_modifyHead, hts]
    split
    · exact List.forall_mem_cons.2 ⟨by simp, ih⟩
    · next hc =>
      obtain ⟨ht, hts⟩ := List.forall_mem_cons.1 ih
      rw [List.modifyHead_cons]
      exact List.forall_mem_cons.2
        ⟨List.forall_mem_cons.2 ⟨Bool.eq_false_iff.2 hc, ht⟩, hts⟩

/-- **A path that was read is in its normal form.** -/
theorem isNormal_read (cs : List Char) : (Path.read cs).IsNormal :=
  isNormal_follow (.inr (List.splitOnP_ne_nil _ _)) (by simp) (forall_mem_splitOnP _)

/-! ### Reading a path back -/

theorem follow_of_isSegment {path : Path} (h : ∀ s ∈ path, IsSegment s) (before : Path) :
    follow before path = before.reverse ++ path := by
  induction path generalizing before with
  | nil => simp [follow]
  | cons s path ih =>
    obtain ⟨hs, hpath⟩ := List.forall_mem_cons.1 h
    rw [follow, hs.dots, hs.dot, hs.encoded.percentEncode_eq, if_neg Bool.false_ne_true,
      if_neg Bool.false_ne_true, ih hpath]
    simp

theorem write_cons (s : List Char) (path : Path) : write (s :: path) = '/' :: (s ++ write path) :=
  rfl

theorem splitOnP_write {s : List Char} {path : Path} (h : ∀ t ∈ s :: path, IsSegment t) :
    (s ++ write path).splitOnP isSeparator = s :: path := by
  induction path generalizing s with
  | nil =>
    rw [write, List.flatMap_nil, List.append_nil]
    exact List.splitOnP_eq_singleton (h s List.mem_cons_self).separator
  | cons t path ih =>
    obtain ⟨hs, hpath⟩ := List.forall_mem_cons.1 h
    rw [write_cons, List.splitOnP_append_cons_of_forall_mem hs.separator '/' (by decide),
      ih hpath]

/-- **A path in its normal form is read back from its text.** -/
theorem read_write {path : Path} (h : path.IsNormal) : Path.read path.write = path := by
  obtain ⟨s, path, rfl⟩ := List.exists_cons_of_ne_nil h.1
  rw [Path.read, write_cons, List.drop_succ_cons, List.drop_zero, splitOnP_write h.2,
    follow_of_isSegment h.2, List.reverse_nil, List.nil_append]

/-! ### The text of a path -/

theorem write_ne_nil {path : Path} (h : path.IsNormal) : path.write ≠ [] := by
  obtain ⟨s, path, rfl⟩ := List.exists_cons_of_ne_nil h.1
  simp [write_cons]

/-- What stands in a path is a slash, or belongs to a segment. -/
theorem visible_of_mem_write {path : Path} (h : path.IsNormal) {c : Char} (hc : c ∈ path.write) :
    isVisible c = true ∧ c ∉ pathReserved := by
  obtain ⟨s, hs, hc⟩ := List.mem_flatMap.1 hc
  rcases List.mem_cons.1 hc with rfl | hc
  · decide
  · exact (h.2 s hs).encoded c hc

end TracedFibonacci.Url.Path
