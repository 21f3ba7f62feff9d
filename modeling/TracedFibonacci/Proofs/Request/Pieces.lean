import TracedFibonacci.Request.Stream
import Mathlib.Data.List.Count
import Mathlib.Data.List.DropRight

/-!
# Bytes cut into pieces

A byte string is cut after each newline; what is left after the last one is a piece of its own. This
is what a stream comes to when nothing is known of how its bytes arrive, so it is the measure for
everything that reads a stream.

## One cut and all cuts

`cut` takes off the first piece and `pieces` lists them all. The two are joined by
`pieces_of_ne_nil`, so that a reader, which takes one piece at a time, can be followed through the
list. `unfinished` is the other end: the bytes behind the last newline. A byte string with nothing
unfinished is a row of whole lines, and such a row can be cut off in front (`pieces_append`).
-/

namespace TracedFibonacci.Request

open Source (newline splitLine?)

/-- The bytes through the first newline, or all of them, and the bytes after it. -/
def cut : List UInt8 → List UInt8 × List UInt8
  | [] => ([], [])
  | b :: bs => if b = newline then ([b], bs) else (b :: (cut bs).1, (cut bs).2)

/-- The pieces of a byte string, each but the last ended by its only newline. -/
def pieces : List UInt8 → List (List UInt8)
  | [] => []
  | b :: bs =>
    if b = newline then [b] :: pieces bs
    else
      match pieces bs with
      | [] => [[b]]
      | p :: ps => (b :: p) :: ps

/-- The bytes behind the last newline. -/
def unfinished (bs : List UInt8) : List UInt8 := bs.rtakeWhile (· != newline)

/-! ### One cut -/

@[simp] theorem cut_nil : cut [] = ([], []) := rfl

theorem cut_append_cut (bs : List UInt8) : (cut bs).1 ++ (cut bs).2 = bs := by
  induction bs with
  | nil => rfl
  | cons b bs ih =>
    rw [cut]
    split
    · rfl
    · simpa using ih

theorem cut_ne_nil {bs : List UInt8} (h : bs ≠ []) : (cut bs).1 ≠ [] := by
  cases bs with
  | nil => exact absurd rfl h
  | cons b bs =>
    rw [cut]
    split <;> simp

/-- Without a newline there is one piece. -/
theorem cut_of_notMem {bs : List UInt8} (h : newline ∉ bs) : cut bs = (bs, []) := by
  induction bs with
  | nil => rfl
  | cons b bs ih =>
    simp only [List.mem_cons, not_or] at h
    rw [cut, if_neg (Ne.symm h.1), ih h.2]

/-- The beginning of a line belongs to the piece that goes on with it. -/
theorem cut_append_of_notMem {t : List UInt8} (h : newline ∉ t) (bs : List UInt8) :
    cut (t ++ bs) = (t ++ (cut bs).1, (cut bs).2) := by
  induction t with
  | nil => rfl
  | cons b t ih =>
    simp only [List.mem_cons, not_or] at h
    rw [List.cons_append, cut, if_neg (Ne.symm h.1), ih h.2, List.cons_append]

/-- What follows a whole line does not change it. -/
theorem cut_append_of_mem {bs : List UInt8} (h : newline ∈ bs) (rest : List UInt8) :
    cut (bs ++ rest) = ((cut bs).1, (cut bs).2 ++ rest) := by
  induction bs with
  | nil => simp at h
  | cons b bs ih =>
    rw [List.cons_append, cut, cut]
    split
    · rfl
    · next hb =>
      have : newline ∈ bs := (List.mem_cons.1 h).resolve_left (Ne.symm hb)
      rw [ih this]

theorem newline_mem_cut_iff {bs : List UInt8} : newline ∈ (cut bs).1 ↔ newline ∈ bs := by
  refine ⟨fun h ↦ ?_, fun h ↦ ?_⟩
  · rw [← cut_append_cut bs]
    exact List.mem_append_left _ h
  · by_contra hn
    induction bs with
    | nil => simp at h
    | cons b bs ih =>
      rw [cut] at hn
      split at hn
      · next hb => simp [hb] at hn
      · next hb =>
        simp only [List.mem_cons, not_or] at hn
        exact ih ((List.mem_cons.1 h).resolve_left (Ne.symm hb)) hn.2

/-- A reader that looks for a newline in its buffer takes the first piece, if that is a line. -/
theorem splitLine?_eq (bs : List UInt8) :
    splitLine? bs = if newline ∈ bs then some (cut bs) else none := by
  induction bs with
  | nil => rfl
  | cons b bs ih =>
    by_cases hb : b = newline
    · simp [splitLine?, cut, hb]
    · have hs : splitLine? (b :: bs) = (splitLine? bs).map fun p ↦ (b :: p.1, p.2) := by
        simp only [splitLine?, List.dropWhile_cons, bne_iff_ne, ne_eq, hb, not_false_eq_true,
          if_true, List.takeWhile_cons]
        split <;> simp_all
      rw [hs, ih, cut, if_neg hb]
      simp only [List.mem_cons, Ne.symm hb, false_or]
      split <;> rfl

theorem splitLine?_eq_some {bs line rest : List UInt8} (h : splitLine? bs = some (line, rest)) :
    newline ∈ bs ∧ cut bs = (line, rest) := by
  rw [splitLine?_eq] at h
  split at h
  · next hn => exact ⟨hn, by simpa using h⟩
  · contradiction

theorem splitLine?_eq_none {bs : List UInt8} (h : splitLine? bs = none) : newline ∉ bs := by
  rw [splitLine?_eq] at h
  split at h
  · contradiction
  · assumption

/-! ### All cuts -/

@[simp] theorem pieces_nil : pieces [] = [] := rfl

theorem pieces_of_ne_nil {bs : List UInt8} (h : bs ≠ []) :
    pieces bs = (cut bs).1 :: pieces (cut bs).2 := by
  induction bs with
  | nil => exact absurd rfl h
  | cons b bs ih =>
    rw [pieces, cut]
    split
    · rfl
    · rcases eq_or_ne bs [] with rfl | hbs
      · rfl
      · rw [ih hbs]

/-- Induction on a byte string, piece by piece. -/
theorem pieces_induction {P : List UInt8 → Prop} (nil : P [])
    (piece : ∀ bs, bs ≠ [] → P (cut bs).2 → P bs) (bs : List UInt8) : P bs := by
  induction hn : bs.length using Nat.strong_induction_on generalizing bs with
  | _ n ih =>
    rcases eq_or_ne bs [] with rfl | hbs
    · exact nil
    · refine piece bs hbs (ih _ ?_ _ rfl)
      have hlen := congrArg List.length (cut_append_cut bs)
      have hpos := List.length_pos_iff.2 (cut_ne_nil hbs)
      rw [List.length_append] at hlen
      omega

/-- Nothing is lost, repeated or reordered by cutting. -/
theorem flatten_pieces (bs : List UInt8) : (pieces bs).flatten = bs := by
  induction bs using pieces_induction with
  | nil => rfl
  | piece bs hbs ih => rw [pieces_of_ne_nil hbs, List.flatten_cons, ih, cut_append_cut]

theorem ne_nil_of_mem_pieces {bs p : List UInt8} (h : p ∈ pieces bs) : p ≠ [] := by
  induction bs using pieces_induction with
  | nil => simp at h
  | piece bs hbs ih =>
    rw [pieces_of_ne_nil hbs] at h
    rcases List.mem_cons.1 h with rfl | h
    · exact cut_ne_nil hbs
    · exact ih h

/-! ### What is unfinished -/

theorem newline_notMem_unfinished (bs : List UInt8) : newline ∉ unfinished bs := fun h ↦ by
  simpa using List.mem_rtakeWhile_imp h

theorem unfinished_of_notMem {bs : List UInt8} (h : newline ∉ bs) : unfinished bs = bs :=
  List.rtakeWhile_eq_self_iff.2 fun b hb ↦ by
    rw [bne_iff_ne]
    rintro rfl
    exact h hb

/-- Only what is behind a newline counts. -/
theorem unfinished_append_newline (as bs : List UInt8) :
    unfinished (as ++ newline :: bs) = unfinished bs := by
  induction bs using List.reverseRecOn with
  | nil => exact List.rtakeWhile_concat_neg _ _ _ (by simp)
  | append_singleton bs b ih =>
    rw [unfinished, unfinished, ← List.cons_append, ← List.append_assoc, List.rtakeWhile_concat,
      List.rtakeWhile_concat]
    split
    · rw [← unfinished, ← unfinished, ih]
    · rfl

/-- The bytes behind the last newline stand at the end, behind a row of whole lines. -/
theorem exists_whole (bs : List UInt8) :
    ∃ whole, bs = whole ++ unfinished bs ∧ unfinished whole = [] := by
  refine ⟨bs.rdropWhile (· != newline), (List.rdropWhile_append_rtakeWhile ..).symm, ?_⟩
  refine List.rtakeWhile_eq_nil_iff.2 fun hl ↦ ?_
  exact List.rdropWhile_last_not _ _ hl

/-- A row of whole lines in front changes nothing. -/
theorem unfinished_append {whole : List UInt8} (h : unfinished whole = []) (bs : List UInt8) :
    unfinished (whole ++ bs) = unfinished bs := by
  rcases List.eq_nil_or_concat' whole with rfl | ⟨as, b, rfl⟩
  · rfl
  · obtain rfl : b = newline := by
      simpa using List.rtakeWhile_eq_nil_iff.1 h (by simp)
    rw [List.append_assoc, List.singleton_append, unfinished_append_newline]

/-- Whole lines at the end leave nothing unfinished. -/
theorem unfinished_append_whole (bs : List UInt8) {whole : List UInt8} (h : unfinished whole = [])
    (hne : whole ≠ []) : unfinished (bs ++ whole) = [] := by
  obtain ⟨as, b, rfl⟩ := (List.eq_nil_or_concat' whole).resolve_left hne
  obtain rfl : b = newline := by
    simpa using List.rtakeWhile_eq_nil_iff.1 h (by simp)
  rw [← List.append_assoc]
  exact unfinished_append_newline _ []

/-- The first piece of a byte string with a newline is a line. -/
theorem exists_body {bs : List UInt8} (h : newline ∈ bs) :
    ∃ body, newline ∉ body ∧ (cut bs).1 = body ++ [newline] := by
  obtain ⟨body, rest, rfl, hbody⟩ := List.eq_append_cons_of_mem h
  refine ⟨body, hbody, ?_⟩
  rw [cut_append_of_notMem hbody, cut, if_pos rfl]

theorem unfinished_cut {bs : List UInt8} (h : newline ∈ bs) :
    unfinished (cut bs).2 = unfinished bs := by
  obtain ⟨body, -, hcut⟩ := exists_body h
  conv_rhs => rw [← cut_append_cut bs, hcut, List.append_assoc, List.singleton_append]
  rw [unfinished_append_newline]

/-- A row of whole lines has a newline unless it is empty. -/
theorem newline_mem_of_unfinished {bs : List UInt8} (h : unfinished bs = []) (hne : bs ≠ []) :
    newline ∈ bs := by
  by_contra hn
  rw [unfinished_of_notMem hn] at h
  exact hne h

/-- A row of whole lines is cut by itself. -/
theorem pieces_append {whole : List UInt8} (h : unfinished whole = []) (rest : List UInt8) :
    pieces (whole ++ rest) = pieces whole ++ pieces rest := by
  induction whole using pieces_induction with
  | nil => rfl
  | piece bs hbs ih =>
    have hn := newline_mem_of_unfinished h hbs
    rw [pieces_of_ne_nil (show bs ++ rest ≠ [] by simp [hbs]), cut_append_of_mem hn,
      pieces_of_ne_nil hbs, ih (by rw [unfinished_cut hn, h]), List.cons_append]

/-- Whole lines are counted by their newlines. -/
theorem length_pieces {whole : List UInt8} (h : unfinished whole = []) :
    (pieces whole).length = whole.count newline := by
  induction whole using pieces_induction with
  | nil => rfl
  | piece bs hbs ih =>
    have hn := newline_mem_of_unfinished h hbs
    obtain ⟨body, hbody, hcut⟩ := exists_body hn
    rw [pieces_of_ne_nil hbs, List.length_cons, ih (by rw [unfinished_cut hn, h])]
    conv_rhs => rw [← cut_append_cut bs, hcut]
    simp [List.count_eq_zero.2 hbody, Nat.add_comm]

/-- The piece that an unfinished beginning is part of. -/
theorem pieces_append_of_notMem {t bs : List UInt8} (h : newline ∉ t) (hbs : bs ≠ []) :
    pieces (t ++ bs) = (t ++ (cut bs).1) :: pieces (cut bs).2 := by
  rw [pieces_of_ne_nil (by simp [hbs]), cut_append_of_notMem h]

/-- A whole line is one piece. -/
theorem pieces_cut {bs : List UInt8} (h : newline ∈ bs) :
    unfinished (cut bs).1 = [] ∧ pieces (cut bs).1 = [(cut bs).1] := by
  obtain ⟨body, hbody, hcut⟩ := exists_body h
  rw [hcut]
  refine ⟨unfinished_append_newline body [], ?_⟩
  rw [pieces_append_of_notMem hbody (by simp)]
  rfl

/-- A piece that is followed by another one is a line. -/
theorem newline_mem_of_cut_snd {bs : List UInt8} (h : (cut bs).2 ≠ []) : newline ∈ bs := by
  by_contra hn
  rw [cut_of_notMem hn] at h
  exact h rfl

/-- The pieces before a piece are whole lines. -/
theorem unfinished_take_pieces {bs : List UInt8} {i : Nat} (h : i < (pieces bs).length) :
    unfinished ((pieces bs).take i).flatten = [] ∧
      pieces ((pieces bs).take i).flatten = (pieces bs).take i := by
  induction bs using pieces_induction generalizing i with
  | nil => simp at h
  | piece bs hbs ih =>
    rw [pieces_of_ne_nil hbs] at h ⊢
    cases i with
    | zero => exact ⟨rfl, rfl⟩
    | succ i =>
      have hi : i < (pieces (cut bs).2).length := by simpa using h
      have hn : newline ∈ bs := newline_mem_of_cut_snd fun h0 ↦ by simp [h0] at hi
      obtain ⟨hu, hp⟩ := ih hi
      obtain ⟨hline, hone⟩ := pieces_cut hn
      rw [List.take_succ_cons, List.flatten_cons, pieces_append hline, hp, hone,
        unfinished_append hline]
      exact ⟨hu, rfl⟩

/-- The newlines before a piece tell which piece it is. -/
theorem count_newline_take_pieces {bs : List UInt8} {i : Nat} (h : i < (pieces bs).length) :
    ((pieces bs).take i).flatten.count newline = i := by
  obtain ⟨hu, hp⟩ := unfinished_take_pieces h
  rw [← length_pieces hu, hp, List.length_take_of_le (Nat.le_of_lt h)]

end TracedFibonacci.Request
