import TracedFibonacci.Idna.Domain
import Mathlib.Data.List.Basic

/-!
# Domain names in ASCII

A domain name in plain ASCII stands for itself: nothing in it is mapped or composed, and it needs no
encoding. What could still go wrong is its direction, since a single label from right to left
brings demands on all others. No character of ASCII is written from right to left
(`isRightToLeft_of_ascii`), and that is a fact about the table of directions: it is read once, row
by row.
-/

namespace TracedFibonacci.Idna

open Text

/-! ### The direction of ASCII -/

/-- Whether every range of a row begins at `n` or above. -/
def beginsAt (n : Nat) (row : List Char) : Bool :=
  ((row.splitOn ' ').filterMap CodePoints.range?).all (n ≤ ·.1)

theorem all_ofRows (n : Nat) (rows : List String) :
    (CodePoints.ofRows rows).ranges.all (n ≤ ·.1) = rows.all (beginsAt n ·.toList) := by
  simp [CodePoints.ofRows, List.all_flatMap, beginsAt]

namespace Direction

/-- The letters from right to left and what belongs to them lie above ASCII. -/
theorem all_table :
    table.all (fun e ↦ !isRightToLeft e.1 || e.2.ranges.all (0x80 ≤ ·.1)) = true := by
  simp only [table, all_ofRows, List.all_cons, List.all_nil, isRightToLeft]
  -- a row is taken for its characters, which the kernel reads faster than a text
  repeat rw [String.toList_ofList]
  decide +kernel

theorem isRightToLeft_of_ascii {c : Char} (h : c.toNat < 0x80) : (of c).isRightToLeft = false := by
  have htable := List.all_eq_true.1 all_table
  -- opened as a function, since opened at a character the kernel would compute the table
  generalize hof : of = direction
  delta of at hof
  subst hof
  beta_reduce
  generalize table = entries at htable
  cases hfound : entries.find? (·.2.contains c) with
  | none => rfl
  | some e =>
    have hentry := htable e (List.mem_of_find?_eq_some hfound)
    rw [Bool.or_eq_true, Bool.not_eq_true'] at hentry
    refine hentry.resolve_right fun hranges ↦ ?_
    have hin := List.find?_some hfound
    rw [CodePoints.contains, Array.any_eq_true'] at hin
    obtain ⟨r, hr, hin⟩ := hin
    have hfirst := Array.all_eq_true'.1 hranges r hr
    simp only [Bool.and_eq_true, decide_eq_true_eq] at hin hfirst
    omega

end Direction

/-! ### Labels in ASCII -/

/-- The characters of domain names in ASCII, and of them alone. -/
def IsPlainAscii (c : Char) : Prop :=
  c.toNat < 0x80 ∧ lower c = c ∧ isDenied c = false

theorem fitLabel?_of_plain {label : List Char} (h : ∀ c ∈ label, IsPlainAscii c ∧ c ≠ '.')
    (hmark : isMarked label = false) : fitLabel? label = some label := by
  have hall : label.all (fun c ↦ Punycode.isAscii c && lower c == c && c != '.' && !isDenied c) =
      true := by
    rw [List.all_eq_true]
    intro c hc
    obtain ⟨⟨hascii, hlower, hdenied⟩, hdot⟩ := h c hc
    simp [Punycode.isAscii, hascii, hlower, hdenied, hdot]
  rw [fitLabel?, if_pos hall, decodeLabel?, hmark]
  rfl

theorem labelsFit_of_plain {labels : List (List Char)}
    (h : ∀ label ∈ labels, (∀ c ∈ label, IsPlainAscii c ∧ c ≠ '.') ∧ isMarked label = false) :
    labelsFit labels = true := by
  have hsame : labels.mapM fitLabel? = some labels := by
    induction labels with
    | nil => rfl
    | cons label labels ih =>
      obtain ⟨hplain, hmark⟩ := h label List.mem_cons_self
      rw [List.mapM_cons, fitLabel?_of_plain hplain hmark,
        ih fun l hl ↦ h l (List.mem_cons_of_mem _ hl)]
      rfl
  rw [labelsFit, hsame, Option.any_some, Direction.allFit, Bool.or_eq_true, Bool.not_eq_true']
  refine .inl ?_
  rw [List.any_eq_false]
  intro label hlabel
  rw [Bool.not_eq_true, List.any_eq_false]
  intro c hc
  rw [Direction.isRightToLeft_of_ascii ((h label hlabel).1 c hc).1.1]
  simp

/-- **What is accepted as a domain name is plain ASCII.** -/
theorem isPlainAscii_of_toAscii? {cs ascii : List Char} (h : toAscii? cs = some ascii) :
    ∀ c ∈ ascii, IsPlainAscii c := by
  obtain ⟨labels, -, hfit, rfl⟩ := exists_labels_of_toAscii? h
  intro c hc
  rcases mem_intercalate hc with rfl | ⟨label, hlabel, hc⟩
  · exact ⟨by decide, by decide, by decide⟩
  · obtain ⟨hascii, hlower, -, hdenied⟩ := forall_of_labelsFit hfit label hlabel c hc
    exact ⟨hascii, hlower, hdenied⟩

end TracedFibonacci.Idna
