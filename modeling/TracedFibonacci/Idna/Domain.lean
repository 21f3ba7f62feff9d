import TracedFibonacci.Idna.Label

/-!
# Domain names

A domain name as a user writes it, with any characters, becomes the domain name in ASCII that is
looked up: it is mapped to one spelling and composed, cut into labels at the dots, and each label
that is not ASCII is encoded. The labels are checked in their encoded form, so that a domain name
that was accepted once is accepted again as it was written, and unchanged.

## What the lemmas pin down

* `toAscii?_toAscii?`: an encoded domain name is its own encoding.
-/

namespace TracedFibonacci.Idna

/-- A domain name in the one spelling of its characters. -/
def mapped? (cs : List Char) : Option (List Char) :=
  (cs.mapM mapChar?).map fun images ↦ composed images.flatten

/-- Whether these labels in ASCII make a domain name. -/
def labelsFit (labels : List (List Char)) : Bool := (labels.mapM fitLabel?).any Direction.allFit

/-- A domain name in ASCII. -/
def toAscii? (cs : List Char) : Option (List Char) :=
  (mapped? cs).bind fun cs ↦
    let labels := (cs.splitOn '.').map encodeLabel
    if labelsFit labels then some (List.intercalate ['.'] labels) else none

/-- Labels that fit consist of ASCII without capitals. -/
theorem forall_of_labelsFit {labels : List (List Char)} (h : labelsFit labels = true) :
    ∀ label ∈ labels, ∀ c ∈ label, c.toNat < 0x80 ∧ lower c = c ∧ c ≠ '.' ∧ isDenied c = false := by
  unfold labelsFit at h
  obtain ⟨texts, ht, -⟩ := Option.any_eq_true .. |>.1 h
  clear h
  induction labels generalizing texts with
  | nil => simp
  | cons label labels ih =>
    simp only [List.mapM_cons, Option.bind_eq_bind, Option.bind_eq_some_iff, Option.pure_def,
      Option.some.injEq] at ht
    obtain ⟨text, hl, texts', ht', -⟩ := ht
    intro l hl' c hc
    rcases List.mem_cons.1 hl' with rfl | hl'
    · exact forall_of_fitLabel? hl c hc
    · exact ih texts' ht' l hl' c hc

/-- Text in the one spelling of ASCII is mapped to itself. -/
theorem mapped?_of_ascii {cs : List Char} (h : ∀ c ∈ cs, c.toNat < 0x80 ∧ lower c = c) :
    mapped? cs = some cs := by
  have hmap : cs.mapM mapChar? = some (cs.map fun c ↦ [c]) := by
    induction cs with
    | nil => rfl
    | cons c cs ih =>
      have hc := h c (by simp)
      simp [List.mapM_cons, mapChar?_of_ascii hc.1 hc.2, ih fun d hd ↦ h d (by simp [hd])]
  have hflat : (cs.map fun c ↦ [c]).flatten = cs := by
    clear hmap h
    induction cs with
    | nil => rfl
    | cons c cs ih => simpa using ih
  rw [mapped?, hmap, Option.map_some, hflat, composed_of_ascii fun c hc ↦ (h c hc).1]

/-- What stands in pieces with separators between them is a separator or stands in a piece. -/
theorem mem_intercalate {sep c : Char} {pieces : List (List Char)}
    (h : c ∈ List.intercalate [sep] pieces) : c = sep ∨ ∃ piece ∈ pieces, c ∈ piece := by
  induction pieces with
  | nil => simp [List.intercalate] at h
  | cons p ps ih =>
    cases ps with
    | nil =>
      simp only [List.intercalate, List.intersperse_singleton, List.flatten_cons, List.flatten_nil,
        List.append_nil] at h
      exact .inr ⟨p, by simp, h⟩
    | cons q qs =>
      simp only [List.intercalate, List.intersperse_cons_cons, List.flatten_cons, List.mem_append,
        List.mem_singleton] at h ih
      rcases h with h | h | h
      · exact .inr ⟨p, by simp, h⟩
      · exact .inl h
      · rcases ih h with h | ⟨r, hr, hc⟩
        · exact .inl h
        · exact .inr ⟨r, by simp_all, hc⟩

/-- Labels that fit make a domain name, which is encoded already. -/
theorem toAscii?_intercalate {labels : List (List Char)} (hne : labels ≠ [])
    (hfit : labelsFit labels = true) :
    toAscii? (List.intercalate ['.'] labels) = some (List.intercalate ['.'] labels) := by
  have hall := forall_of_labelsFit hfit
  have hmem : ∀ c ∈ List.intercalate ['.'] labels, c.toNat < 0x80 ∧ lower c = c := by
    intro c hc
    rcases mem_intercalate hc with rfl | ⟨l, hl, hc⟩
    · decide
    · exact ⟨(hall l hl c hc).1, (hall l hl c hc).2.1⟩
  have hsplit : (List.intercalate ['.'] labels).splitOn '.' = labels :=
    List.splitOn_intercalate _ (fun l hl hc ↦ (hall l hl '.' hc).2.2.1 rfl) hne
  have hsame : labels.map encodeLabel = labels := by
    conv => rhs; rw [← List.map_id labels]
    refine List.map_congr_left fun l hl ↦ ?_
    have : l.all Punycode.isAscii = true :=
      List.all_eq_true.2 fun c hc ↦ by simpa [Punycode.isAscii] using (hall l hl c hc).1
    simp [encodeLabel, this]
  simp [toAscii?, mapped?_of_ascii hmem, hsplit, hsame, hfit]

/-- A domain name consists of labels that fit. -/
theorem exists_labels_of_toAscii? {cs ascii : List Char} (h : toAscii? cs = some ascii) :
    ∃ labels, labels ≠ [] ∧ labelsFit labels = true ∧ ascii = List.intercalate ['.'] labels := by
  unfold toAscii? at h
  obtain ⟨ms, -, h⟩ := Option.bind_eq_some_iff.1 h
  dsimp only at h
  split at h
  · next hfit => exact ⟨_, by simp, hfit, (Option.some.inj h).symm⟩
  · simp at h

/-- An encoded domain name is its own encoding. -/
theorem toAscii?_toAscii? {cs ascii : List Char} (h : toAscii? cs = some ascii) :
    toAscii? ascii = some ascii := by
  obtain ⟨labels, hne, hfit, rfl⟩ := exists_labels_of_toAscii? h
  exact toAscii?_intercalate hne hfit

end TracedFibonacci.Idna
