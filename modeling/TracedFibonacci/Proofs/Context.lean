import Mathlib.Logic.Relation
import TracedFibonacci.Context

/-!
# Families of contexts

Contexts that are copies of one another, at however many removes, are kin, and kin are cancelled
together: by the first cancellation of any of them, for all of them, those that are copied later
included. Nothing else cancels a context, and nothing else than a cancellation of its kin changes
anything for it (`cancelled_with_kin`).

## Kinship is told by the operations

Who is kin to whom is read off the operations alone: `Kin` is the least equivalence that joins
each copy to its source, over all the operations, also those still to come. What is kept is a number
for the family of each context. That the numbers tell kinship (`kin_iff`) is what the rest stands
on: a copy gets the number of its source, and a number that was not given before is given to a
context that starts a family (`tells_standing`).

## The two flags of a family

The flag that decides which cancellation was the first and the one that those who wait look at are
raised by the same operation, and neither is ever lowered. So they agree (`Agreeing`), and either of
them says whether the family was cancelled (`isCancelled_iff`).
-/

namespace TracedFibonacci.Contexts

/-! ### Operations and kinship -/

/-- What the operation makes: nothing, a context that is no copy, or a copy of a context. -/
def Op.origin? : Op → Option (Option Nat)
  | .new => some none
  | .clone i => some (some i)
  | .cancel _ | .isCancelled _ | .wait _ | .waitThenCancel _ _ => none

/-- The context that the operation cancels. -/
def Op.cancels? : Op → Option Nat
  | .cancel i | .waitThenCancel _ i => some i
  | .new | .clone _ | .isCancelled _ | .wait _ => none

/-- The contexts that the operation is about. -/
def Op.named : Op → List Nat
  | .new => []
  | .clone i | .cancel i | .isCancelled i | .wait i => [i]
  | .waitThenCancel i j => [i, j]

/-- What each context was made from, in the order of making. -/
def origins (ops : List Op) : List (Option Nat) := ops.filterMap Op.origin?

/-- How many contexts the first `k` operations make. -/
def made (ops : List Op) (k : Nat) : Nat := (origins (ops.take k)).length

/-- Each operation is about contexts that were made before it. -/
def Sound (ops : List Op) : Prop :=
  ∀ k (hk : k < ops.length), ∀ i ∈ ops[k].named, i < made ops k

instance (ops : List Op) : Decidable (Sound ops) :=
  inferInstanceAs (Decidable (∀ k (hk : k < ops.length), ∀ i ∈ ops[k].named, i < made ops k))

/-- The context `n` was made as a copy of the context `i`. -/
def IsCopy (ops : List Op) (n i : Nat) : Prop := (origins ops)[n]? = some (some i)

/-- Two contexts are of one family. -/
def Kin (ops : List Op) : Nat → Nat → Prop := Relation.EqvGen (IsCopy ops)

/-- One of the first `k` operations cancels a context of the family. -/
def CancelledBy (ops : List Op) (k i : Nat) : Prop :=
  ∃ m < k, ∃ op j, ops[m]? = some op ∧ op.cancels? = some j ∧ Kin ops j i

/-- The contexts behind the first `k` operations. -/
def standing (ops : List Op) (k : Nat) : Contexts :=
  (ops.take k).foldl (fun s op ↦ (s.apply op).2) {}

/-- What the operation at `k` has to answer. -/
def Answered (ops : List Op) (k : Nat) : Op → Answer → Prop
  | .new, a | .clone _, a => a = .index (made ops k)
  | .cancel i, a => ∃ first, a = .bool first ∧ (first = true ↔ ¬ CancelledBy ops k i)
  | .isCancelled i, a | .wait i, a => ∃ b, a = .bool b ∧ (b = true ↔ CancelledBy ops k i)
  | .waitThenCancel i j, a => ∃ before first after, a = .triple before first after ∧
      (before = true ↔ CancelledBy ops k i) ∧ (first = true ↔ ¬ CancelledBy ops k j) ∧
      (after = true ↔ CancelledBy ops (k + 1) i)

/-! ### One operation -/

/-- What an operation does to contexts that it can be about. -/
inductive Steps (s : Contexts) : Op → Contexts → Prop
  /-- A family is started. -/
  | new : Steps s .new
      { families := s.families ++ [{}], members := s.members ++ [s.families.length] }
  /-- A context joins the family of another one. -/
  | clone {i c : Nat} (hi : s.members[i]? = some c) :
      Steps s (.clone i) { s with members := s.members ++ [c] }
  /-- A family is cancelled. -/
  | cancel {op : Op} {j c : Nat} {f : Family} (hop : op.cancels? = some j)
      (hj : s.members[j]? = some c) (hf : s.families[c]? = some f) :
      Steps s op { s with families := s.families.set c f.cancel.2 }
  /-- Nothing is done. -/
  | look {op : Op} (horigin : op.origin? = none) (hop : op.cancels? = none) : Steps s op s

variable {ops : List Op} {k m i j : Nat} {op : Op}

theorem Sound.lt_made (h : Sound ops) (hop : ops[k]? = some op) (hi : i ∈ op.named) :
    i < made ops k := by
  obtain ⟨hk, rfl⟩ := List.getElem?_eq_some_iff.mp hop
  exact h k hk i hi

theorem Op.eq_clone_of_origin? (h : op.origin? = some (some i)) : op = .clone i := by
  cases op <;> simp_all [Op.origin?]

theorem Op.mem_named_of_cancels? (h : op.cancels? = some j) : j ∈ op.named := by
  cases op <;> simp_all [cancels?, named]

theorem getElem?_concat_eq_some_iff {α : Type*} {xs : List α} {x y : α} {n : Nat} :
    (xs ++ [x])[n]? = some y ↔ xs[n]? = some y ∨ n = xs.length ∧ y = x := by
  grind

section Step

variable {s s' : Contexts} {c : Nat} {f : Family}

/-- The family of each context is there. -/
def Placed (s : Contexts) : Prop := ∀ c ∈ s.members, c < s.families.length

/-- The flags of each family agree. -/
def Agreeing (s : Contexts) : Prop := ∀ f ∈ s.families, f.fired = f.token

theorem family?_eq_some_iff :
    s.family? i = some f ↔ ∃ c, s.members[i]? = some c ∧ s.families[c]? = some f := by
  rw [family?, Option.bind_eq_some_iff]

/-- A context that was made has a family. -/
theorem Placed.exists_family (h : s.Placed) (hi : i < s.members.length) :
    ∃ c f, s.members[i]? = some c ∧ s.families[c]? = some f := by
  have hmem := List.getElem?_eq_getElem hi
  exact ⟨s.members[i], _, hmem, List.getElem?_eq_getElem (h _ (List.getElem_mem hi))⟩

theorem cancel_eq (hj : s.members[j]? = some c) (hf : s.families[c]? = some f) :
    s.cancel j = (!f.fired, { s with families := s.families.set c f.cancel.2 }) := by
  have hfamily : s.family? j = some f := family?_eq_some_iff.mpr ⟨c, hj, hf⟩
  rw [cancel, hj, hfamily]
  rfl

/-- **What an operation can do** is to start a family, to add to one, or to cancel one. -/
theorem steps_apply (h : s.Placed) (hop : ∀ i ∈ op.named, i < s.members.length) :
    Steps s op (s.apply op).2 := by
  cases op with
  | new => exact .new
  | clone i =>
    obtain ⟨c, -, hi, -⟩ := h.exists_family (hop i (by simp [Op.named]))
    rw [apply, hi]
    exact .clone hi
  | cancel j =>
    obtain ⟨c, f, hj, hf⟩ := h.exists_family (hop j (by simp [Op.named]))
    rw [apply, cancel_eq hj hf]
    exact .cancel rfl hj hf
  | isCancelled i => exact .look rfl rfl
  | wait i => exact .look rfl rfl
  | waitThenCancel i j =>
    obtain ⟨c, f, hj, hf⟩ := h.exists_family (hop j (by simp [Op.named]))
    rw [apply, cancel_eq hj hf]
    exact .cancel rfl hj hf

theorem Steps.isPrefix_members (h : Steps s op s') : s.members <+: s'.members := by
  cases h with
  | new => exact List.prefix_append ..
  | clone => exact List.prefix_append ..
  | cancel => exact List.prefix_rfl
  | look => exact List.prefix_rfl

theorem Steps.members_eq (h : Steps s op s') (hi : i < s.members.length) :
    s'.members[i]? = s.members[i]? := by
  obtain ⟨cs, hcs⟩ := h.isPrefix_members
  rw [← hcs, List.getElem?_append_left hi]

theorem Steps.length_members (h : Steps s op s') :
    s'.members.length = s.members.length + op.origin?.toList.length := by
  cases h with
  | new => simp [Op.origin?]
  | clone => simp [Op.origin?]
  | cancel hop => cases op <;> simp_all [Op.origin?, Op.cancels?]
  | look horigin => simp [horigin]

theorem Steps.placed (h : Steps s op s') (hs : s.Placed) : s'.Placed := by
  cases h with
  | new =>
    intro c hc
    have : c ∈ s.members ∨ c = s.families.length := by simpa using hc
    rcases this with hc | rfl
    · simpa using Nat.lt_succ_of_lt (hs c hc)
    · simp
  | @clone i d hi =>
    intro c hc
    have : c ∈ s.members ∨ c = d := by simpa using hc
    rcases this with hc | rfl
    · exact hs c hc
    · exact hs _ (List.mem_of_getElem? hi)
  | cancel => simpa [Placed] using hs
  | look => exact hs

theorem Steps.agreeing (h : Steps s op s') (hs : s.Agreeing) : s'.Agreeing := by
  cases h with
  | new =>
    intro f hf
    have : f ∈ s.families ∨ f = {} := by simpa using hf
    rcases this with hf | rfl
    · exact hs f hf
    · rfl
  | clone => exact hs
  | @cancel _ j c f hop hj hf =>
    intro g hg
    rcases List.mem_or_eq_of_mem_set hg with hg | rfl
    · exact hs g hg
    · have hfired := hs f (List.mem_of_getElem? hf)
      simp [Family.cancel, ← hfired]
  | look => exact hs

/-- An operation that cancels no context of a family leaves what the family keeps. -/
theorem Steps.family?_eq (h : Steps s op s') (hs : s.Placed) (hi : i < s.members.length)
    (hop : ∀ j, op.cancels? = some j → s.members[j]? ≠ s.members[i]?) :
    s'.family? i = s.family? i := by
  obtain ⟨c, f, hmem, hfamily⟩ := hs.exists_family hi
  have hc : c < s.families.length := hs c (List.mem_of_getElem? hmem)
  cases h with
  | new =>
    rw [family?, family?, List.getElem?_append_left hi, hmem]
    exact List.getElem?_append_left hc
  | clone => simp [family?, List.getElem?_append_left, hi]
  | @cancel _ j d g hj hd hg =>
    have hne : d ≠ c := fun heq ↦ hop j hj (by rw [hd, hmem, heq])
    simp [family?, hmem, List.getElem?_set_ne hne]
  | look => rfl

/-- An operation that cancels a context of a family cancels the family. -/
theorem Steps.family?_eq_map (h : Steps s op s') (hop : op.cancels? = some j)
    (hj : s.members[j]? = s.members[i]?) :
    s'.family? i = (s.family? i).map (·.cancel.2) := by
  cases h with
  | new => cases hop
  | clone => cases hop
  | @cancel _ j' c f hop' hc hf =>
    cases hop.symm.trans hop'
    have hlt : c < s.families.length := (List.getElem?_eq_some_iff.mp hf).1
    simp [family?, ← hj, hc, hf, List.getElem?_set_self hlt]
  | look _ hop' => cases hop.symm.trans hop'

/-- **What it takes to be cancelled behind an operation.** -/
theorem Steps.isCancelled_iff (h : Steps s op s') (hs : s.Placed) (hagree : s.Agreeing)
    (hi : i < s.members.length) :
    s'.isCancelled i = true ↔
      s.isCancelled i = true ∨ ∃ j, op.cancels? = some j ∧ s.members[j]? = s.members[i]? := by
  by_cases hop : ∃ j, op.cancels? = some j ∧ s.members[j]? = s.members[i]?
  · obtain ⟨j, hj, hmem⟩ := hop
    obtain ⟨c, f, hc, hf⟩ := hs.exists_family hi
    have hfired : f.fired = f.token := hagree f (List.mem_of_getElem? hf)
    have hfamily : s.family? i = some f := family?_eq_some_iff.mpr ⟨c, hc, hf⟩
    have htoken : s'.isCancelled i = true := by
      simp [isCancelled, h.family?_eq_map hj hmem, hfamily, Family.cancel, hfired]
    exact ⟨fun _ ↦ .inr ⟨j, hj, hmem⟩, fun _ ↦ htoken⟩
  · have hsame := h.family?_eq hs hi fun j hj hmem ↦ hop ⟨j, hj, hmem⟩
    rw [isCancelled, isCancelled, hsame, or_iff_left hop]

end Step

/-! ### Operation after operation -/

theorem standing_succ (h : ops[k]? = some op) :
    standing ops (k + 1) = ((standing ops k).apply op).2 := by
  simp [standing, List.take_add_one, h]

theorem origins_take_succ (h : ops[k]? = some op) :
    origins (ops.take (k + 1)) = origins (ops.take k) ++ op.origin?.toList := by
  cases horigin : op.origin? <;> simp [origins, List.take_add_one, h, horigin]

theorem getElem?_origins_of_take {n : Nat} {o : Option Nat}
    (h : (origins (ops.take k))[n]? = some o) : (origins ops)[n]? = some o := by
  obtain ⟨os, hos⟩ : origins (ops.take k) <+: origins ops := (List.take_prefix k ops).filterMap _
  rw [← hos, List.getElem?_append_left (List.getElem?_eq_some_iff.mp h).1, h]

theorem made_succ (h : ops[k]? = some op) :
    made ops (k + 1) = made ops k + op.origin?.toList.length := by
  rw [made, origins_take_succ h, List.length_append, made]

theorem made_mono (h : k ≤ m) : made ops k ≤ made ops m :=
  ((List.take_prefix_take_left h).filterMap _).length_le

theorem getElem?_origins_succ (h : ops[k]? = some op) {n : Nat} {o : Option Nat} :
    (origins (ops.take (k + 1)))[n]? = some o ↔
      (origins (ops.take k))[n]? = some o ∨ n = made ops k ∧ op.origin? = some o := by
  rw [origins_take_succ h, made]
  cases horigin : op.origin? with
  | none => simp
  | some o' =>
    rw [Option.some_inj, eq_comm (a := o')]
    exact getElem?_concat_eq_some_iff

/-- What the contexts behind the first `k` operations keep. -/
structure Tells (ops : List Op) (k : Nat) (s : Contexts) : Prop where
  /-- There are as many as were made. -/
  length : s.members.length = made ops k
  /-- Their families are there. -/
  placed : s.Placed
  /-- The flags of the families agree. -/
  agreeing : s.Agreeing
  /-- A copy has the family of its source. -/
  copy : ∀ n i : Nat, (origins (ops.take k))[n]? = some (some i) → s.members[n]? = s.members[i]?
  /-- Contexts that have one family are kin. -/
  kin : ∀ i j c : Nat, s.members[i]? = some c → s.members[j]? = some c → Kin ops i j

section Run

variable {s s' : Contexts}

theorem Tells.copy_step (hs : Tells ops k s) (hop : ops[k]? = some op) (h : Steps s op s')
    {n i : Nat} (hcopy : (origins (ops.take (k + 1)))[n]? = some (some i)) :
    s'.members[n]? = s'.members[i]? := by
  rcases (getElem?_origins_succ hop).mp hcopy with hold | ⟨hn, horigin⟩
  · have hn : n < s.members.length := hs.length ▸ (List.getElem?_eq_some_iff.mp hold).1
    have hsame := hs.copy n i hold
    have hi : i < s.members.length := by
      rw [List.getElem?_eq_getElem hn] at hsame
      exact (List.getElem?_eq_some_iff.mp hsame.symm).1
    rw [h.members_eq hn, h.members_eq hi, hsame]
  · cases Op.eq_clone_of_origin? horigin
    cases h with
    | clone hi =>
      have hlt := (List.getElem?_eq_some_iff.mp hi).1
      rw [hn, ← hs.length, List.getElem?_concat_length, List.getElem?_append_left hlt, hi]
    | cancel hc => cases hc
    | look horigin => cases horigin

theorem Tells.kin_step (hs : Tells ops k s) (hop : ops[k]? = some op) (h : Steps s op s')
    {i j c : Nat} (hi : s'.members[i]? = some c) (hj : s'.members[j]? = some c) :
    Kin ops i j := by
  cases h with
  | new =>
    -- The number of the new family was not given to any context before.
    have hfresh : ∀ i c, s.members[i]? = some c → c ≠ s.families.length :=
      fun i c hi ↦ Nat.ne_of_lt (hs.placed c (List.mem_of_getElem? hi))
    rcases getElem?_concat_eq_some_iff.mp hi with hi | ⟨rfl, rfl⟩ <;>
      rcases getElem?_concat_eq_some_iff.mp hj with hj | ⟨rfl, hc⟩
    · exact hs.kin i j c hi hj
    · exact absurd hc (hfresh i c hi)
    · exact absurd rfl (hfresh j _ hj)
    · exact .refl _
  | @clone d e hd =>
    have hcopy : Kin ops s.members.length d := by
      have hcopy := (getElem?_origins_succ hop).mpr (.inr ⟨hs.length, rfl⟩)
      exact .rel _ _ (getElem?_origins_of_take hcopy)
    rcases getElem?_concat_eq_some_iff.mp hi with hi | ⟨rfl, rfl⟩ <;>
      rcases getElem?_concat_eq_some_iff.mp hj with hj | ⟨rfl, hc⟩
    · exact hs.kin i j c hi hj
    · exact .trans _ _ _ (hs.kin i d c hi (hc ▸ hd)) (.symm _ _ hcopy)
    · exact .trans _ _ _ hcopy (hs.kin d j _ hd hj)
    · exact .refl _
  | cancel => exact hs.kin i j c hi hj
  | look => exact hs.kin i j c hi hj

/-- One operation keeps what the contexts tell. -/
theorem Tells.step (hs : Tells ops k s) (hop : ops[k]? = some op) (h : Steps s op s') :
    Tells ops (k + 1) s' where
  length := by rw [h.length_members, hs.length, made_succ hop]
  placed := h.placed hs.placed
  agreeing := h.agreeing hs.agreeing
  copy _ _ := hs.copy_step hop h
  kin _ _ _ := hs.kin_step hop h

end Run

theorem tells_zero (ops : List Op) : Tells ops 0 {} where
  length := rfl
  placed _ hc := nomatch hc
  agreeing _ hf := nomatch hf
  copy _ _ h := by simp [origins] at h
  kin _ _ _ h := by simp at h

/-- **What the contexts tell, they tell behind every operation.** -/
theorem tells_standing (h : Sound ops) (hk : k ≤ ops.length) : Tells ops k (standing ops k) := by
  induction k with
  | zero => exact tells_zero ops
  | succ k ih =>
    have hop := List.getElem?_eq_getElem hk
    have hs := ih (Nat.le_of_lt hk)
    rw [standing_succ hop]
    exact hs.step hop (steps_apply hs.placed fun i hi ↦ hs.length ▸ h.lt_made hop hi)

/-- What an operation of a course does. -/
theorem steps_standing (h : Sound ops) (hop : ops[k]? = some op) :
    Steps (standing ops k) op (standing ops (k + 1)) := by
  have hs := tells_standing h (Nat.le_of_lt (List.getElem?_eq_some_iff.mp hop).1)
  rw [standing_succ hop]
  exact steps_apply hs.placed fun i hi ↦ hs.length ▸ h.lt_made hop hi

theorem members_standing (h : Sound ops) (hkm : k ≤ m) (hm : m ≤ ops.length)
    (hi : i < made ops k) : (standing ops m).members[i]? = (standing ops k).members[i]? := by
  induction hkm with
  | refl => rfl
  | @step m hkm ih =>
    have hlt : i < (standing ops m).members.length := by
      rw [(tells_standing h (Nat.le_of_lt hm)).length]
      exact Nat.lt_of_lt_of_le hi (made_mono hkm)
    rw [(steps_standing h (List.getElem?_eq_getElem hm)).members_eq hlt, ih (Nat.le_of_lt hm)]

theorem members_eq_of_kin (h : Sound ops) (hkin : Kin ops j i) :
    (standing ops ops.length).members[j]? = (standing ops ops.length).members[i]? := by
  have hs := tells_standing h (Nat.le_refl ops.length)
  induction hkin with
  | rel n i hcopy => exact hs.copy n i (by rwa [List.take_length])
  | refl i => rfl
  | symm _ _ _ ih => exact ih.symm
  | trans _ _ _ _ _ ih ih' => exact ih.trans ih'

/-- **Contexts are kin if and only if one family is kept for them.** -/
theorem kin_iff (h : Sound ops) (hk : k ≤ ops.length) (hi : i < made ops k) (hj : j < made ops k) :
    Kin ops j i ↔ (standing ops k).members[j]? = (standing ops k).members[i]? := by
  have hs := tells_standing h hk
  constructor
  · intro hkin
    have hfinal := members_eq_of_kin h hkin
    rwa [members_standing h hk (Nat.le_refl _) hi, members_standing h hk (Nat.le_refl _) hj]
      at hfinal
  · intro hsame
    have hi := List.getElem?_eq_getElem (hs.length.symm ▸ hi : i < (standing ops k).members.length)
    exact hs.kin j i _ (hsame.trans hi) hi

/-! ### Who is cancelled -/

theorem cancelledBy_succ (h : ops[k]? = some op) :
    CancelledBy ops (k + 1) i ↔
      CancelledBy ops k i ∨ ∃ j, op.cancels? = some j ∧ Kin ops j i := by
  constructor
  · rintro ⟨m, hm, op', j, hop, hj, hkin⟩
    rcases Nat.lt_succ_iff_lt_or_eq.mp hm with hm | rfl
    · exact .inl ⟨m, hm, op', j, hop, hj, hkin⟩
    · cases h.symm.trans hop
      exact .inr ⟨j, hj, hkin⟩
  · rintro (⟨m, hm, hcancelled⟩ | ⟨j, hj, hkin⟩)
    · exact ⟨m, Nat.lt_succ_of_lt hm, hcancelled⟩
    · exact ⟨k, Nat.lt_succ_self k, op, j, h, hj, hkin⟩

theorem CancelledBy.of_kin (h : CancelledBy ops k j) (hkin : Kin ops j i) :
    CancelledBy ops k i := by
  obtain ⟨m, hm, op, d, hop, hd, hdj⟩ := h
  exact ⟨m, hm, op, d, hop, hd, .trans _ _ _ hdj hkin⟩

/-- What is cancelled was made before. -/
theorem lt_made_of_cancels? (h : Sound ops) (hop : ops[m]? = some op) (hj : op.cancels? = some j)
    (hm : m ≤ k) : j < made ops k :=
  Nat.lt_of_lt_of_le (h.lt_made hop (Op.mem_named_of_cancels? hj)) (made_mono hm)

/-- A context that starts a family is kin to none that was made before. -/
theorem not_kin_new (h : Sound ops) (hop : ops[k]? = some .new) (hj : j < made ops k) :
    ¬ Kin ops j (made ops k) := by
  intro hkin
  have hk : k + 1 ≤ ops.length := (List.getElem?_eq_some_iff.mp hop).1
  have hs := tells_standing h (Nat.le_of_succ_le hk)
  have hmade : made ops (k + 1) = made ops k + 1 := made_succ hop
  have hj' : j < (standing ops k).members.length := hs.length ▸ hj
  rw [kin_iff h hk (by omega) (by omega), (steps_standing h hop).members_eq hj', standing_succ hop,
    apply, ← hs.length, List.getElem?_concat_length] at hkin
  exact Nat.ne_of_lt (hs.placed _ (List.mem_of_getElem? hkin)) rfl

/-- A context that starts a family is not cancelled when it is made, and its family was not. -/
theorem isCancelled_new (h : Sound ops) (hop : ops[k]? = some .new) :
    (standing ops (k + 1)).isCancelled (made ops k) = false ∧
      ¬ CancelledBy ops (k + 1) (made ops k) := by
  have hs := tells_standing h (Nat.le_of_lt (List.getElem?_eq_some_iff.mp hop).1)
  constructor
  · simp [standing_succ hop, apply, isCancelled, family?, ← hs.length]
  · rintro ⟨m, hm, op, j, hop', hj, hkin⟩
    exact not_kin_new h hop (lt_made_of_cancels? h hop' hj (Nat.le_of_lt_succ hm)) hkin

/-- A copy is cancelled when it is made if and only if its source is. -/
theorem isCancelled_clone (h : Sound ops) (hop : ops[k]? = some (.clone i)) :
    (standing ops (k + 1)).isCancelled (made ops k) = (standing ops k).isCancelled i ∧
      Kin ops (made ops k) i := by
  have hs := tells_standing h (Nat.le_of_lt (List.getElem?_eq_some_iff.mp hop).1)
  have hi : i < (standing ops k).members.length := hs.length ▸ h.lt_made hop (by simp [Op.named])
  constructor
  · simp [standing_succ hop, apply, isCancelled, family?, ← hs.length, hi]
  · exact .rel _ _ (getElem?_origins_of_take ((getElem?_origins_succ hop).mpr (.inr ⟨rfl, rfl⟩)))

/-- **A context is cancelled if and only if one of its kin was**, whenever it was made. -/
theorem isCancelled_iff (h : Sound ops) (hk : k ≤ ops.length) (hi : i < made ops k) :
    (standing ops k).isCancelled i = true ↔ CancelledBy ops k i := by
  induction k generalizing i with
  | zero => exact absurd hi (Nat.not_lt_zero i)
  | succ k ih =>
    obtain ⟨op, hop⟩ : ∃ op, ops[k]? = some op := ⟨_, List.getElem?_eq_getElem hk⟩
    have hs := tells_standing h (Nat.le_of_lt hk)
    have hstep := steps_standing h hop
    by_cases hold : i < made ops k
    · rw [hstep.isCancelled_iff hs.placed hs.agreeing (hs.length ▸ hold), ih (Nat.le_of_lt hk) hold,
        cancelledBy_succ hop]
      refine or_congr_right (exists_congr fun j ↦ and_congr_right fun hj ↦ ?_)
      exact (kin_iff h (Nat.le_of_lt hk) hold (lt_made_of_cancels? h hop hj (Nat.le_refl k))).symm
    · -- The context is the one that the operation makes.
      have hmade := made_succ hop
      cases op with
      | new =>
        obtain rfl : i = made ops k := Nat.eq_of_lt_succ_of_not_lt (hmade ▸ hi) hold
        obtain ⟨hfalse, hnot⟩ := isCancelled_new h hop
        simp [hfalse, hnot]
      | clone d =>
        obtain rfl : i = made ops k := Nat.eq_of_lt_succ_of_not_lt (hmade ▸ hi) hold
        obtain ⟨hsame, hkin⟩ := isCancelled_clone h hop
        rw [hsame, ih (Nat.le_of_lt hk) (h.lt_made hop (by simp [Op.named])), cancelledBy_succ hop,
          or_iff_left (by simp [Op.cancels?])]
        exact ⟨fun hd ↦ hd.of_kin (.symm _ _ hkin), fun hi ↦ hi.of_kin hkin⟩
      | _ => exact absurd hi (hmade ▸ hold)

/-! ### What the operations answer -/

section Answers

variable {s : Contexts}

theorem cancel_fst (hs : s.Placed) (hagree : s.Agreeing) (hj : j < s.members.length) :
    (s.cancel j).1 = !s.isCancelled j := by
  obtain ⟨c, f, hc, hf⟩ := hs.exists_family hj
  have hfired : f.fired = f.token := hagree f (List.mem_of_getElem? hf)
  have hfamily : s.family? j = some f := family?_eq_some_iff.mpr ⟨c, hc, hf⟩
  rw [cancel_eq hc hf, isCancelled, hfamily, hfired]
  rfl

theorem length_applyAll (s : Contexts) (ops : List Op) : (applyAll s ops).length = ops.length := by
  induction ops generalizing s with
  | nil => rfl
  | cons op ops ih => rw [applyAll, List.length_cons, ih, List.length_cons]

theorem getElem?_applyAll (s : Contexts) (ops : List Op) (k : Nat) :
    (applyAll s ops)[k]? = ops[k]?.map fun op ↦
      let before := (ops.take k).foldl (fun s op ↦ (s.apply op).2) s
      ((before.apply op).1, (before.apply op).2.cancelledFlags) := by
  induction ops generalizing s k with
  | nil => rfl
  | cons op ops ih =>
    cases k with
    | zero => rfl
    | succ k => simpa [applyAll] using ih (s.apply op).2 k

end Answers

/-- **Every operation answers what it has to.** -/
theorem answered_apply (h : Sound ops) (hop : ops[k]? = some op) :
    Answered ops k op ((standing ops k).apply op).1 := by
  have hk : k ≤ ops.length := Nat.le_of_lt (List.getElem?_eq_some_iff.mp hop).1
  have hs := tells_standing h hk
  have hmade : ∀ i ∈ op.named, i < made ops k := fun i ↦ h.lt_made hop
  have hfirst : ∀ j ∈ op.named,
      (((standing ops k).cancel j).1 = true ↔ ¬ CancelledBy ops k j) := fun j hj ↦ by
    rw [cancel_fst hs.placed hs.agreeing (hs.length ▸ hmade j hj), Bool.not_eq_true',
      ← isCancelled_iff h hk (hmade j hj), Bool.not_eq_true]
  cases op with
  | new => exact congrArg Answer.index hs.length
  | clone i =>
    obtain ⟨c, f, hi, -⟩ := hs.placed.exists_family (hs.length ▸ hmade i (by simp [Op.named]))
    rw [apply, hi]
    exact congrArg Answer.index hs.length
  | cancel i => exact ⟨_, rfl, hfirst i (by simp [Op.named])⟩
  | isCancelled i => exact ⟨_, rfl, isCancelled_iff h hk (hmade i (by simp [Op.named]))⟩
  | wait i => exact ⟨_, rfl, isCancelled_iff h hk (hmade i (by simp [Op.named]))⟩
  | waitThenCancel i j =>
    refine ⟨_, _, _, rfl, isCancelled_iff h hk (hmade i (by simp [Op.named])),
      hfirst j (by simp [Op.named]), ?_⟩
    have hi : i < made ops (k + 1) :=
      Nat.lt_of_lt_of_le (hmade i (by simp [Op.named])) (made_mono (Nat.le_succ k))
    rw [← isCancelled_iff h (List.getElem?_eq_some_iff.mp hop).1 hi, standing_succ hop]
    rfl

/-- Operations that cancel none of its kin change nothing for a context. -/
theorem family?_standing (h : Sound ops) (hkm : k ≤ m) (hm : m ≤ ops.length) (hi : i < made ops k)
    (hother : ∀ l op j, k ≤ l → l < m → ops[l]? = some op → op.cancels? = some j → ¬ Kin ops j i) :
    (standing ops m).family? i = (standing ops k).family? i := by
  induction hkm with
  | refl => rfl
  | @step m hkm ih =>
    have hs := tells_standing h (Nat.le_of_lt hm)
    have hi' : i < made ops m := Nat.lt_of_lt_of_le hi (made_mono hkm)
    have hop := List.getElem?_eq_getElem hm
    rw [← ih (Nat.le_of_lt hm) fun l op j hkl hlm ↦ hother l op j hkl (Nat.lt_succ_of_lt hlm)]
    refine (steps_standing h hop).family?_eq hs.placed (hs.length ▸ hi') fun j hj hsame ↦ ?_
    refine hother m _ j hkm (Nat.lt_succ_self m) hop hj ?_
    exact (kin_iff h (Nat.le_of_lt hm) hi' (lt_made_of_cancels? h hop hj (Nat.le_refl m))).mpr hsame

/-- **Families are cancelled once, as a whole and on their own.** In any course of operations, each
about contexts that were made before it:

* there is an answer to each operation, and behind it a flag for each context that is made by then.
  A cancellation is the first if and only if none of the kin was cancelled before. Looking at a
  context, or waiting for its cancellation, tells whether one was. So does the flag;
* the two flags of each family agree behind every operation;
* a wait that is not over gets over by an operation if and only if it cancels one of the kin;
* what is kept for a context is the same before and behind any operations that cancel none of its
  kin. -/
theorem cancelled_with_kin (h : Sound ops) :
    (applyAll {} ops).length = ops.length ∧
    (∀ k op, ops[k]? = some op → ∃ a flags, (applyAll {} ops)[k]? = some (a, flags) ∧
      Answered ops k op a ∧ flags.length = made ops (k + 1) ∧
      ∀ i < made ops (k + 1), (flags[i]? = some true ↔ CancelledBy ops (k + 1) i)) ∧
    (∀ k ≤ ops.length, ∀ f ∈ (standing ops k).families, f.fired = f.token) ∧
    (∀ k op i, ops[k]? = some op → i < made ops k → (standing ops k).isCancelled i = false →
      ((standing ops (k + 1)).isCancelled i = true ↔ ∃ j, op.cancels? = some j ∧ Kin ops j i)) ∧
    (∀ k m i, k ≤ m → m ≤ ops.length → i < made ops k →
      (∀ l op j, k ≤ l → l < m → ops[l]? = some op → op.cancels? = some j → ¬ Kin ops j i) →
      (standing ops m).family? i = (standing ops k).family? i) := by
  refine ⟨length_applyAll {} ops, fun k op hop ↦ ?_, fun k hk ↦ (tells_standing h hk).agreeing,
    fun k op i hop hi hwaits ↦ ?_, fun k m i hkm hm ↦ family?_standing h hkm hm⟩
  · have hk : k + 1 ≤ ops.length := (List.getElem?_eq_some_iff.mp hop).1
    refine ⟨_, (standing ops (k + 1)).cancelledFlags, ?_, answered_apply h hop, ?_, fun i hi ↦ ?_⟩
    · rw [getElem?_applyAll, hop, standing_succ hop]
      rfl
    · rw [cancelledFlags, List.length_map, List.length_range, (tells_standing h hk).length]
    · rw [← isCancelled_iff h hk hi, cancelledFlags, List.getElem?_map,
        List.getElem?_range ((tells_standing h hk).length ▸ hi), Option.map_some, Option.some_inj]
  · have hk : k + 1 ≤ ops.length := (List.getElem?_eq_some_iff.mp hop).1
    have hnot : ¬ CancelledBy ops k i := by
      rw [← isCancelled_iff h (Nat.le_of_succ_le hk) hi, hwaits]
      exact Bool.false_ne_true
    rw [isCancelled_iff h hk (Nat.lt_of_lt_of_le hi (made_mono (Nat.le_succ k))),
      cancelledBy_succ hop, or_iff_right hnot]

/-- A copy that is made of a copy when their family has been cancelled is cancelled, and another
family is not. -/
theorem cancelled_with_kin_late_copy :
    let ops := [.new, .clone 0, .new, .waitThenCancel 1 0, .cancel 1, .clone 1, .wait 3, .cancel 2]
    Sound ops ∧ (applyAll {} ops).map Prod.fst = [.index 0, .index 1, .index 2,
      .triple false true true, .bool false, .index 3, .bool true, .bool true] ∧
    CancelledBy ops 6 3 ∧ ¬ CancelledBy ops 7 2 := by
  have h : Sound [.new, .clone 0, .new, .waitThenCancel 1 0, .cancel 1, .clone 1, .wait 3,
      .cancel 2] := by decide
  obtain ⟨-, hanswers, -⟩ := cancelled_with_kin h
  refine ⟨h, by decide, ?_, ?_⟩
  · obtain ⟨a, flags, ha, ⟨b, rfl, hb⟩, -⟩ := hanswers 6 _ rfl
    cases ha
    exact hb.mp rfl
  · obtain ⟨a, flags, ha, ⟨b, rfl, hb⟩, -⟩ := hanswers 7 _ rfl
    cases ha
    exact hb.mp rfl

end TracedFibonacci.Contexts
