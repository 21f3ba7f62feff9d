import TracedFibonacci.Toml.Table
import Mathlib.Data.List.Basic

/-!
# Keys that stay apart

A key of several parts makes tables on its way, which other keys may go through as well. What it
cannot do is end at another key, or go through its value. So two keys are `Apart` if neither is the
beginning of the other, and settings under keys that are apart all find their place
(`exists_fills`).

What such settings make of a table is told by `Fills`, one `Puts` for each of them: a key of one
part has its value there, and a key that none of them begins with is as it was.
-/

namespace TracedFibonacci.Toml

/-- Neither key is the beginning of the other. -/
def Apart (p q : List String) : Prop := ¬ p <+: q ∧ ¬ q <+: p

instance (p q : List String) : Decidable (Apart p q) := inferInstanceAs (Decidable (_ ∧ _))

section Apart

variable {name name' : String} {p q : List String}

theorem Apart.symm (h : Apart p q) : Apart q p := ⟨h.2, h.1⟩

/-- Behind a common part, keys are apart that were so with it. -/
theorem Apart.of_cons (h : Apart (name :: p) (name :: q)) : Apart p q := by
  simpa [Apart, List.cons_prefix_cons] using h

theorem Apart.left_ne_nil (h : Apart p q) : p ≠ [] := by
  rintro rfl
  exact h.1 List.nil_prefix

/-- A key of one part is apart from those that do not begin with it. -/
theorem apart_singleton_iff : Apart [name] p ↔ p ≠ [] ∧ p.head? ≠ some name := by
  cases p with
  | nil => simp [Apart]
  | cons name' p =>
    simp only [Apart, List.cons_prefix_cons, List.nil_prefix, and_true, List.prefix_nil, ne_eq,
      reduceCtorEq, not_false_eq_true, List.head?_cons, Option.some.injEq, true_and]
    constructor
    · exact fun h heq ↦ h.1 heq.symm
    · exact fun h ↦ ⟨fun heq ↦ h heq.symm, fun hboth ↦ h hboth.1⟩

end Apart

/-- The parts of the key of a setting. -/
def Setting.names (s : Setting) : List String := s.path.map (·.name) ++ [s.key.name]

namespace Entries

variable {es es' : Entries} {name : String} {item : Item}

/-! ### Looking up -/

theorem get?_eq_none_iff : get? es name = none ↔ name ∉ es.map (·.1.name) := by
  rw [get?, Option.map_eq_none_iff, List.find?_eq_none]
  simp only [beq_iff_eq, List.mem_map, not_exists, not_and]

theorem get?_append (fs : Entries) : get? (es ++ fs) name = (get? es name).or (get? fs name) := by
  rw [get?, List.find?_append, Option.map_or]
  rfl

theorem get?_singleton_self (key : Key) : get? [(key, item)] key.name = some item := by
  simp [get?]

theorem get?_singleton_of_ne {key : Key} (h : name ≠ key.name) :
    get? [(key, item)] name = none := by
  simp [get?, Ne.symm h]

/-- In a table whose keys are all different, every item is the one under its key. -/
theorem get?_of_mem {e : Key × Item} (hnodup : (es.map (·.1.name)).Nodup) (h : e ∈ es) :
    get? es e.1.name = some e.2 := by
  induction es with
  | nil => contradiction
  | cons f es ih =>
    rw [List.map_cons, List.nodup_cons] at hnodup
    rcases List.mem_cons.1 h with rfl | h
    · simp [get?]
    · have hne : f.1.name ≠ e.1.name := fun heq ↦
        hnodup.1 (List.mem_map.2 ⟨e, h, heq.symm⟩)
      rw [← ih hnodup.2 h, get?, get?, List.find?_cons_of_neg (by simpa using hne)]

/-- A key that is new is different from those before it. -/
theorem nodup_append_singleton {key : Key} (hnodup : (es.map (·.1.name)).Nodup)
    (hnone : get? es key.name = none) : ((es ++ [(key, item)]).map (·.1.name)).Nodup := by
  rw [List.map_append, List.nodup_append]
  refine ⟨hnodup, by simp, fun name hname last hlast ↦ ?_⟩
  obtain rfl := List.mem_singleton.1 hlast
  rintro rfl
  exact get?_eq_none_iff.1 hnone hname

theorem names_replace (item : Item) :
    (replace es name item).map (·.1.name) = es.map (·.1.name) := by
  rw [replace, List.map_map]
  refine List.map_congr_left fun e _ ↦ ?_
  dsimp only [Function.comp]
  split <;> rfl

theorem get?_replace_of_ne {other : String} (h : name ≠ other) :
    get? (replace es other item) name = get? es name := by
  induction es with
  | nil => rfl
  | cons e es ih =>
    by_cases hname : e.1.name = name
    · simp [replace, get?, hname, h]
    · simpa [replace, get?, hname, apply_ite] using ih

theorem get?_replace_self (h : (get? es name).isSome = true) :
    get? (replace es name item) name = some item := by
  induction es with
  | nil => contradiction
  | cons e es ih =>
    by_cases hname : e.1.name = name
    · simp [replace, get?, hname]
    · simpa [replace, get?, hname] using ih (by simpa [get?, hname] using h)

/-! ### Putting one item in its place -/

/-- There is room under a key: where it leads, nothing stands but tables that keys go through. -/
def Free : List String → Entries → Prop
  | [], _ => False
  | name :: names, es =>
    ∀ item, get? es name = some item → ∃ inner, item = .table .dotted inner ∧ Free names inner

theorem free_of_get?_eq_none {names : List String} (h : get? es name = none) :
    Free (name :: names) es := by
  intro item hitem
  rw [h] at hitem
  contradiction

theorem free_nil {names : List String} (h : names ≠ []) : Free names [] := by
  obtain ⟨name, names, rfl⟩ := List.exists_cons_of_ne_nil h
  exact free_of_get?_eq_none rfl

theorem free_singleton_iff : Free [name] es ↔ get? es name = none := by
  refine ⟨fun h ↦ Option.eq_none_iff_forall_ne_some.2 fun item hitem ↦ ?_, free_of_get?_eq_none⟩
  obtain ⟨_, -, hnothing⟩ := h item hitem
  exact hnothing

/-- An item comes to stand under a key, behind a path. -/
inductive Puts (key : Key) (item : Item) : List Key → Entries → Entries → Prop
  | last {es : Entries} (h : get? es key.name = none) :
    Puts key item [] es (es ++ [(key, item)])
  | make {k : Key} {path : List Key} {es inner : Entries} (h : get? es k.name = none)
    (hinner : Puts key item path [] inner) :
    Puts key item (k :: path) es (es ++ [(k, .table .dotted inner)])
  | enter {k : Key} {path : List Key} {es inner inner' : Entries}
    (h : get? es k.name = some (.table .dotted inner)) (hinner : Puts key item path inner inner') :
    Puts key item (k :: path) es (replace es k.name (.table .dotted inner'))

/-- Where there is room, an item finds its place. -/
theorem exists_puts {key : Key} {item : Item} {path : List Key} {es : Entries}
    (h : Free (path.map (·.name) ++ [key.name]) es) :
    ∃ es', Puts key item path es es' ∧ insert? es path key item = some es' := by
  -- the change asks for a table of dotted keys at the end of a path, so it is told of one there
  suffices hway : ∀ (rest : List Key) (isDotted : Bool) (es : Entries),
      (path = [] ∨ rest ≠ [] ∨ isDotted = true) → Free (rest.map (·.name) ++ [key.name]) es →
      ∃ es', Puts key item rest es es' ∧
        modify? .dotted (fun isDotted inner ↦
          if !path.isEmpty && !isDotted then none else add? inner key item) rest isDotted es =
        some es' by
    refine hway path false es ?_ h
    cases path <;> simp
  intro rest
  induction rest with
  | nil =>
    intro isDotted es hlast hfree
    have hnone : get? es key.name = none := free_singleton_iff.1 hfree
    refine ⟨_, .last hnone, ?_⟩
    rw [modify?, if_neg, add?, hnone]
    · rfl
    · rcases hlast with rfl | h | rfl
      · simp
      · exact absurd rfl h
      · simp
  | cons k rest ih =>
    intro isDotted es _ hfree
    cases hget : get? es k.name with
    | none =>
      obtain ⟨inner, hinner, hchange⟩ := ih true [] (by simp) (free_nil (by simp))
      refine ⟨_, .make hget hinner, ?_⟩
      rw [modify?, hget]
      exact congrArg (Option.bind · _) hchange
    | some found =>
      obtain ⟨inner, rfl, hinside⟩ := hfree found hget
      obtain ⟨inner', hinner, hchange⟩ := ih true inner (by simp) hinside
      refine ⟨_, .enter hget hinner, ?_⟩
      rw [modify?, hget]
      exact congrArg (Option.bind · _) hchange

namespace Puts

variable {key : Key} {path : List Key} (h : Puts key item path es es')
include h

/-- Keys that do not begin alike keep what they had. -/
theorem get?_of_head?_ne (hname : (path.map (·.name) ++ [key.name]).head? ≠ some name) :
    get? es' name = get? es name := by
  cases h with
  | last hnone =>
    rw [get?_append, get?_singleton_of_ne (by simpa [eq_comm] using hname), Option.or_none]
  | make hnone _ =>
    rw [get?_append, get?_singleton_of_ne (by simpa [eq_comm] using hname), Option.or_none]
  | enter hget _ => exact get?_replace_of_ne (by simpa [eq_comm] using hname)

theorem get?_self (hpath : path = []) : get? es' key.name = some item := by
  cases h with
  | last hnone => rw [get?_append, hnone, get?_singleton_self, Option.none_or]
  | make => contradiction
  | enter => contradiction

theorem nodup (hnodup : (es.map (·.1.name)).Nodup) : (es'.map (·.1.name)).Nodup := by
  cases h with
  | last hnone => exact nodup_append_singleton hnodup hnone
  | make hnone _ => exact nodup_append_singleton hnodup hnone
  | enter => rwa [names_replace]

/-- There is room left under all keys that are apart. -/
theorem free {names : List String} (hapart : Apart (path.map (·.name) ++ [key.name]) names)
    (hfree : Free names es) : Free names es' := by
  induction h generalizing names with
  | @last es hnone =>
    obtain ⟨name, names, rfl⟩ := List.exists_cons_of_ne_nil hapart.symm.left_ne_nil
    intro item hitem
    refine hfree item ?_
    rw [← hitem, get?_of_head?_ne (.last hnone)]
    exact Ne.symm (apart_singleton_iff.1 hapart).2
  | @make k path es inner hnone hinner ih =>
    obtain ⟨name, names, rfl⟩ := List.exists_cons_of_ne_nil hapart.symm.left_ne_nil
    intro item hitem
    by_cases hname : k.name = name
    · subst hname
      rw [get?_append, hnone, Option.none_or, get?_singleton_self] at hitem
      obtain rfl := Option.some.inj hitem
      have hrest := hapart.of_cons
      exact ⟨inner, rfl, ih hrest (free_nil hrest.symm.left_ne_nil)⟩
    · refine hfree item ?_
      rw [← hitem, get?_of_head?_ne (.make hnone hinner)]
      simpa using hname
  | @enter k path es inner inner' hget hinner ih =>
    obtain ⟨name, names, rfl⟩ := List.exists_cons_of_ne_nil hapart.symm.left_ne_nil
    intro item hitem
    by_cases hname : k.name = name
    · subst hname
      rw [get?_replace_self (by simp [hget])] at hitem
      obtain rfl := Option.some.inj hitem
      obtain ⟨inner₀, htable, hinside⟩ := hfree _ hget
      obtain ⟨-, rfl⟩ := Item.table.inj htable
      exact ⟨inner', rfl, ih hapart.of_cons hinside⟩
    · refine hfree item ?_
      rw [← hitem, get?_of_head?_ne (.enter hget hinner)]
      simpa using hname

end Puts

/-! ### Putting one setting after the other in its place -/

/-- Settings come to stand under their keys, one after the other. -/
inductive Fills : Entries → List Setting → Entries → Prop
  | nil (es : Entries) : Fills es [] es
  | cons {s : Setting} {ss : List Setting} {es es' es'' : Entries}
    (h : Puts s.key s.item s.path es es') (hrest : Fills es' ss es'') : Fills es (s :: ss) es''

/-- **Settings under keys that are apart all find their place.** -/
theorem exists_fills {ss : List Setting} {es : Entries} (hfree : ∀ s ∈ ss, Free s.names es)
    (hapart : (ss.map Setting.names).Pairwise Apart) :
    ∃ es', Fills es ss es' ∧ fill? es ss = some es' := by
  induction ss generalizing es with
  | nil => exact ⟨es, .nil es, rfl⟩
  | cons s ss ih =>
    rw [List.forall_mem_cons] at hfree
    rw [List.map_cons, List.pairwise_cons] at hapart
    obtain ⟨es', hputs, hinsert⟩ : ∃ es', Puts s.key s.item s.path es es' ∧
        insert? es s.path s.key s.item = some es' := exists_puts hfree.1
    have hroom : ∀ t ∈ ss, Free t.names es' := fun t ht ↦
      hputs.free (hapart.1 _ (List.mem_map_of_mem ht)) (hfree.2 t ht)
    obtain ⟨es'', hrest, hfill⟩ := ih hroom hapart.2
    refine ⟨es'', .cons hputs hrest, ?_⟩
    rw [fill?, List.foldlM_cons, hinsert]
    exact hfill

/-- An empty table has room for all settings whose keys are apart. -/
theorem exists_fills_nil {ss : List Setting} (hapart : (ss.map Setting.names).Pairwise Apart) :
    ∃ es, Fills [] ss es ∧ fill? [] ss = some es :=
  exists_fills (fun s _ ↦ free_nil (by simp [Setting.names])) hapart

namespace Fills

variable {ss : List Setting} (h : Fills es ss es')
include h

theorem nodup (hnodup : (es.map (·.1.name)).Nodup) : (es'.map (·.1.name)).Nodup := by
  induction h with
  | nil => exact hnodup
  | cons hputs _ ih => exact ih (hputs.nodup hnodup)

/-- A key that no setting begins with keeps what it had. -/
theorem get?_of_head?_ne (hname : ∀ s ∈ ss, s.names.head? ≠ some name) :
    get? es' name = get? es name := by
  induction h with
  | nil => rfl
  | cons hputs _ ih =>
    rw [List.forall_mem_cons] at hname
    rw [ih hname.2, hputs.get?_of_head?_ne hname.1]

/-- A key of one part has its value. -/
theorem get?_of_mem {s : Setting} (hapart : (ss.map Setting.names).Pairwise Apart) (hs : s ∈ ss)
    (hpath : s.path = []) : get? es' s.key.name = some s.item := by
  induction h with
  | nil => contradiction
  | @cons t ss es es' es'' hputs hrest ih =>
    rw [List.map_cons, List.pairwise_cons] at hapart
    rcases List.mem_cons.1 hs with rfl | hs
    · rw [hrest.get?_of_head?_ne, hputs.get?_self hpath]
      intro t ht
      have hfirst := hapart.1 _ (List.mem_map_of_mem ht)
      rw [Setting.names, hpath] at hfirst
      exact (apart_singleton_iff.1 hfirst).2
    · exact ih hapart.2 hs

end Fills

end Entries

end TracedFibonacci.Toml
