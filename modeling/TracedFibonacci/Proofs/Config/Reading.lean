import TracedFibonacci.Config.Shape
import Mathlib.Data.List.Basic

/-!
# What a document says about a setting

Reading a group of settings goes through the items of a table or an array, and each of them changes
what is there so far. Here it is turned around: a setting has the value of the item that stands for
it, or is left as it was when there is none.

## Table and array alike

`Group.items` lists what is there for the settings of a group by name, whether the names are the
keys of a table or follow from the place in an array, and `Group.Reads` says how one item after the
other is taken. A successful reading of either form is one of these (`reads_of_read`).

## One setting

`Group.Governs` says that a name stands for one setting and leaves the others alone. The last item
under the name then tells the setting (`Governs.get_eq`), by induction on what is read. That the
names of this program each stand for their setting is the last part.
-/

namespace TracedFibonacci.Shape

open Toml

/-- Pointing an error at a place makes no difference to a success. -/
theorem located_eq_ok {α : Type} {span? : Option Span} {x : Read α} {a : α} :
    located span? x = .ok a ↔ x = .ok a := by
  cases x <;> simp [located]

namespace Group

variable {α β : Type}

/-- The items that are there for the settings of a group, each with the name of its setting. -/
def items (g : Group α) : Item → List (String × Item)
  | .table _ es => es.map fun e ↦ (e.1.name, e.2)
  | .array _ xs => (g.fields.map (·.1)).zip xs
  | .tables xs => (g.fields.map (·.1)).zip (xs.map fun t ↦ .table (.header t.1) t.2)
  | .scalar .. => []

/-- The item for the setting of a name, the last one if there are several. -/
def item? (g : Group α) (name : String) (item : Item) : Option Item :=
  (g.items item).reverse.lookup name

/-- What an item says about the setting of a name, whose own items are read by `read`. -/
def value? (g : Group α) (name : String) (read : Item → Read β) (item : Item) : Option β :=
  (g.item? name item).bind fun x ↦ (read x).toOption

/-- One item after the other is taken for the setting of its name, if there is such a setting. -/
inductive Reads (g : Group α) : α → List (String × Item) → α → Prop
  | nil (a : α) : Reads g a [] a
  | pass {a b : α} {name : String} {item : Item} {xs : List (String × Item)}
    (hname : ∀ f ∈ g.fields, f.1 ≠ name) (h : Reads g a xs b) : Reads g a ((name, item) :: xs) b
  | set {a a' b : α} {f : String × (α → Item → Read α)} {item : Item} {xs : List (String × Item)}
    (hf : f ∈ g.fields) (hset : f.2 a item = .ok a') (h : Reads g a' xs b) :
    Reads g a ((f.1, item) :: xs) b

theorem reads_of_entries {g : Group α} {a b : α} {es : Entries} (h : g.entries a es = .ok b) :
    g.Reads a (es.map fun e ↦ (e.1.name, e.2)) b := by
  rw [entries] at h
  induction es generalizing a with
  | nil =>
    obtain rfl := Except.ok.inj h
    exact .nil a
  | cons e es ih =>
    rw [List.foldlM_cons] at h
    cases hentry : g.entry a e with
    | error _ =>
      rw [hentry] at h
      contradiction
    | ok a' =>
      rw [hentry] at h
      rw [entry] at hentry
      cases hfind : g.fields.find? (·.1 == e.1.name) with
      | none =>
        rw [hfind] at hentry
        obtain rfl := Except.ok.inj hentry
        exact .pass (by simpa using hfind) (ih h)
      | some f =>
        rw [hfind] at hentry
        have hname : f.1 = e.1.name := by simpa using List.find?_some hfind
        rw [List.map_cons, ← hname]
        exact .set (List.mem_of_find?_eq_some hfind) (located_eq_ok.1 hentry) (ih h)

theorem reads_of_inOrder {g : Group α} {a b : α} {xs : List Item} (h : g.inOrder a xs = .ok b) :
    g.Reads a ((g.fields.map (·.1)).zip xs) b := by
  rw [inOrder] at h
  -- the names are those of the settings that are left, and all of these belong to the group
  suffices hrest : ∀ fs ⊆ g.fields, ∀ a xs,
      (fs.zip xs).foldlM (fun a x ↦ x.1.2 a x.2) a = .ok b →
        g.Reads a ((fs.map (·.1)).zip xs) b from hrest _ (List.Subset.refl _) a xs h
  intro fs
  induction fs with
  | nil =>
    intro _ a xs h
    obtain rfl := Except.ok.inj h
    exact .nil a
  | cons f fs ih =>
    intro hsub a xs h
    cases xs with
    | nil =>
      obtain rfl := Except.ok.inj h
      exact .nil a
    | cons x xs =>
      rw [List.zip_cons_cons, List.foldlM_cons] at h
      cases hset : f.2 a x with
      | error _ =>
        rw [hset] at h
        contradiction
      | ok a' =>
        rw [hset] at h
        exact .set (hsub List.mem_cons_self) hset
          (ih (List.cons_subset.1 hsub).2 a' xs h)

/-- **A successful reading** takes one item after the other. -/
theorem reads_of_read {g : Group α} {a b : α} {item : Item} (h : g.read a item = .ok b) :
    g.Reads a (g.items item) b := by
  replace h := located_eq_ok.1 h
  cases item with
  | table _ es => exact reads_of_entries h
  | array _ xs => exact reads_of_inOrder h
  | tables xs => exact reads_of_inOrder h
  | scalar _ s =>
    cases s with
    | moment =>
      obtain rfl := Except.ok.inj h
      exact .nil a
    | _ => contradiction

/-! ### One setting -/

/-- The name stands for the setting that `get` gives, whose items are read by `read`, and no other
name changes that setting. -/
structure Governs (g : Group α) (name : String) (read : Item → Read β) (get : α → β) : Prop where
  /-- There is a setting of that name. -/
  known : ∃ f ∈ g.fields, f.1 = name
  /-- An item under that name tells the setting. -/
  own : ∀ f ∈ g.fields, f.1 = name → ∀ a item b, f.2 a item = .ok b → read item = .ok (get b)
  /-- An item under another name does not change it. -/
  other : ∀ f ∈ g.fields, f.1 ≠ name → ∀ a item b, f.2 a item = .ok b → get b = get a

namespace Governs

variable {g : Group α} {name : String} {read : Item → Read β} {get : α → β} {a b : α}

/-- The last item under a name tells the setting. -/
theorem read_lookup (h : g.Governs name read get) {xs : List (String × Item)}
    (hr : g.Reads a xs b) :
    match xs.reverse.lookup name with
    | some item => read item = .ok (get b)
    | none => get b = get a := by
  induction hr with
  | nil a => rfl
  | @pass a b name' item xs hname _ ih =>
    obtain ⟨f, hf, rfl⟩ := h.known
    have hlast : ([(name', item)] : List (String × Item)).lookup f.1 = none := by
      rw [List.lookup_cons, beq_false_of_ne (hname f hf)]
      rfl
    rwa [List.reverse_cons, List.lookup_append, hlast, Option.or_none]
  | @set a a' b f item xs hf hset _ ih =>
    rw [List.reverse_cons, List.lookup_append]
    cases hlater : xs.reverse.lookup name with
    | some later =>
      rw [hlater] at ih
      exact ih
    | none =>
      rw [hlater] at ih
      rw [Option.none_or]
      by_cases hname : f.1 = name
      · subst hname
        rw [List.lookup_cons_self]
        exact (h.own f hf rfl a item a' hset).trans (congrArg _ ih.symm)
      · have hlast : ([(f.1, item)] : List (String × Item)).lookup name = none := by
          rw [List.lookup_cons, beq_false_of_ne (Ne.symm hname)]
          rfl
        rw [hlast]
        exact ih.trans (h.other f hf hname a item a' hset)

/-- **A setting is what the document says**, or what it was before. -/
theorem get_eq (h : g.Governs name read get) {item : Item} (hr : g.read a item = .ok b) :
    get b = (g.value? name read item).getD (get a) := by
  have hlast := h.read_lookup (reads_of_read hr)
  rw [value?, item?]
  cases hitem : (g.items item).reverse.lookup name with
  | none =>
    rw [hitem] at hlast
    exact hlast
  | some x =>
    rw [hitem] at hlast
    dsimp only at hlast
    rw [Option.bind_some, hlast]
    rfl

/-- A setting of a group inside a group, which is read with the defaults that were there. -/
theorem get_eq_nested {γ : Type} {inner : Group β} {name' : String} {read' : Item → Read γ}
    {get' : β → γ} {defaults : β} (h : g.Governs name (inner.read defaults) get)
    (h' : inner.Governs name' read' get') {item : Item} (hr : g.read a item = .ok b)
    (ha : get a = defaults) :
    get' (get b) = ((g.item? name item).bind (inner.value? name' read')).getD (get' defaults) := by
  have hlast := h.read_lookup (reads_of_read hr)
  rw [item?]
  cases hitem : (g.items item).reverse.lookup name with
  | none =>
    rw [hitem] at hlast
    exact congrArg get' (hlast.trans ha)
  | some x =>
    rw [hitem] at hlast
    exact h'.get_eq hlast

/-- It is enough to go through the settings of the group. -/
theorem of_forall (hknown : name ∈ g.fields.map (·.1))
    (h : ∀ f ∈ g.fields, ∀ a item b, f.2 a item = .ok b →
      if f.1 = name then read item = .ok (get b) else get b = get a) :
    g.Governs name read get where
  known := List.mem_map.1 hknown
  own f hf hname a item b hset := (if_pos hname).mp (h f hf a item b hset)
  other f hf hname a item b hset := (if_neg hname).mp (h f hf a item b hset)

end Governs

end Group

/-! ### The settings of the program -/

/-- A setting that is read and put in place has been read. -/
theorem eq_of_put {α β : Type} {x : Read β} {put : β → α} {b : α}
    (h : (do return put (← x) : Read α) = .ok b) : ∃ v, x = .ok v ∧ b = put v := by
  cases x with
  | error e => contradiction
  | ok v => exact ⟨v, rfl, (Except.ok.inj h).symm⟩

section Telemetry

variable {f : String × (TelemetrySettings → Item → Read TelemetrySettings)}
  {a b : TelemetrySettings} {item : Item}

/-- What an item can do to the settings of telemetry. -/
theorem telemetry_cases (hf : f ∈ telemetry.fields) (h : f.2 a item = .ok b) :
    (f.1 = "endpoint" ∧ ∃ v, string item = .ok v ∧ b = { a with endpoint? := some v }) ∨
    (f.1 = "metrics_address" ∧ ∃ v, string item = .ok v ∧ b = { a with metricsAddress := v }) ∨
    (f.1 = "log_level" ∧ ∃ v, string item = .ok v ∧ b = { a with logLevel := v }) ∨
    (f.1 = "json_logs" ∧ ∃ v, boolean item = .ok v ∧ b = { a with jsonLogs := v }) := by
  simp only [telemetry, List.mem_cons, List.not_mem_nil, or_false] at hf
  rcases hf with rfl | rfl | rfl | rfl
  · exact .inl ⟨rfl, eq_of_put h⟩
  · exact .inr (.inl ⟨rfl, eq_of_put h⟩)
  · exact .inr (.inr (.inl ⟨rfl, eq_of_put h⟩))
  · exact .inr (.inr (.inr ⟨rfl, eq_of_put h⟩))

theorem governs_endpoint :
    telemetry.Governs "endpoint" (fun x ↦ (string x).map some) (·.endpoint?) := by
  refine .of_forall (by simp [telemetry]) fun f hf a item b h ↦ ?_
  rcases telemetry_cases hf h with ⟨hn, v, hv, rfl⟩ | ⟨hn, v, hv, rfl⟩ | ⟨hn, v, hv, rfl⟩ |
    ⟨hn, v, hv, rfl⟩ <;> simp [hn, hv, Except.map]

theorem governs_metricsAddress : telemetry.Governs "metrics_address" string (·.metricsAddress) := by
  refine .of_forall (by simp [telemetry]) fun f hf a item b h ↦ ?_
  rcases telemetry_cases hf h with ⟨hn, v, hv, rfl⟩ | ⟨hn, v, hv, rfl⟩ | ⟨hn, v, hv, rfl⟩ |
    ⟨hn, v, hv, rfl⟩ <;> simp [hn, hv]

theorem governs_logLevel : telemetry.Governs "log_level" string (·.logLevel) := by
  refine .of_forall (by simp [telemetry]) fun f hf a item b h ↦ ?_
  rcases telemetry_cases hf h with ⟨hn, v, hv, rfl⟩ | ⟨hn, v, hv, rfl⟩ | ⟨hn, v, hv, rfl⟩ |
    ⟨hn, v, hv, rfl⟩ <;> simp [hn, hv]

theorem governs_jsonLogs : telemetry.Governs "json_logs" boolean (·.jsonLogs) := by
  refine .of_forall (by simp [telemetry]) fun f hf a item b h ↦ ?_
  rcases telemetry_cases hf h with ⟨hn, v, hv, rfl⟩ | ⟨hn, v, hv, rfl⟩ | ⟨hn, v, hv, rfl⟩ |
    ⟨hn, v, hv, rfl⟩ <;> simp [hn, hv]

end Telemetry

/-- What an item can do to the settings of the runner. -/
theorem runner_cases {f : String × (RunnerSettings → Item → Read RunnerSettings)}
    {a b : RunnerSettings} {item : Item} (hf : f ∈ runner.fields) (h : f.2 a item = .ok b) :
    (f.1 = "overflow" ∧ ∃ v, policy item = .ok v ∧ b = { a with overflow := v }) ∨
    (f.1 = "work_delay_us" ∧ ∃ v, word item = .ok v ∧ b = { a with workDelayUs := v }) := by
  simp only [runner, List.mem_cons, List.not_mem_nil, or_false] at hf
  rcases hf with rfl | rfl
  · exact .inl ⟨rfl, eq_of_put h⟩
  · exact .inr ⟨rfl, eq_of_put h⟩

theorem governs_overflow : runner.Governs "overflow" policy (·.overflow) := by
  refine .of_forall (by simp [runner]) fun f hf a item b h ↦ ?_
  rcases runner_cases hf h with ⟨hn, v, hv, rfl⟩ | ⟨hn, v, hv, rfl⟩ <;> simp [hn, hv]

theorem governs_workDelayUs : runner.Governs "work_delay_us" word (·.workDelayUs) := by
  refine .of_forall (by simp [runner]) fun f hf a item b h ↦ ?_
  rcases runner_cases hf h with ⟨hn, v, hv, rfl⟩ | ⟨hn, v, hv, rfl⟩ <;> simp [hn, hv]

/-- What an item can do to all settings. -/
theorem settings_cases {f : String × (Settings → Item → Read Settings)} {a b : Settings}
    {item : Item} (hf : f ∈ settings.fields) (h : f.2 a item = .ok b) :
    (f.1 = "service_name" ∧ ∃ v, string item = .ok v ∧ b = { a with serviceName := v }) ∨
    (f.1 = "telemetry" ∧ ∃ v, telemetry.read {} item = .ok v ∧ b = { a with telemetry := v }) ∨
    (f.1 = "runner" ∧ ∃ v, runner.read {} item = .ok v ∧ b = { a with runner := v }) := by
  simp only [settings, List.mem_cons, List.not_mem_nil, or_false] at hf
  rcases hf with rfl | rfl | rfl
  · exact .inl ⟨rfl, eq_of_put h⟩
  · exact .inr (.inl ⟨rfl, eq_of_put h⟩)
  · exact .inr (.inr ⟨rfl, eq_of_put h⟩)

theorem governs_serviceName : settings.Governs "service_name" string (·.serviceName) := by
  refine .of_forall (by simp [settings]) fun f hf a item b h ↦ ?_
  rcases settings_cases hf h with ⟨hn, v, hv, rfl⟩ | ⟨hn, v, hv, rfl⟩ | ⟨hn, v, hv, rfl⟩ <;>
    simp [hn, hv]

theorem governs_telemetry : settings.Governs "telemetry" (telemetry.read {}) (·.telemetry) := by
  refine .of_forall (by simp [settings]) fun f hf a item b h ↦ ?_
  rcases settings_cases hf h with ⟨hn, v, hv, rfl⟩ | ⟨hn, v, hv, rfl⟩ | ⟨hn, v, hv, rfl⟩ <;>
    simp [hn, hv]

theorem governs_runner : settings.Governs "runner" (runner.read {}) (·.runner) := by
  refine .of_forall (by simp [settings]) fun f hf a item b h ↦ ?_
  rcases settings_cases hf h with ⟨hn, v, hv, rfl⟩ | ⟨hn, v, hv, rfl⟩ | ⟨hn, v, hv, rfl⟩ <;>
    simp [hn, hv]

end TracedFibonacci.Shape
