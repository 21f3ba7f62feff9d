import TracedFibonacci.Log.Filter

/-!
# The filter of a level

Without a filter in the environment, the level of the settings makes one. It has a single directive,
for the targets of this program (`Filter.ofLevel_eq`). The text that is put together for it can be
read as a filter, so nothing is left out of it (`Filter.readLeniently_of_read?`).

Everything that the program has to say comes from such a target, so nothing but the level of an
event decides whether it is shown, and the level of spans whether these are.
-/

namespace TracedFibonacci

/-- A level that is found by its name has this name, in lower case. -/
theorem Level.lower_of_ofName? {s : String} {l : Level} (h : ofName? s = some l) :
    String.ofList (s.toList.map Char.toLower) = l.name := by
  have hname := List.find?_some h
  exact (eq_of_beq hname).symm

namespace Filter

/-- The filter that lets through what a threshold does, from the targets of this program. -/
def own (t : Threshold) : Filter :=
  ofDirectives [{ target? := some ownTarget.toList, threshold := t }]

/-- What is read of each element is read of those that can be read. -/
theorem filterMap_of_mapM {α β : Type} {read? : α → Option β} {as : List α} {bs : List β}
    (h : as.mapM read? = some bs) : as.filterMap read? = bs := by
  induction as generalizing bs with
  | nil => simpa using h
  | cons a as ih =>
    rw [List.mapM_cons] at h
    obtain ⟨b, hb, h⟩ := Option.bind_eq_some_iff.1 h
    obtain ⟨rest, hrest, h⟩ := Option.bind_eq_some_iff.1 h
    rw [List.filterMap_cons_some hb, ih hrest]
    exact Option.some.inj h

/-- **Nothing is left out of a filter that can be read**, unless it is empty. -/
theorem readLeniently_of_read? {s : String} {f : Filter} (h : read? s = some f)
    (hne : f ≠ ofDirectives []) : readLeniently s = f := by
  rw [read?, Option.map_eq_some_iff] at h
  obtain ⟨ds, hds, rfl⟩ := h
  rw [readLeniently, filterMap_of_mapM hds]
  cases ds with
  | nil => exact absurd rfl hne
  | cons d ds => rfl

/-- A directive for the targets of this program can be read. -/
theorem read?_own (l : Level) : read? (ownTarget ++ "=" ++ l.name) = some (own (.upTo l)) := by
  cases l <;> decide +kernel

/-- **The filter of a level.** -/
theorem ofLevel_eq {s : String} {l : Level} (h : Level.ofName? s = some l) :
    ofLevel s = own (.upTo l) := by
  rw [ofLevel, Level.lower_of_ofName? h]
  exact readLeniently_of_read? (read?_own l) fun h ↦ List.cons_ne_nil _ _ (congrArg targets h)

/-- Without a filter in the environment the level decides. -/
theorem ofEnvironment_none {level : String} {l : Level} (h : Level.ofName? level = some l) :
    ofEnvironment none level = own (.upTo l) := by
  rw [ofEnvironment, Option.bind_none, Option.getD_none, ofLevel_eq h]

section Own

variable (t : Threshold) (around : List Span)

/-- A filter of one directive for targets sets nothing inside of spans. -/
theorem scope_own : (own t).scope around = [] := by
  induction around with
  | nil => rfl
  | cons s ss ih => exact ih

/-- Everything that the program says comes from one of its targets. -/
theorem isPrefixOf_target (e : Event) :
    ownTarget.toList.isPrefixOf e.target.toList = true := by
  cases e <;> dsimp only [Event.target] <;> decide

/-- **The level of an event decides whether it is shown.** -/
theorem showsEvent_own (e : Event) : (own t).showsEvent around e = t.admits e.level := by
  rw [showsEvent, scope_own]
  simp [own, ofDirectives, Directive.insert, Directive.seesSpans, Directive.selectsTarget,
    isPrefixOf_target]

/-- So does that of the spans. -/
theorem showsSpan_own (s : Span) : (own t).showsSpan around s = t.admits Span.level := by
  have htarget : ownTarget.toList.isPrefixOf Span.target.toList = true := by decide
  rw [showsSpan, scope_own]
  simp [own, ofDirectives, Directive.insert, Directive.seesSpans, Directive.selectsTarget,
    within?, htarget]

/-- A filter that shows spans shows all of them. -/
theorem shownSpans_own {t : Threshold} (h : t.admits Span.level = true) (ss : List Span) :
    (own t).shownSpans ss = ss := by
  have hall : (fun i ↦ ss[i]?.filter fun s ↦ (own t).showsSpan (ss.take i) s) = (ss[·]?) := by
    funext i
    cases ss[i]? <;> simp [showsSpan_own, h]
  rw [shownSpans, hall]
  clear hall
  induction ss with
  | nil => rfl
  | cons s ss ih => simpa [List.range_succ_eq_map, List.filterMap_map, Function.comp_def] using ih

end Own

end Filter

end TracedFibonacci
