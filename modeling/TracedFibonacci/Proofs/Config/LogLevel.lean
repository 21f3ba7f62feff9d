import TracedFibonacci.Proofs.Config.Validation
import TracedFibonacci.Proofs.Log.Filter

/-!
# The filter of a start

The level of the log is a text, whoever gives it. Validation judges it, and much later a filter is
read from a text that is put together with it. A directive that is none would be left out there
without a word, and with it the program would show errors only.

This does not happen in a start, because what validation lets through is the name of a level in any
letters, and each of the five names makes a directive (`Filter.read?_own`). So the filter of a start
has just this directive, unless the environment has a filter of its own; and then the level plays no
part at all (`Plan.filter_of_resolve`).
-/

namespace TracedFibonacci

namespace Filter

/-- The filter has one directive, which lets through what this program says up to the level `l`. -/
structure IsFor (f : Filter) (l : Level) : Prop where
  /-- For targets there is just that directive. -/
  targets : f.targets = [{ target? := some ownTarget.toList, threshold := .upTo l }]
  /-- For spans there is none. -/
  spans : f.spans = []
  /-- It is written as the target and the level. -/
  text : f.text = "fib_observer=" ++ l.name
  /-- Nothing beyond the level passes anywhere. -/
  ceiling : f.ceiling = .upTo l
  /-- All of that text makes the filter, with nothing left out. -/
  read : read? ("fib_observer=" ++ l.name) = some f
  /-- It is not the filter that remains when everything is left out. -/
  not_remains : f ≠ ofDirectives [{ threshold := .upTo .error }]

theorem isFor_own (l : Level) : (own (.upTo l)).IsFor l where
  targets := rfl
  spans := rfl
  text := by cases l <;> decide +kernel
  ceiling := by cases l <;> rfl
  read := read?_own l
  not_remains h := by
    have hwanted : [some ownTarget.toList] = [none] :=
      congrArg (fun f ↦ f.targets.map Directive.target?) h
    exact absurd (List.cons.inj hwanted).1 (Option.some_ne_none _)

/-- A text of the environment that is no filter counts as none. -/
theorem ofEnvironment_of_unreadable {filter? : Option String} {level : String} {l : Level}
    (hfilter : ∀ text, filter? = some text → read? text = none) (h : Level.ofName? level = some l) :
    ofEnvironment filter? level = own (.upTo l) := by
  have hnone : filter?.bind read? = none := by
    cases filter? with
    | none => rfl
    | some text => exact hfilter text rfl
  rw [ofEnvironment, hnone, Option.getD_none, ofLevel_eq h]

end Filter

/-- Valid settings have a level. -/
theorem Settings.Valid.exists_level {s : Settings} (h : s.Valid) :
    ∃ l, Level.ofName? s.telemetry.logLevel = some l := by
  cases hl : Level.ofName? s.telemetry.logLevel with
  | none => exact absurd h.level (Level.isNone_ofName?_iff.1 (by rw [hl]; rfl))
  | some l => exact ⟨l, rfl⟩

namespace Plan

/-- **The filter of a start.** Whatever the sources of its settings are, the level of a plan is one
of five names, in any letters. If there is no filter in the environment, or a text that is none,
then the filter of the log is the one for this level; and if there is one, it is the filter of the
log with any level. -/
theorem filter_of_resolve {files : Files} {env : Environment} {o : Options} {plan : Plan}
    (h : resolve files env o = .ok plan) :
    ∃ l : Level, l.name ∈ ["trace", "debug", "info", "warn", "error"] ∧
      String.ofList (plan.settings.telemetry.logLevel.toList.map Char.toLower) = l.name ∧
      (∀ filter? : Option String, (∀ text, filter? = some text → Filter.read? text = none) →
        (Filter.ofEnvironment filter? plan.settings.telemetry.logLevel).IsFor l) ∧
      ∀ text f, Filter.read? text = some f →
        ∀ level, Filter.ofEnvironment (some text) level = f := by
  obtain ⟨l, hl⟩ := (resolve_eq_ok h).1.exists_level
  refine ⟨l, by cases l <;> decide, Level.lower_of_ofName? hl, fun filter? hfilter ↦ ?_,
    fun text f hread level ↦ ?_⟩
  · rw [Filter.ofEnvironment_of_unreadable hfilter hl]
    exact Filter.isFor_own l
  · rw [Filter.ofEnvironment, Option.bind_some, hread, Option.getD_some]

/-- A level in letters of both sizes, given on the command line, and a text in the environment that
is no filter. -/
theorem filter_of_resolve_mixed :
    let o : Options := { logLevel? := some "WaRn" }
    let text := "fib_observer=loud"
    ∃ plan, resolve (fun _ ↦ .missing) (fun _ ↦ none) o = .ok plan ∧
      plan.settings.telemetry.logLevel = "WaRn" ∧ Filter.read? text = none ∧
      (Filter.ofEnvironment (some text) plan.settings.telemetry.logLevel).IsFor .warn := by
  intro o text
  have hsettings : (resolve (fun _ ↦ .missing) (fun _ ↦ none) o).map settings =
      .ok { telemetry := { logLevel := "WaRn" } } :=
    (map_settings_resolve _ _ _).trans (by decide +kernel)
  have hread : Filter.read? text = none := by decide +kernel
  cases hplan : resolve (fun _ ↦ .missing) (fun _ ↦ none) o with
  | error e =>
    rw [hplan] at hsettings
    contradiction
  | ok plan =>
    rw [hplan] at hsettings
    have hlevel : plan.settings.telemetry.logLevel = "WaRn" := by rw [Except.ok.inj hsettings]
    obtain ⟨l, -, hname, hfilter, -⟩ := filter_of_resolve hplan
    obtain rfl : l = .warn := by
      rw [hlevel] at hname
      revert hname
      cases l <;> decide
    exact ⟨plan, rfl, hlevel, hread, hfilter _ fun _ htext ↦ Option.some.inj htext ▸ hread⟩

end Plan

end TracedFibonacci
