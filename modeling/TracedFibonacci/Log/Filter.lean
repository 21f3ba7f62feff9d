import TracedFibonacci.Log.Directive

/-!
# Log filters

A filter decides which spans and events are shown. It consists of directives, and the most specific
one that selects an event decides. Directives that look at spans work on what is inside of them too:
a span that one of them selects is always shown, and it sets a threshold for all that happens inside
of it.

The filter of the log comes from the environment, where it is written as directives with commas
between them. Without one, or if that is none, the level of the settings decides, for the targets of
this program.
-/

namespace TracedFibonacci

open Text

/-- A filter for spans and events. -/
structure Filter where
  /-- The directives that select by target, in the order in which they are asked. -/
  targets : List Directive
  /-- The directives that look at spans. -/
  spans : List Directive
  /-- What passes at most, anywhere. -/
  ceiling : Threshold
  deriving Repr, DecidableEq

namespace Filter

/-- The filter of some directives. Of two that select the same the later counts. -/
def ofDirectives (ds : List Directive) : Filter :=
  let spans := ds.filter (·.seesSpans)
  let targets := ds.filter (!·.seesSpans) ++ spans.filter (·.seesTargets)
  { targets := targets.foldl (fun es d ↦ d.insert es) []
    spans := spans.foldl (fun es d ↦ d.insert es) []
    ceiling :=
      -- values are known only inside of a span, so nothing can be ruled out beforehand
      if spans.any (·.seesValues) then .upTo .trace
      else Threshold.join (ds.map (·.threshold)) }

/-- The directives of a filter, with commas between them. -/
def text (f : Filter) : String :=
  String.intercalate "," ((f.targets ++ f.spans).map Directive.text)

/-- The pieces between commas, without the empty ones. -/
def pieces (s : String) : List (List Char) := (s.toList.splitOn ',').filter (!·.isEmpty)

/-- Reads a filter, of which every directive has to be one. -/
def read? (s : String) : Option Filter := ((pieces s).mapM Directive.read?).map ofDirectives

/-- Reads a filter and leaves out what is no directive. When nothing remains, errors pass. -/
def readLeniently (s : String) : Filter :=
  match (pieces s).filterMap Directive.read? with
  | [] => ofDirectives [{ threshold := .upTo .error }]
  | ds => ofDirectives ds

/-- How the targets of this program begin. -/
def ownTarget : String := "fib_observer"

/-- The filter that a level of the settings means. -/
def ofLevel (level : String) : Filter :=
  readLeniently (ownTarget ++ "=" ++ String.ofList (level.toList.map Char.toLower))

/-- The variable of the environment that holds a filter. -/
def variableName : String := "RUST_LOG"

/-- The filter of the log: the one of the environment, or else that of the level. -/
def ofEnvironment (filter? : Option String) (level : String) : Filter :=
  (filter?.bind read?).getD (ofLevel level)

/-- The filter of the spans that are exported, which does not depend on the log. -/
def exported : Filter :=
  ofDirectives [{ target? := some ownTarget.toList, threshold := .upTo .info }]

/-- Whether something of a target passes, by its target and its level alone. -/
def admitsTarget (f : Filter) (target : String) (level : Level) : Bool :=
  match f.targets.find? fun d ↦ d.selectsTarget target && d.fields.isEmpty with
  | some d => d.threshold.admits level
  | none => false

/-- The threshold that a filter sets inside a span, if it selects the span. -/
def within? (f : Filter) (s : Span) : Option Threshold :=
  match f.spans.filter (·.selectsSpan s) with
  | [] => none
  -- a span whose fields have other values is selected all the same, with nothing to pass in it
  | ds => some (.join ((ds.filter fun d ↦ d.fields.all (·.holds s.fields)).map (·.threshold)))

/-- The thresholds that a filter sets inside some spans. -/
def scope (f : Filter) (spans : List Span) : List Threshold := spans.filterMap f.within?

/-- Whether a span inside some others is shown. -/
def showsSpan (f : Filter) (around : List Span) (s : Span) : Bool :=
  (f.within? s).isSome || (f.scope around).any (·.admits Span.level) ||
    match f.targets.find? (·.selectsTarget Span.target) with
    | some d => d.threshold.admits Span.level
    | none => false

/-- Whether an event inside some spans is shown. -/
def showsEvent (f : Filter) (around : List Span) (e : Event) : Bool :=
  (f.scope around).any (·.admits e.level) ||
    match f.targets.find? fun d ↦
      d.selectsTarget e.target &&
        d.fields.all (·.isAmong (⟨"message", .plain e.message⟩ :: e.fields)) with
    | some d => d.threshold.admits e.level
    | none => false

/-- Those of some spans that are shown, where each is inside the ones before it. -/
def shownSpans (f : Filter) (spans : List Span) : List Span :=
  (List.range spans.length).filterMap fun i ↦
    spans[i]?.filter fun s ↦ f.showsSpan (spans.take i) s

end Filter

end TracedFibonacci
