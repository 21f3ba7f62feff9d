import TracedFibonacci.Run.Loop

/-!
# Runs one after the other

The reader outlives a run: when a run has ended, another can go on where it left off, and the
reports are counted through. What a run is cancelled by is its context. A cancelled context stays
cancelled, so a later run under it ends at once; a new context makes a fresh start possible. Whoever
holds a context can also cancel it later, in the middle of a run.
-/

namespace TracedFibonacci

/-- What is done next. -/
inductive Step where
  /-- A run under the current context. -/
  | run
  /-- The current context is cancelled. -/
  | cancel
  /-- The current context will be cancelled by somebody, so many milliseconds from now. -/
  | cancelIn (ms : Nat)
  /-- A new context takes the place of the current one. -/
  | newContext
  deriving Repr, DecidableEq

/-- What a step answers. -/
inductive StepResult where
  /-- How the run ended. -/
  | ran (e : Ending)
  /-- Whether the context was cancelled by this very step. -/
  | cancelled (first : Bool)
  /-- Nothing. -/
  | none
  deriving Repr, DecidableEq

/-- What a step comes to. -/
structure StepOutcome where
  /-- What it answers. -/
  result : StepResult
  /-- What can be seen of it. -/
  activity : Activity
  /-- Whether the current context is cancelled afterwards. -/
  cancelled : Bool

namespace Session

/-- One step. -/
def step (setup : Setup) (st : State) : Step → StepOutcome × State
  | .run =>
    let r := Run.start setup st
    (⟨.ran r.ending, r.activity, r.state.clock.cancelled⟩, r.state)
  | .cancel =>
    (⟨.cancelled !st.clock.cancelled, {}, true⟩, { st with clock := st.clock.cancel })
  | .cancelIn ms =>
    (⟨.none, {}, st.clock.cancelled⟩,
      { st with clock := { st.clock with due? := some (st.clock.now + ms), supervised := false } })
  | .newContext =>
    (⟨.none, {}, false⟩, { st with clock := { st.clock with due? := none, cancelled := false } })

/-- Step after step. -/
def steps (setup : Setup) (st : State) : List Step → List StepOutcome × State
  | [] => ([], st)
  | s :: rest =>
    let (o, st') := step setup st s
    let (os, st'') := steps setup st' rest
    (o :: os, st'')

/-- What was counted in the course of some steps. -/
def metrics (os : List StepOutcome) : Metrics :=
  Metrics.recordAll {} (os.flatMap (·.activity.marks))

end Session

end TracedFibonacci
