import TracedFibonacci.Run.Iteration

/-!
# A run

A run repeats iterations until one of them ends it or it finds itself cancelled. The iterations of a
run are numbered from one; the lines of the reader go on from run to run.

A run ends without an error only when it was cancelled, and says so in the log: by the number of the
iteration whose wait it gave up, or by the number of iterations it completed.
-/

namespace TracedFibonacci

/-- What a run comes to. -/
structure Finish where
  /-- How it ends. -/
  ending : Ending
  /-- What it leaves for another run. -/
  state : State
  /-- What can be seen of it. -/
  activity : Activity

namespace Finish

/-- The same, after more that can be seen. -/
def after (a : Activity) (r : Finish) : Finish := { r with activity := a ++ r.activity }

end Finish

namespace Run

/-- Goes on after `k` iterations. -/
def loop (setup : Setup) (k : Nat) (st : State) : Finish :=
  if st.clock.cancelled then ⟨.cancelled, st, .ofTrace [.logged [.run] (.cancelled k)]⟩
  else
    let r := Iteration.run setup (k + 1) st
    match h : r.conclusion with
    | .reported =>
      have := Iteration.size_lt_of_reported h
      (loop setup (k + 1) r.state).after r.activity
    | .ended .cancelled =>
      ⟨.cancelled, r.state,
        r.activity ++ .ofTrace [.logged [.run] (.cancelledWhilePolling (k + 1))]⟩
    | .ended e => ⟨e, r.state, r.activity⟩
termination_by st.reader.source.size

/-- A run from its beginning, in its span. -/
def start (setup : Setup) (st : State) : Finish :=
  let r := loop setup 0 st
  { r with
    ending := (r.ending.leave .run).1
    activity := .ofTrace [.opened .run] ++ r.activity ++ .ofTrace (r.ending.leave .run).2 }

end Run

end TracedFibonacci
