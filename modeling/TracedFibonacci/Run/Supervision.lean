import TracedFibonacci.Run.Loop

/-!
# A run under supervision

A supervised run is a task of its own, raced against an interrupt. When the interrupt comes first,
the run is cancelled and has the grace period to wind down; after that it is stopped, and its
spans are closed last of all. Whatever it does in the grace period, the outcome is that it was
interrupted. When the run ends first, the outcome is how it ended.

An interrupt that is due at once comes before the run has started.
-/

namespace TracedFibonacci

/-- How a supervised run ended. -/
inductive Outcome where
  /-- An interrupt came first. -/
  | interrupted
  /-- The run ended on its own without an error. -/
  | completed
  /-- The run ended with an error. -/
  | failed (e : RunError)
  deriving Repr, DecidableEq

namespace Outcome

/-- The exit code of the program for an outcome. -/
def exitCode : Outcome → Nat
  | .interrupted => 0
  | .completed => 0
  | .failed _ => 1

/-- The outcome of a run that no interrupt preceded; there is none when the run never ends. -/
def ofEnding? : Ending → Option Outcome
  | .cancelled => some .completed
  | .failed e => some (.failed (.input e))
  | .broken => some (.failed (.task "task panicked"))
  | .stopped _ => some (.failed (.task "task was cancelled"))
  | .hung => none

end Outcome

/-- What a supervised run comes to. -/
structure Supervised where
  /-- How it ended, if it did. -/
  outcome? : Option Outcome
  /-- Whether its context is cancelled afterwards. -/
  cancelled : Bool
  /-- What can be seen of it. -/
  activity : Activity

namespace Supervision

/-- The clock at which a run starts: an interrupt that is due at once has come. -/
def startClock (interrupt? : Option Nat) (cancelled : Bool) : Clock :=
  match interrupt? with
  | some 0 => Clock.interruptAt 0 { cancelled }
  | due? => { due?, cancelled }

/-- What the supervisor has to say once an interrupted run has ended or was stopped. -/
def farewell : Ending → Trace
  | .stopped openSpans =>
    [.logged [] (.stillBusy Clock.graceMs), .logged [] .goodbye] ++ openSpans.map .closed
  | _ => [.logged [] .goodbye]

/-- The run of a task over a source of which so many lines were read before, with an interrupt at
the given time and a context that may be cancelled already. -/
def task (setup : Setup) (interrupt? : Option Nat) (cancelled : Bool) (source : Source)
    (lines : Nat) : Finish :=
  Run.start setup { reader := { source, lines }, clock := startClock interrupt? cancelled }

/-- Runs a task and waits for its end or for the interrupt, whichever comes first. -/
def supervise (setup : Setup) (interrupt? : Option Nat) (cancelled : Bool) (source : Source)
    (lines : Nat := 0) : Supervised :=
  let r := task setup interrupt? cancelled source lines
  let announced : Trace :=
    if (startClock interrupt? cancelled).interrupted then setup.announcement.map (.logged [])
    else []
  let activity := Activity.ofTrace announced ++ r.activity
  if r.state.clock.interrupted then
    { outcome? := some .interrupted
      cancelled := r.state.clock.cancelled
      activity := activity ++ .ofTrace (farewell r.ending) }
  else
    { outcome? := Outcome.ofEnding? r.ending
      cancelled := r.state.clock.cancelled
      activity }

end Supervision

end TracedFibonacci
