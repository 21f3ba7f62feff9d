import TracedFibonacci.Request.Reader

/-!
# Cancellation, interrupts and virtual time

A run is cancelled from outside or from inside: by whoever holds its context, by an arrival in its
stream, by the receiver of its reports, or by an interrupt that is due at a certain time. Time
here is virtual, in whole milliseconds, and passes only while the run waits.

## A poll is raced, a computation is not

`Clock.await` waits for a line and gives up as soon as the run is cancelled. It looks for a
cancellation before it looks for more bytes, but only at a wait: bytes that are there without
waiting are taken first. `Clock.work` waits for the end of a piece of work and does not give up.
A cancellation in the course of it lets the work end in its own time, unless it is the interrupt of
a supervisor: then the work has the grace period to end in.

A cancellation that is due at the end of a wait comes first.
-/

namespace TracedFibonacci

/-- The time, and what is known of the run's cancellation. -/
structure Clock where
  /-- The time in milliseconds. -/
  now : Nat := 0
  /-- When the run is cancelled from outside, while that is still to come. -/
  due? : Option Nat := none
  /-- Whether the cancellation from outside is the interrupt of a supervisor, who stops the run when
  its grace period is over. -/
  supervised : Bool := true
  /-- Whether the run is cancelled. -/
  cancelled : Bool := false
  /-- Whether the interrupt has come. -/
  interrupted : Bool := false
  deriving Repr, DecidableEq

namespace Clock

/-- The run is cancelled now. -/
def cancel (c : Clock) : Clock := { c with cancelled := true }

/-- The run is cancelled now if `b` holds. -/
def cancelIf (b : Bool) (c : Clock) : Clock := { c with cancelled := c.cancelled || b }

/-- What was due comes at time `t` and cancels the run. -/
def interruptAt (t : Nat) (c : Clock) : Clock :=
  { c with now := t, due? := none, cancelled := true, interrupted := c.interrupted || c.supervised }

/-- When the run is cancelled from outside, if that comes by time `t`. -/
def dueBy? (t : Nat) (c : Clock) : Option Nat := c.due?.filter (· ≤ t)

/-- Time passes until `t`. -/
def advanceTo (t : Nat) (c : Clock) : Clock := { c with now := t }

/-- How waiting for a line ends. -/
inductive Polled where
  /-- The source has an outcome. -/
  | ended (o : Source.Outcome)
  /-- The run was cancelled before. -/
  | abandoned
  /-- It does not end. -/
  | hung
  deriving Repr, DecidableEq

/-- Waiting for a line: how it ended, and the clock and the source it leaves. -/
structure Polling where
  /-- How it ended. -/
  polled : Polled
  /-- The clock afterwards. -/
  clock : Clock
  /-- The source afterwards. -/
  source : Source
  deriving Repr, DecidableEq

/-- Waits for the line that begins with `taken`. -/
def await (c : Clock) (taken : List UInt8) (s : Source) : Polling :=
  let a := s.readLine taken
  let c := c.cancelIf a.cancels
  match h : a.ended with
  | .line bs => ⟨.ended (.line bs), c, a.source⟩
  | .fault f => ⟨.ended (.fault f), c, a.source⟩
  | .waiting taken' w =>
    have := Source.size_lt_of_waiting h
    -- only here, with nothing left to take, does a cancellation count
    if c.cancelled then ⟨.abandoned, c, a.source.giveUp w⟩
    else
      match w with
      | .turn => await c taken' a.source
      | .sleep ms =>
        match c.dueBy? (c.now + ms) with
        -- the rest of the wait stays in the stream
        | some t => ⟨.abandoned, c.interruptAt t, a.source.giveUp (.sleep (c.now + ms - t))⟩
        | none => await (c.advanceTo (c.now + ms)) taken' a.source
      | .forever =>
        match c.due? with
        | some t => ⟨.abandoned, c.interruptAt t, a.source.giveUp .forever⟩
        | none => ⟨.hung, c, a.source.giveUp .forever⟩
termination_by s.size

/-- Waiting for a line adds nothing to the source, and a line that is longer than what was taken
before takes something from it. -/
theorem size_await {c : Clock} {taken : List UInt8} {s : Source} {o : Source.Outcome}
    (h : (await c taken s).polled = .ended o) :
    (await c taken s).source.size ≤ s.size ∧
      (o ≠ .line taken → (∀ f, o ≠ .fault f) → (await c taken s).source.size < s.size) := by
  fun_induction await c taken s with
  | case1 c taken s a c' bs he =>
    obtain ⟨hle, hlt, -⟩ := Source.size_readLine taken s
    simp only [Polled.ended.injEq] at h
    subst h
    exact ⟨hle, fun hne _ ↦ hlt bs he fun hb ↦ hne (by rw [hb])⟩
  | case2 c taken s a c' f he =>
    simp only [Polled.ended.injEq] at h
    exact ⟨(Source.size_readLine taken s).1, fun _ hf ↦ absurd h.symm (hf f)⟩
  | case3 => simp at h
  | case4 c taken s a c' taken' hc he _ _ ih =>
    have hw : a.source.size < s.size := Source.size_lt_of_waiting he
    -- the wait has made the source smaller, and the rest of the attempt adds nothing to it
    have := (ih h).1
    exact ⟨by omega, fun _ _ ↦ by omega⟩
  | case5 => simp at h
  | case6 c taken s a c' taken' hc ms he _ _ _ ih =>
    have hw : a.source.size < s.size := Source.size_lt_of_waiting he
    have := (ih h).1
    exact ⟨by omega, fun _ _ ↦ by omega⟩
  | case7 => simp at h
  | case8 => simp at h

/-- A fresh wait for a line that ends with one takes something from the source. -/
theorem size_lt_of_await {c : Clock} {s : Source} {bs : List UInt8}
    (h : (await c [] s).polled = .ended (.line bs)) (hne : bs ≠ []) :
    (await c [] s).source.size < s.size :=
  (size_await h).2 (by simpa using hne) (by simp)

/-- How long an interrupted run has to end, in milliseconds. -/
def graceMs : Nat := 500

/-- How a piece of work ends. -/
inductive Worked where
  /-- It is done. -/
  | done (c : Clock)
  /-- It was stopped, since the grace period ended first. -/
  | stopped (c : Clock)
  deriving Repr, DecidableEq

/-- Works for so many milliseconds. Work without duration is not a wait. -/
def work (c : Clock) (ms : Nat) : Worked :=
  if ms = 0 then .done c
  else
    match c.dueBy? (c.now + ms) with
    | none => .done (c.advanceTo (c.now + ms))
    | some t =>
      let c' := c.interruptAt t
      -- under supervision, work that would end with the grace period is stopped
      if !c.supervised || c.now + ms < t + graceMs then .done (c'.advanceTo (c.now + ms))
      else .stopped (c'.advanceTo (t + graceMs))

end Clock

end TracedFibonacci
