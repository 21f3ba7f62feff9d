import TracedFibonacci.Proofs.Run.Intake

/-!
# A run moment by moment

A run is told here in small steps: between two of them it is between two iterations, about to read
or waiting to, computing, reporting or over. Only so can it be said what happens *after* a certain
moment, as after the one at which a run is cancelled.

One attempt to read is one step, whatever it reads, and so is one report. A wait is a stage of its
own, and so is the rest of a computation in the course of which a cancellation came.

## What a step can be

`Moves` lists the steps one by one, each with what has to hold for it and with all that it does, and
`moves_of_next` says that there are no others. What every step keeps is proved from this list; the
functions that make the steps are opened only here.

## The steps make up the run

`leads_loop` says that the steps lead from the beginning of a run to its end, and that what can be
seen on the way is what can be seen of the run. It is put together from one lemma for each part of
an iteration: `leads_await` is an induction over the waits of a poll, `leads_answer` goes through a
computation and a report, and `leads_loop` is the induction over the iterations.
-/

namespace TracedFibonacci

open Iteration

/-- What a run is about to do. -/
inductive Stage where
  /-- It has completed so many iterations, and may begin another one. -/
  | between (k : Nat)
  /-- It makes an attempt to read in iteration `k`, with the beginning of a line in hand. -/
  | reading (k : Nat) (taken : List UInt8)
  /-- The attempt has to wait before it can go on. -/
  | suspended (k : Nat) (taken : List UInt8) (w : Wait)
  /-- It computes the answer to the request `n`. -/
  | computing (k : Nat) (n : UInt64)
  /-- A cancellation came in the course of the computation, which takes so many milliseconds more.
  -/
  | finishing (k : Nat) (n : UInt64) (ms : Nat)
  /-- It reports on the request `n`. -/
  | reporting (k : Nat) (n : UInt64)
  /-- It is over. -/
  | ended (e : Ending)

/-- A moment of a run. -/
structure Moment where
  /-- What the run is about to do. -/
  stage : Stage
  /-- What it does it with. -/
  state : State

/-- The last milliseconds of some work, after a cancellation in the course of it. -/
def Clock.windUp (c : Clock) (ms : Nat) : Clock.Worked :=
  if !c.supervised || ms < graceMs then .done (c.advanceTo (c.now + ms))
  else .stopped (c.advanceTo (c.now + graceMs))

/-- A stretch of iteration `k` with the span of the iteration closed behind it. -/
def Stretch.closed (k : Nat) (r : Stretch) : Stretch :=
  match r.conclusion with
  | .reported => { r with activity := r.activity ++ .ofTrace [.closed (.iteration k)] }
  | .ended e =>
    { r with
      conclusion := .ended (e.leave (.iteration k)).1
      activity := r.activity ++ .ofTrace (e.leave (.iteration k)).2 }

/-- What follows iteration `k`: another one, or the end of the run. -/
def Stretch.followed (k : Nat) (r : Stretch) : Activity × Moment :=
  match r.conclusion with
  | .reported => (r.activity, ⟨.between k, r.state⟩)
  | .ended .cancelled =>
    (r.activity ++ .ofTrace [.logged [.run] (.cancelledWhilePolling k)],
      ⟨.ended .cancelled, r.state⟩)
  | .ended e => (r.activity, ⟨.ended e, r.state⟩)

/-- What follows the last stretch of iteration `k`. -/
def Stretch.settled (k : Nat) (r : Stretch) : Activity × Moment := (r.closed k).followed k

namespace Moment

/-- The head of the loop, after `k` iterations. -/
def begin (k : Nat) (st : State) : Activity × Moment :=
  if st.clock.cancelled then
    (.ofTrace [.logged [.run] (.cancelled k)], ⟨.ended .cancelled, st⟩)
  else
    (.ofTrace [.opened (.iteration (k + 1)), .opened .poll,
        .logged [.run, .iteration (k + 1), .poll] (.waiting (st.reader.lines + 1))],
      ⟨.reading (k + 1) [], st⟩)

/-- What becomes of a piece that was read. -/
def receive (k : Nat) (x : Except RequestError UInt64 × Reader) (c : Clock) (reported : Nat) :
    Activity × Moment :=
  match x.1 with
  | .error e =>
    Stretch.settled k ⟨.ended (.failed e), ⟨x.2, c, reported⟩,
      { trace := [.closed .poll], marks := [.error e.kind] }⟩
  | .ok n => (.ofTrace [.closed .poll], ⟨.computing k n, ⟨x.2, c, reported⟩⟩)

/-- One attempt to read. -/
def read (k : Nat) (taken : List UInt8) (st : State) : Activity × Moment :=
  let a := st.reader.source.readLine taken
  let c := st.clock.cancelIf a.cancels
  match a.ended with
  | .line bs => receive k (st.reader.conclude (.line bs) a.source) c st.reported
  | .fault f => receive k (st.reader.conclude (.fault f) a.source) c st.reported
  | .waiting taken' w =>
    ({}, ⟨.suspended k taken' w, ⟨{ st.reader with source := a.source }, c, st.reported⟩⟩)

/-- The cancellation from outside comes at time `t`, and is announced if it is an interrupt. -/
def interrupt (setup : Setup) (t : Nat) (stage : Stage) (st : State) : Activity × Moment :=
  (.ofTrace (announced setup st.clock (st.clock.interruptAt t)),
    ⟨stage, { st with clock := st.clock.interruptAt t }⟩)

/-- The end of a wait, or what comes before it. -/
def wake (setup : Setup) (k : Nat) (taken : List UInt8) (w : Wait) (st : State) :
    Activity × Moment :=
  if st.clock.cancelled then
    Stretch.settled k ⟨.ended .cancelled,
      { st with reader := { st.reader with source := st.reader.source.giveUp w } },
      .ofTrace [.closed .poll]⟩
  else
    match w with
    | .turn => ({}, ⟨.reading k taken, st⟩)
    | .sleep ms =>
      match st.clock.dueBy? (st.clock.now + ms) with
      | some t => interrupt setup t (.suspended k taken (.sleep (st.clock.now + ms - t))) st
      | none =>
        ({}, ⟨.reading k taken, { st with clock := st.clock.advanceTo (st.clock.now + ms) }⟩)
    | .forever =>
      match st.clock.due? with
      | some t => interrupt setup t (.suspended k taken .forever) st
      | none =>
        ({}, ⟨.ended .hung,
          { st with reader := { st.reader with source := st.reader.source.giveUp .forever } }⟩)

/-- The computation, through its end or through a cancellation in the course of it. -/
def compute (setup : Setup) (k : Nat) (n : UInt64) (st : State) : Activity × Moment :=
  let done : Activity :=
    { trace := [.opened (.compute n), .closed (.compute n)], marks := [.request, .duration] }
  if setup.workMs = 0 then (done, ⟨.reporting k n, st⟩)
  else
    match st.clock.dueBy? (st.clock.now + setup.workMs) with
    | none =>
      (done, ⟨.reporting k n,
        { st with clock := st.clock.advanceTo (st.clock.now + setup.workMs) }⟩)
    | some t =>
      ({ trace := .opened (.compute n) :: announced setup st.clock (st.clock.interruptAt t)
         marks := [.request] },
        ⟨.finishing k n (st.clock.now + setup.workMs - t),
          { st with clock := st.clock.interruptAt t }⟩)

/-- The rest of a computation after a cancellation. -/
def finish (k : Nat) (n : UInt64) (ms : Nat) (st : State) : Activity × Moment :=
  match st.clock.windUp ms with
  | .done c =>
    ({ trace := [.closed (.compute n)], marks := [.duration] },
      ⟨.reporting k n, { st with clock := c }⟩)
  | .stopped c =>
    Stretch.settled k ⟨.ended (.stopped [.compute n]), { st with clock := c }, {}⟩

/-- The next step of a run, with what can be seen of it. -/
def next (setup : Setup) (m : Moment) : Option (Activity × Moment) :=
  match m.stage with
  | .between k => some (begin k m.state)
  | .reading k taken => some (read k taken m.state)
  | .suspended k taken w => some (wake setup k taken w m.state)
  | .computing k n => some (compute setup k n m.state)
  | .finishing k n ms => some (finish k n ms m.state)
  | .reporting k n => some ((Iteration.report setup k n m.state).settled k)
  | .ended _ => none

end Moment

/-- The steps of a run lead from one moment to another, and so much can be seen on the way. -/
inductive Leads (setup : Setup) : Moment → Activity → Moment → Prop
  | refl (m : Moment) : Leads setup m {} m
  | step {m m' m'' : Moment} {a a' : Activity} :
    m.next setup = some (a, m') → Leads setup m' a' m'' → Leads setup m (a ++ a') m''

/-! ### What a step can be -/

/-- The outcome of an attempt that need not wait. -/
def Source.Ended.outcome? : Source.Ended → Option Source.Outcome
  | .line bs => some (.line bs)
  | .fault f => some (.fault f)
  | .waiting _ _ => none

/-- Everything that a step can be. -/
inductive Moves (setup : Setup) : Moment → Activity → Moment → Prop
  /-- The run finds itself cancelled. -/
  | stop {k : Nat} {st : State} (hc : st.clock.cancelled = true) :
    Moves setup ⟨.between k, st⟩ (.ofTrace [.logged [.run] (.cancelled k)]) ⟨.ended .cancelled, st⟩
  /-- It begins an iteration. -/
  | begin {k : Nat} {st : State} (hc : st.clock.cancelled = false) :
    Moves setup ⟨.between k, st⟩
      (.ofTrace [.opened (.iteration (k + 1)), .opened .poll,
        .logged [.run, .iteration (k + 1), .poll] (.waiting (st.reader.lines + 1))])
      ⟨.reading (k + 1) [], st⟩
  /-- It reads a request. -/
  | accept {k : Nat} {taken : List UInt8} {st : State} {o : Source.Outcome} {n : UInt64}
    {r : Reader} (ho : (st.reader.source.readLine taken).ended.outcome? = some o)
    (hr : st.reader.conclude o (st.reader.source.readLine taken).source = (.ok n, r)) :
    Moves setup ⟨.reading k taken, st⟩ (.ofTrace [.closed .poll])
      ⟨.computing k n, ⟨r, st.clock.cancelIf (st.reader.source.readLine taken).cancels,
        st.reported⟩⟩
  /-- It fails to read a request. -/
  | refuse {k : Nat} {taken : List UInt8} {st : State} {o : Source.Outcome} {e : RequestError}
    {r : Reader} (ho : (st.reader.source.readLine taken).ended.outcome? = some o)
    (hr : st.reader.conclude o (st.reader.source.readLine taken).source = (.error e, r)) :
    Moves setup ⟨.reading k taken, st⟩
      { trace := [.closed .poll, .closed (.iteration k)], marks := [.error e.kind] }
      ⟨.ended (.failed e), ⟨r, st.clock.cancelIf (st.reader.source.readLine taken).cancels,
        st.reported⟩⟩
  /-- It has to wait. -/
  | wait {k : Nat} {taken t : List UInt8} {w : Wait} {st : State}
    (ht : (st.reader.source.readLine taken).ended = .waiting t w) :
    Moves setup ⟨.reading k taken, st⟩ {}
      ⟨.suspended k t w, ⟨{ st.reader with source := (st.reader.source.readLine taken).source },
        st.clock.cancelIf (st.reader.source.readLine taken).cancels, st.reported⟩⟩
  /-- It finds itself cancelled and gives up the wait. -/
  | giveUp {k : Nat} {taken : List UInt8} {w : Wait} {st : State}
    (hc : st.clock.cancelled = true) :
    Moves setup ⟨.suspended k taken w, st⟩
      (.ofTrace [.closed .poll, .closed (.iteration k),
        .logged [.run] (.cancelledWhilePolling k)])
      ⟨.ended .cancelled,
        { st with reader := { st.reader with source := st.reader.source.giveUp w } }⟩
  /-- The wait is over. -/
  | wake {k : Nat} {taken : List UInt8} {w : Wait} {st : State} (now : Nat)
    (hc : st.clock.cancelled = false) :
    Moves setup ⟨.suspended k taken w, st⟩ {}
      ⟨.reading k taken, { st with clock := st.clock.advanceTo now }⟩
  /-- A cancellation from outside comes in the course of a wait. -/
  | interruptWait {k : Nat} {taken : List UInt8} {w w' : Wait} {st : State} {t : Nat}
    (hc : st.clock.cancelled = false) (hdue : st.clock.due? = some t) :
    Moves setup ⟨.suspended k taken w, st⟩
      (.ofTrace (announced setup st.clock (st.clock.interruptAt t)))
      ⟨.suspended k taken w', { st with clock := st.clock.interruptAt t }⟩
  /-- The wait never ends. -/
  | hang {k : Nat} {taken : List UInt8} {st : State} (hc : st.clock.cancelled = false) :
    Moves setup ⟨.suspended k taken .forever, st⟩ {}
      ⟨.ended .hung,
        { st with reader := { st.reader with source := st.reader.source.giveUp .forever } }⟩
  /-- It computes an answer. -/
  | compute {k : Nat} {n : UInt64} {st : State} (now : Nat) :
    Moves setup ⟨.computing k n, st⟩
      { trace := [.opened (.compute n), .closed (.compute n)], marks := [.request, .duration] }
      ⟨.reporting k n, { st with clock := st.clock.advanceTo now }⟩
  /-- A cancellation from outside comes in the course of a computation. -/
  | interruptWork {k : Nat} {n : UInt64} {st : State} {t ms : Nat}
    (hdue : st.clock.due? = some t) :
    Moves setup ⟨.computing k n, st⟩
      { trace := .opened (.compute n) :: announced setup st.clock (st.clock.interruptAt t)
        marks := [.request] }
      ⟨.finishing k n ms, { st with clock := st.clock.interruptAt t }⟩
  /-- It completes a computation. -/
  | finish {k : Nat} {n : UInt64} {ms : Nat} {st : State} (now : Nat) :
    Moves setup ⟨.finishing k n ms, st⟩
      { trace := [.closed (.compute n)], marks := [.duration] }
      ⟨.reporting k n, { st with clock := st.clock.advanceTo now }⟩
  /-- A supervisor stops a computation. -/
  | abort {k : Nat} {n : UInt64} {ms : Nat} {st : State} (now : Nat)
    (hs : st.clock.supervised = true) :
    Moves setup ⟨.finishing k n ms, st⟩ {}
      ⟨.ended (.stopped [.compute n, .iteration k]),
        { st with clock := st.clock.advanceTo now }⟩
  /-- It reports. -/
  | report {k : Nat} {n : UInt64} {st : State}
    (hb : setup.breaksAt? ≠ some (st.reported + 1)) :
    Moves setup ⟨.reporting k n, st⟩
      { trace := [.opened (.report n), .reported n] ++
          (if setup.logsReports then
            [.logged [.run, .iteration k, .report n] (.reported (.on setup.policy n))] else []) ++
          [.closed (.report n)] ++ [.closed (.iteration k)]
        reports := [.on setup.policy n]
        marks := [.result (Report.on setup.policy n).isOk] }
      ⟨.between k, { st with
        reported := st.reported + 1
        clock := st.clock.cancelIf (setup.cancelsAfter? = some (st.reported + 1)) }⟩
  /-- The receiver of the report breaks down. -/
  | fail {k : Nat} {n : UInt64} {st : State} (hb : setup.breaksAt? = some (st.reported + 1)) :
    Moves setup ⟨.reporting k n, st⟩
      (.ofTrace [.opened (.report n), .closed (.report n), .closed (.iteration k)])
      ⟨.ended .broken, st⟩

theorem Clock.due?_of_dueBy? {c : Clock} {t u : Nat} (h : c.dueBy? u = some t) :
    c.due? = some t := by
  rw [dueBy?, Option.filter_eq_some_iff] at h
  exact h.1

section Inversion

variable (setup : Setup) (k : Nat) (n : UInt64) (st : State)

theorem moves_receive {taken : List UInt8} {o : Source.Outcome}
    (ho : (st.reader.source.readLine taken).ended.outcome? = some o) :
    Moves setup ⟨.reading k taken, st⟩
      (Moment.receive k (st.reader.conclude o (st.reader.source.readLine taken).source)
        (st.clock.cancelIf (st.reader.source.readLine taken).cancels) st.reported).1
      (Moment.receive k (st.reader.conclude o (st.reader.source.readLine taken).source)
        (st.clock.cancelIf (st.reader.source.readLine taken).cancels) st.reported).2 := by
  rcases hx : st.reader.conclude o (st.reader.source.readLine taken).source with ⟨e | n, r⟩
  · exact .refuse ho hx
  · exact .accept ho hx

theorem moves_read (taken : List UInt8) :
    Moves setup ⟨.reading k taken, st⟩ (Moment.read k taken st).1 (Moment.read k taken st).2 := by
  rw [Moment.read]
  dsimp only
  cases he : (st.reader.source.readLine taken).ended with
  | line bs => exact moves_receive setup k st (by rw [he]; rfl)
  | fault f => exact moves_receive setup k st (by rw [he]; rfl)
  | waiting t w => exact .wait he

theorem moves_wake (taken : List UInt8) (w : Wait) :
    Moves setup ⟨.suspended k taken w, st⟩ (Moment.wake setup k taken w st).1
      (Moment.wake setup k taken w st).2 := by
  unfold Moment.wake
  by_cases hc : st.clock.cancelled = true
  · rw [if_pos hc]
    exact .giveUp hc
  · rw [if_neg hc]
    rw [Bool.not_eq_true] at hc
    cases w with
    | turn => exact .wake st.clock.now hc
    | sleep ms =>
      dsimp only
      cases hdue : st.clock.dueBy? (st.clock.now + ms) with
      | none => exact .wake _ hc
      | some t => exact .interruptWait hc (Clock.due?_of_dueBy? hdue)
    | forever =>
      dsimp only
      cases hdue : st.clock.due? with
      | none => exact .hang hc
      | some t => exact .interruptWait hc hdue

theorem moves_compute :
    Moves setup ⟨.computing k n, st⟩ (Moment.compute setup k n st).1
      (Moment.compute setup k n st).2 := by
  unfold Moment.compute
  dsimp only
  by_cases h0 : setup.workMs = 0
  · rw [if_pos h0]
    exact .compute st.clock.now
  · rw [if_neg h0]
    cases hdue : st.clock.dueBy? (st.clock.now + setup.workMs) with
    | none => exact .compute _
    | some t => exact .interruptWork (Clock.due?_of_dueBy? hdue)

theorem moves_finish (ms : Nat) :
    Moves setup ⟨.finishing k n ms, st⟩ (Moment.finish k n ms st).1
      (Moment.finish k n ms st).2 := by
  rw [Moment.finish, Clock.windUp]
  by_cases hgo : (!st.clock.supervised || decide (ms < Clock.graceMs)) = true
  · rw [if_pos hgo]
    exact .finish _
  · rw [if_neg hgo]
    refine .abort _ ?_
    simpa using (not_or.1 (mt Bool.or_eq_true_iff.2 hgo)).1

theorem moves_report :
    Moves setup ⟨.reporting k n, st⟩ ((Iteration.report setup k n st).settled k).1
      ((Iteration.report setup k n st).settled k).2 := by
  rw [Iteration.report]
  dsimp only
  by_cases hb : setup.breaksAt? = some (st.reported + 1)
  · rw [if_pos hb]
    exact .fail hb
  · rw [if_neg hb]
    exact .report hb

/-- **Every step is one of these.** -/
theorem moves_of_next {setup : Setup} {m m' : Moment} {a : Activity}
    (h : m.next setup = some (a, m')) : Moves setup m a m' := by
  obtain ⟨stage, st⟩ := m
  cases stage with
  | between k =>
    by_cases hc : st.clock.cancelled = true
    · obtain ⟨rfl, rfl⟩ := by simpa [Moment.next, Moment.begin, hc] using h.symm
      exact .stop hc
    · rw [Bool.not_eq_true] at hc
      obtain ⟨rfl, rfl⟩ := by simpa [Moment.next, Moment.begin, hc] using h.symm
      exact .begin hc
  | reading k taken =>
    have hx : Moment.read k taken st = (a, m') := Option.some.inj h
    have hmoves := moves_read setup k st taken
    rwa [hx] at hmoves
  | suspended k taken w =>
    have hx : Moment.wake setup k taken w st = (a, m') := Option.some.inj h
    have hmoves := moves_wake setup k st taken w
    rwa [hx] at hmoves
  | computing k n =>
    have hx : Moment.compute setup k n st = (a, m') := Option.some.inj h
    have hmoves := moves_compute setup k n st
    rwa [hx] at hmoves
  | finishing k n ms =>
    have hx : Moment.finish k n ms st = (a, m') := Option.some.inj h
    have hmoves := moves_finish setup k n st ms
    rwa [hx] at hmoves
  | reporting k n =>
    have hx : (Iteration.report setup k n st).settled k = (a, m') := Option.some.inj h
    have hmoves := moves_report setup k n st
    rwa [hx] at hmoves
  | ended e => contradiction

end Inversion

/-! ### Steps in a row -/

namespace Activity

@[simp] theorem nil_append (a : Activity) : ({} : Activity) ++ a = a := rfl

@[simp] theorem append_nil (a : Activity) : a ++ ({} : Activity) = a := by
  obtain ⟨t, r, m⟩ := a
  show Activity.mk (t ++ []) (r ++ []) (m ++ []) = _
  rw [List.append_nil, List.append_nil, List.append_nil]

theorem append_assoc (a b c : Activity) : a ++ b ++ c = a ++ (b ++ c) := by
  show Activity.mk (_ ++ _ ++ _) (_ ++ _ ++ _) (_ ++ _ ++ _) = _
  rw [List.append_assoc, List.append_assoc, List.append_assoc]
  rfl

theorem ofTrace_append (s t : Trace) : ofTrace (s ++ t) = ofTrace s ++ ofTrace t := rfl

end Activity

namespace Leads

variable {setup : Setup} {m m' m'' : Moment} {a a' : Activity}

theorem single (h : m.next setup = some (a, m')) : Leads setup m a m' := by
  simpa using Leads.step h (.refl m')

/-- A step of which nothing can be seen. -/
theorem silent (h : m.next setup = some ({}, m')) (h' : Leads setup m' a m'') :
    Leads setup m a m'' :=
  .step h h'

theorem trans (h : Leads setup m a m') (h' : Leads setup m' a' m'') :
    Leads setup m (a ++ a') m'' := by
  induction h with
  | refl m => exact h'
  | step hn _ ih =>
    rw [Activity.append_assoc]
    exact .step hn (ih h')

/-- A run goes one way: from a moment on the way to its end, the steps lead to the end. -/
theorem rest (h : Leads setup m a m') {e : Ending} {st : State}
    (h' : Leads setup m a' ⟨.ended e, st⟩) :
    ∃ a'', a' = a ++ a'' ∧ Leads setup m' a'' ⟨.ended e, st⟩ := by
  induction h generalizing a' with
  | refl m => exact ⟨a', rfl, h'⟩
  | step hn _ ih =>
    cases h' with
    | refl => contradiction
    | step hn' hl =>
      obtain ⟨rfl, rfl⟩ := by simpa using hn.symm.trans hn'
      obtain ⟨a'', rfl, hl'⟩ := ih hl
      exact ⟨a'', (Activity.append_assoc ..).symm, hl'⟩

end Leads

/-! ### The steps of one iteration -/

/-- Work in the course of which a cancellation comes is wound up from there. -/
theorem Clock.work_eq (c : Clock) (ms : Nat) :
    c.work ms = if ms = 0 then .done c else
      match c.dueBy? (c.now + ms) with
      | none => .done (c.advanceTo (c.now + ms))
      | some t => (c.interruptAt t).windUp (c.now + ms - t) := by
  unfold work windUp
  split
  · rfl
  · cases hdue : c.dueBy? (c.now + ms) with
    | none => rfl
    | some t =>
      rw [dueBy?, Option.filter_eq_some_iff] at hdue
      have ht : t ≤ c.now + ms := of_decide_eq_true hdue.2
      have hlt : c.now + ms < t + graceMs ↔ c.now + ms - t < graceMs := by
        rw [graceMs]
        omega
      have hsum : t + (c.now + ms - t) = c.now + ms := by omega
      simp only [interruptAt, hlt, hsum]

/-- The clock that some work leaves. -/
def Clock.Worked.clock : Clock.Worked → Clock
  | .done c => c
  | .stopped c => c

namespace Iteration

/-- What an iteration does once its poll has come to an end. -/
def ofPolling (setup : Setup) (k lines reported : Nat) (p : Clock.Polling) : Stretch :=
  match p.polled with
  | .hung => ⟨.ended .hung, ⟨⟨p.source, lines⟩, p.clock, reported⟩, {}⟩
  | .abandoned =>
    ⟨.ended .cancelled, ⟨⟨p.source, lines⟩, p.clock, reported⟩, .ofTrace [.closed .poll]⟩
  | .ended o =>
    let x := (⟨p.source, lines⟩ : Reader).conclude o p.source
    match x.1 with
    | .error e =>
      ⟨.ended (.failed e), ⟨x.2, p.clock, reported⟩,
        { trace := [.closed .poll], marks := [.error e.kind] }⟩
    | .ok n => (answer setup k n ⟨x.2, p.clock, reported⟩).after (.ofTrace [.closed .poll])

/-- What an iteration does once its computation has come to an end. -/
def ofWorked (setup : Setup) (k : Nat) (n : UInt64) (st : State) : Clock.Worked → Stretch
  | .done c =>
    (report setup k n { st with clock := c }).after
      { trace := [.closed (.compute n)], marks := [.duration] }
  | .stopped c => ⟨.ended (.stopped [.compute n]), { st with clock := c }, {}⟩

theorem answer_eq (setup : Setup) (k : Nat) (n : UInt64) (st : State) :
    answer setup k n st = (ofWorked setup k n st (st.clock.work setup.workMs)).after
      { trace := .opened (.compute n) ::
          announced setup st.clock (st.clock.work setup.workMs).clock
        marks := [.request] } := by
  rw [answer]
  cases st.clock.work setup.workMs with
  | done c =>
    simp only [ofWorked, Stretch.after, ← Activity.append_assoc]
    rfl
  | stopped c =>
    simp only [ofWorked, Stretch.after, Activity.append_nil]
    rfl

/-- An outcome of a poll is concluded without the source that the poll began with. -/
theorem conclude_eq (r : Reader) (o : Source.Outcome) (s : Source) :
    r.conclude o s = (⟨s, r.lines⟩ : Reader).conclude o s := by
  cases o <;> rfl

theorem body_eq (setup : Setup) (k : Nat) (st : State) :
    body setup k st =
      (ofPolling setup k st.reader.lines st.reported (st.clock.await [] st.reader.source)).after
        (.ofTrace ([.opened .poll, .logged [.run, .iteration k, .poll]
          (.waiting (st.reader.lines + 1))] ++
            announced setup st.clock (st.clock.await [] st.reader.source).clock)) := by
  rw [body, ofPolling]
  obtain ⟨polled, c, s⟩ := st.clock.await [] st.reader.source
  cases polled with
  | hung => simp [Stretch.after]
  | abandoned => rfl
  | ended o =>
    dsimp only
    rw [conclude_eq]
    cases ((⟨s, st.reader.lines⟩ : Reader).conclude o s).1 with
    | error e => rfl
    | ok n =>
      simp only [Stretch.after, Activity.ofTrace_append, Activity.append_assoc]

end Iteration

theorem Stretch.closed_after (k : Nat) (a : Activity) (r : Stretch) :
    (r.after a).closed k = (r.closed k).after a := by
  obtain ⟨c, st, b⟩ := r
  cases c <;> simp only [after, closed, Activity.append_assoc]

theorem Stretch.followed_after (k : Nat) (a : Activity) (r : Stretch) :
    (r.after a).followed k = (a ++ (r.followed k).1, (r.followed k).2) := by
  obtain ⟨c, st, b⟩ := r
  cases c with
  | reported => rfl
  | ended e => cases e <;> simp only [after, followed, Activity.append_assoc]

theorem Stretch.settled_after (k : Nat) (a : Activity) (r : Stretch) :
    (r.after a).settled k = (a ++ (r.settled k).1, (r.settled k).2) := by
  rw [settled, closed_after, followed_after]
  rfl

theorem Stretch.followed_of_ended {k : Nat} {r : Stretch} {e : Ending} (h : r.conclusion = .ended e)
    (he : e ≠ .cancelled) : r.followed k = (r.activity, ⟨.ended e, r.state⟩) := by
  rw [followed]
  rw [h]
  cases e with
  | cancelled => exact absurd rfl he
  | _ => rfl

/-- An iteration opens its span, goes through its body and closes the span. -/
theorem Iteration.run_eq (setup : Setup) (k : Nat) (st : State) :
    Iteration.run setup k st =
      ((body setup k st).closed k).after (.ofTrace [.opened (.iteration k)]) := by
  rw [Iteration.run, Stretch.closed]
  obtain ⟨c, st', a⟩ := body setup k st
  cases c <;> simp only [Stretch.after, Activity.append_assoc]

section Parts

variable (setup : Setup) (k : Nat)

theorem leads_reporting (n : UInt64) (st : State) :
    Leads setup ⟨.reporting k n, st⟩ ((report setup k n st).settled k).1
      ((report setup k n st).settled k).2 :=
  .single rfl

theorem announced_of_interrupted {c c' : Clock} (h : c'.interrupted = c.interrupted) :
    announced setup c c' = [] := by
  rw [announced, h]
  cases c.interrupted <;> rfl

theorem leads_finishing (n : UInt64) (ms : Nat) (st : State) :
    Leads setup ⟨.finishing k n ms, st⟩
      ((ofWorked setup k n st (st.clock.windUp ms)).settled k).1
      ((ofWorked setup k n st (st.clock.windUp ms)).settled k).2 := by
  have hnext : Moment.next setup ⟨.finishing k n ms, st⟩ = some (Moment.finish k n ms st) := rfl
  rw [Moment.finish] at hnext
  cases hwind : st.clock.windUp ms with
  | done c =>
    rw [hwind] at hnext
    rw [ofWorked, Stretch.settled_after]
    exact .step hnext (leads_reporting setup k n _)
  | stopped c =>
    rw [hwind] at hnext
    exact .single hnext

theorem announced_congr (c : Clock) {c' c'' : Clock} (h : c'.interrupted = c''.interrupted) :
    announced setup c c' = announced setup c c'' := by
  rw [announced, announced, h]

/-- The steps of a computation and a report. -/
theorem leads_answer (n : UInt64) (st : State) :
    Leads setup ⟨.computing k n, st⟩ ((answer setup k n st).settled k).1
      ((answer setup k n st).settled k).2 := by
  have hnext : Moment.next setup ⟨.computing k n, st⟩ = some (Moment.compute setup k n st) := rfl
  rw [Moment.compute] at hnext
  rw [answer_eq, Clock.work_eq, Stretch.settled_after]
  -- without a cancellation the computation is done in one step
  have quiet : ∀ c : Clock, c.interrupted = st.clock.interrupted →
      Moment.next setup ⟨.computing k n, st⟩ = some
        ({ trace := [.opened (.compute n), .closed (.compute n)], marks := [.request, .duration] },
          ⟨.reporting k n, { st with clock := c }⟩) →
      Leads setup ⟨.computing k n, st⟩
        ({ trace := .opened (.compute n) :: announced setup st.clock c, marks := [.request] } ++
          ((ofWorked setup k n st (.done c)).settled k).1)
        ((ofWorked setup k n st (.done c)).settled k).2 := fun c hc hnext ↦ by
    rw [ofWorked, Stretch.settled_after, announced_of_interrupted setup hc,
      ← Activity.append_assoc]
    exact .step hnext (leads_reporting setup k n _)
  by_cases h0 : setup.workMs = 0
  · rw [if_pos h0] at hnext ⊢
    exact quiet st.clock rfl hnext
  · rw [if_neg h0] at hnext ⊢
    cases hdue : st.clock.dueBy? (st.clock.now + setup.workMs) with
    | none =>
      rw [hdue] at hnext
      exact quiet _ rfl hnext
    | some t =>
      rw [hdue] at hnext
      have hclock : ((st.clock.interruptAt t).windUp
          (st.clock.now + setup.workMs - t)).clock.interrupted =
            (st.clock.interruptAt t).interrupted := by
        rw [Clock.windUp]
        split <;> rfl
      dsimp only
      rw [announced_congr setup st.clock hclock]
      exact .step hnext (leads_finishing setup k n _ { st with clock := st.clock.interruptAt t })

/-- The steps of what follows a piece that was read. -/
theorem leads_receive {m : Moment} {s : Source} {lines reported : Nat} {c : Clock}
    {o : Source.Outcome}
    (h : m.next setup = some (Moment.receive k ((⟨s, lines⟩ : Reader).conclude o s) c reported)) :
    Leads setup m ((ofPolling setup k lines reported ⟨.ended o, c, s⟩).settled k).1
      ((ofPolling setup k lines reported ⟨.ended o, c, s⟩).settled k).2 := by
  rw [Moment.receive] at h
  rw [ofPolling]
  dsimp only at h ⊢
  cases hx : ((⟨s, lines⟩ : Reader).conclude o s).1 with
  | error e =>
    rw [hx] at h
    exact .single h
  | ok n =>
    rw [hx] at h
    dsimp only
    rw [Stretch.settled_after]
    exact .step h (leads_answer setup k n _)

section Poll

variable {taken t : List UInt8} {s : Source} {lines reported : Nat} {c : Clock}

theorem next_of_outcome {o : Source.Outcome} (h : (s.readLine taken).ended.outcome? = some o) :
    Moment.next setup ⟨.reading k taken, ⟨⟨s, lines⟩, c, reported⟩⟩ =
      some (Moment.receive k ((⟨(s.readLine taken).source, lines⟩ : Reader).conclude o
        (s.readLine taken).source) (c.cancelIf (s.readLine taken).cancels) reported) := by
  show some (Moment.read k taken _) = _
  rw [Moment.read]
  cases he : (s.readLine taken).ended with
  | waiting t w =>
    rw [he] at h
    contradiction
  | line bs | fault f =>
    rw [he] at h
    obtain rfl := Option.some.inj h
    rfl

theorem next_of_waiting {w : Wait} (h : (s.readLine taken).ended = .waiting t w) :
    Moment.next setup ⟨.reading k taken, ⟨⟨s, lines⟩, c, reported⟩⟩ =
      some ({}, ⟨.suspended k t w, ⟨⟨(s.readLine taken).source, lines⟩,
        c.cancelIf (s.readLine taken).cancels, reported⟩⟩) := by
  show some (Moment.read k taken _) = _
  rw [Moment.read, h]

/-- A wait of a cancelled run is given up. -/
theorem leads_giveUp (w : Wait) (h : c.cancelled = true) :
    Leads setup ⟨.suspended k taken w, ⟨⟨s, lines⟩, c, reported⟩⟩
      ((ofPolling setup k lines reported ⟨.abandoned, c, s.giveUp w⟩).settled k).1
      ((ofPolling setup k lines reported ⟨.abandoned, c, s.giveUp w⟩).settled k).2 := by
  refine .single ?_
  show some (Moment.wake setup k taken w _) = _
  rw [Moment.wake.eq_def, if_pos h]
  rfl

/-- A cancellation from outside in the course of a wait ends it. -/
theorem leads_interrupt {w w' : Wait} {u : Nat}
    (h : Moment.next setup ⟨.suspended k taken w, ⟨⟨s, lines⟩, c, reported⟩⟩ =
      some (Moment.interrupt setup u (.suspended k taken w') ⟨⟨s, lines⟩, c, reported⟩)) :
    Leads setup ⟨.suspended k taken w, ⟨⟨s, lines⟩, c, reported⟩⟩
      (.ofTrace (announced setup c (c.interruptAt u)) ++
        ((ofPolling setup k lines reported ⟨.abandoned, c.interruptAt u, s.giveUp w'⟩).settled k).1)
      ((ofPolling setup k lines reported
        ⟨.abandoned, c.interruptAt u, s.giveUp w'⟩).settled k).2 :=
  .step h (leads_giveUp setup k w' rfl)

end Poll

/-- **The steps of a poll**, begun with `taken` in hand. -/
theorem leads_await (lines reported : Nat) (c : Clock) (taken : List UInt8) (s : Source) :
    Leads setup ⟨.reading k taken, ⟨⟨s, lines⟩, c, reported⟩⟩
      (.ofTrace (announced setup c (c.await taken s).clock) ++
        ((ofPolling setup k lines reported (c.await taken s)).settled k).1)
      ((ofPolling setup k lines reported (c.await taken s)).settled k).2 := by
  fun_induction Clock.await c taken s with
  | case1 c taken s a c' bs h =>
    have hquiet : announced setup c c' = [] := announced_of_interrupted setup rfl
    rw [hquiet]
    exact leads_receive setup k (next_of_outcome setup k (by rw [h]; rfl))
  | case2 c taken s a c' f h =>
    have hquiet : announced setup c c' = [] := announced_of_interrupted setup rfl
    rw [hquiet]
    exact leads_receive setup k (next_of_outcome setup k (by rw [h]; rfl))
  | case3 c taken s a c' t w h _ hcan =>
    have hquiet : announced setup c c' = [] := announced_of_interrupted setup rfl
    rw [hquiet]
    exact .silent (next_of_waiting setup k h) (leads_giveUp setup k w hcan)
  | case4 c taken s a c' t hcan h _ _ ih =>
    have hwake : Moment.next setup ⟨.suspended k t .turn, ⟨⟨a.source, lines⟩, c', reported⟩⟩ =
        some ({}, ⟨.reading k t, ⟨⟨a.source, lines⟩, c', reported⟩⟩) := by
      show some (Moment.wake setup k t .turn _) = _
      rw [Moment.wake, if_neg hcan]
    exact .silent (next_of_waiting setup k h) (.silent hwake ih)
  | case5 c taken s a c' t hcan ms h u hdue _ _ =>
    refine .silent (next_of_waiting setup k h) (leads_interrupt setup k ?_)
    show some (Moment.wake setup k t (.sleep ms) _) = _
    rw [Moment.wake, if_neg hcan, hdue]
  | case6 c taken s a c' t hcan ms h hdue _ _ ih =>
    have hwake : Moment.next setup ⟨.suspended k t (.sleep ms), ⟨⟨a.source, lines⟩, c', reported⟩⟩ =
        some ({}, ⟨.reading k t, ⟨⟨a.source, lines⟩, c'.advanceTo (c'.now + ms), reported⟩⟩) := by
      show some (Moment.wake setup k t (.sleep ms) _) = _
      rw [Moment.wake, if_neg hcan, hdue]
    exact .silent (next_of_waiting setup k h) (.silent hwake ih)
  | case7 c taken s a c' t hcan h u hdue _ _ =>
    refine .silent (next_of_waiting setup k h) (leads_interrupt setup k ?_)
    show some (Moment.wake setup k t .forever _) = _
    rw [Moment.wake, if_neg hcan, hdue]
  | case8 c taken s a c' t hcan h hdue _ _ =>
    have hwake : Moment.next setup ⟨.suspended k t .forever, ⟨⟨a.source, lines⟩, c', reported⟩⟩ =
        some ({}, ⟨.ended .hung, ⟨⟨a.source.giveUp .forever, lines⟩, c', reported⟩⟩) := by
      show some (Moment.wake setup k t .forever _) = _
      rw [Moment.wake, if_neg hcan, hdue]
    have hquiet : announced setup c c' = [] := announced_of_interrupted setup rfl
    rw [hquiet]
    exact .silent (next_of_waiting setup k h) (.single hwake)

end Parts

/-! ### The steps of a run -/

/-- The steps of an iteration, from the head of the loop on. -/
theorem leads_run (setup : Setup) (k : Nat) {st : State} (hc : ¬st.clock.cancelled = true) :
    Leads setup ⟨.between k, st⟩ ((Iteration.run setup (k + 1) st).followed (k + 1)).1
      ((Iteration.run setup (k + 1) st).followed (k + 1)).2 := by
  have hnext : Moment.next setup ⟨.between k, st⟩ = some (Moment.begin k st) := rfl
  rw [Moment.begin] at hnext
  rw [if_neg hc] at hnext
  have hpoll := Leads.step hnext
    (leads_await setup (k + 1) st.reader.lines st.reported st.clock [] st.reader.source)
  rw [run_eq, body_eq, Stretch.closed_after, Stretch.followed_after, Stretch.followed_after]
  exact hpoll

/-- **The steps of a run** lead from its beginning to its end. -/
theorem leads_loop (setup : Setup) (k : Nat) (st : State) :
    Leads setup ⟨.between k, st⟩ (Run.loop setup k st).activity
      ⟨.ended (Run.loop setup k st).ending, (Run.loop setup k st).state⟩ := by
  fun_induction Run.loop setup k st with
  | case1 k st hc =>
    have hnext : Moment.next setup ⟨.between k, st⟩ = some (Moment.begin k st) := rfl
    rw [Moment.begin] at hnext
    rw [if_pos hc] at hnext
    exact .single hnext
  | case2 k st hc r h _ ih =>
    have hrun := leads_run setup k hc
    rw [Stretch.followed, h] at hrun
    exact hrun.trans ih
  | case3 k st hc r h =>
    have hrun := leads_run setup k hc
    rw [Stretch.followed, h] at hrun
    exact hrun
  | case4 k st hc r e he h =>
    have hrun := leads_run setup k hc
    rw [Stretch.followed_of_ended h he] at hrun
    exact hrun

end TracedFibonacci
