import TracedFibonacci.Proofs.Run.Cancellation

/-!
# What an interrupt finds

An interrupt that is due at a time `t` changes nothing before `t`. Up to then a run goes through the
moments that it would go through without it, so what the interrupt finds is a moment of the
undisturbed run. Time passes only while a run waits, so this is a moment at which it waits: for
input, or for the end of a computation.

## One step, and the steps before an interrupt

`elapses_next` says of each step of an undisturbed run how much time it takes, and that it is the
same step with an interrupt that is due later; if the interrupt is due in the course of it, the run
waits there (`Moment.Holds`). The run lemmas are inductions over the steps: `leads_expecting` for
the moments before the interrupt, and `exists_holds` for the moment that it finds.

## What the interrupt does there

At a wait for input the run ends at once (`leads_wait_expecting`). A computation goes on, and by the
length of what is left of it, it is answered (`leads_answered_expecting`) or stopped
(`leads_stopped_expecting`).
-/

namespace TracedFibonacci

open Iteration

/-! ### How a run can end -/

section Endings

variable {setup : Setup} {m m' : Moment} {a : Activity}

/-- What an ending tells of the clock. -/
structure Moment.Accountable (m : Moment) : Prop where
  /-- An interrupt cancels. -/
  cancelled : m.state.clock.interrupted = true → m.cancelled = true
  /-- A cancelled run does not hang. -/
  hung : m.stage = .ended .hung → m.cancelled = false
  /-- A computation is stopped by a supervisor, after an interrupt. -/
  stopped : ∀ openSpans, m.stage = .ended (.stopped openSpans) →
    m.state.clock.interrupted = true

theorem accountable_next (h : m.next setup = some (a, m')) (hc : m.Consistent)
    (hm : m.Accountable) : m'.Accountable := by
  have hcan : m'.state.clock.interrupted = true → m'.cancelled = true := by
    intro hi
    cases moves_of_next h with
    | interruptWait => rfl
    | interruptWork => rfl
    | _ => exact cancelled_of_moves (moves_of_next h) (hm.cancelled hi)
  refine ⟨hcan, ?_, ?_⟩
  · intro he
    cases moves_of_next h with
    | hang hf => exact hf
    | _ => simp at he
  · intro openSpans he
    cases moves_of_next h with
    | abort now hs => exact (hc.finishing _ _ _ rfl).2 hs
    | _ => simp at he

theorem accountable_of_leads (h : Leads setup m a m') (hc : m.Consistent) (hm : m.Accountable) :
    m'.Accountable := by
  induction h with
  | refl m => exact hm
  | step hn _ ih => exact ih (consistent_next hn) (accountable_next hn hc hm)

/-- Nothing changes whether a run is supervised. -/
theorem supervised_of_leads (h : Leads setup m a m') :
    m'.state.clock.supervised = m.state.clock.supervised := by
  induction h with
  | refl m => rfl
  | step hn _ ih =>
    refine ih.trans ?_
    cases moves_of_next hn <;> rfl

/-- A run that is over stays where it is. -/
theorem eq_of_leads_ended {e : Ending} {st : State} (h : Leads setup ⟨.ended e, st⟩ a m') :
    a = {} ∧ m' = ⟨.ended e, st⟩ := by
  cases h with
  | refl => exact ⟨rfl, rfl⟩
  | step hn => contradiction

/-- Whatever leads to an end leads to the end of the run. -/
theorem loop_eq_of_leads {k : Nat} {st st' : State} {e : Ending}
    (h : Leads setup ⟨.between k, st⟩ a ⟨.ended e, st'⟩) : Run.loop setup k st = ⟨e, st', a⟩ := by
  obtain ⟨b, hsum, hrest⟩ := h.rest (leads_loop setup k st)
  obtain ⟨rfl, hend⟩ := eq_of_leads_ended hrest
  rw [Activity.append_nil] at hsum
  obtain ⟨he, hst⟩ := Moment.mk.inj hend
  have he' := Stage.ended.inj he
  generalize Run.loop setup k st = r at *
  obtain ⟨e', st'', a'⟩ := r
  subst hsum he' hst
  rfl

end Endings

/-! ### The same run with an interrupt to come -/

/-- The same clock with a cancellation due at time `t`. -/
def Clock.expecting (t : Nat) (c : Clock) : Clock := { c with due? := some t }

/-- The same state with a cancellation due at time `t`. -/
def State.expecting (t : Nat) (st : State) : State := { st with clock := st.clock.expecting t }

/-- The same moment with a cancellation due at time `t`. -/
def Moment.expecting (t : Nat) (m : Moment) : Moment := { m with state := m.state.expecting t }

@[simp] theorem State.clock_expecting (t : Nat) (st : State) :
    (st.expecting t).clock = st.clock.expecting t := rfl

@[simp] theorem Clock.cancelled_expecting (t : Nat) (c : Clock) :
    (c.expecting t).cancelled = c.cancelled := rfl

@[simp] theorem Clock.now_expecting (t : Nat) (c : Clock) : (c.expecting t).now = c.now := rfl

theorem Clock.dueBy?_expecting (t u : Nat) (c : Clock) :
    (c.expecting t).dueBy? u = if t ≤ u then some t else none := by
  by_cases h : t ≤ u
  · simp [dueBy?, expecting, h]
  · simp [dueBy?, expecting, h, Nat.lt_of_not_le h]

theorem Clock.dueBy?_of_due? {c : Clock} (h : c.due? = none) (u : Nat) : c.dueBy? u = none := by
  rw [dueBy?, h]
  rfl

/-- The time of a moment. -/
def Moment.now (m : Moment) : Nat := m.state.clock.now

/-- A wait that begins at `now` is not over before time `t`. -/
def Wait.Lasts (now t : Nat) : Wait → Prop
  | .turn => False
  | .sleep ms => t ≤ now + ms
  | .forever => True

/-- The run waits, and will not be done with that before time `t`. -/
inductive Moment.Holds (setup : Setup) (t : Nat) : Moment → Prop
  /-- It waits for input. -/
  | input {k : Nat} {taken : List UInt8} {w : Wait} {st : State} (hc : st.clock.cancelled = false)
    (hw : w.Lasts st.clock.now t) : Holds setup t ⟨.suspended k taken w, st⟩
  /-- It waits for the end of a computation. -/
  | work {k : Nat} {n : UInt64} {st : State} (h0 : setup.workMs ≠ 0)
    (ht : t ≤ st.clock.now + setup.workMs) : Holds setup t ⟨.computing k n, st⟩

/-- What the step from `m` to `m'` is if it takes `d` milliseconds: it is the same step with an
interrupt that is due when it is over, and one that is due before finds the run waiting. -/
structure Elapses (setup : Setup) (m : Moment) (x : Activity × Moment) (d : Nat) : Prop where
  /-- The step takes so long. -/
  now : x.2.now = m.now + d
  /-- A later interrupt changes nothing. -/
  later : ∀ t, m.now + d < t → (m.expecting t).next setup = some (x.1, x.2.expecting t)
  /-- Any other finds the run waiting. -/
  holds : ∀ t, m.now < t → t ≤ m.now + d → m.Holds setup t

section Stages

variable (setup : Setup) (k : Nat) (n : UInt64) (st : State)

/-- A stage that looks neither at the time nor at what is to come is over in no time. -/
theorem elapses_of_comm {stage : Stage} {f : State → Activity × Moment}
    (hf : ∀ st', Moment.next setup ⟨stage, st'⟩ = some (f st'))
    (hcomm : ∀ t, f (st.expecting t) = ((f st).1, (f st).2.expecting t))
    (hnow : (f st).2.now = st.clock.now) : Elapses setup ⟨stage, st⟩ (f st) 0 where
  now := hnow
  later := by
    intro t _
    exact (hf (st.expecting t)).trans (congrArg some (hcomm t))
  holds := by
    intro t hlt hle
    omega

theorem elapses_begin : Elapses setup ⟨.between k, st⟩ (Moment.begin k st) 0 := by
  have hcomm : ∀ t, Moment.begin k (st.expecting t) =
      ((Moment.begin k st).1, (Moment.begin k st).2.expecting t) := by
    intro t
    unfold Moment.begin
    rw [State.clock_expecting, Clock.cancelled_expecting]
    split <;> rfl
  refine elapses_of_comm setup st (fun _ ↦ rfl) hcomm ?_
  unfold Moment.begin
  split <;> rfl

theorem elapses_read (taken : List UInt8) :
    Elapses setup ⟨.reading k taken, st⟩ (Moment.read k taken st) 0 := by
  have hreceive : ∀ (t : Nat) (x : Except RequestError UInt64 × Reader) (c : Clock) (r : Nat),
      Moment.receive k x (c.expecting t) r =
          ((Moment.receive k x c r).1, (Moment.receive k x c r).2.expecting t) ∧
        (Moment.receive k x c r).2.now = c.now := by
    rintro t ⟨e | n, r⟩ c reported
    · exact ⟨rfl, rfl⟩
    · exact ⟨rfl, rfl⟩
  have hread : ∀ t, Moment.read k taken (st.expecting t) =
        ((Moment.read k taken st).1, (Moment.read k taken st).2.expecting t) ∧
      (Moment.read k taken st).2.now = st.clock.now := by
    intro t
    unfold Moment.read
    dsimp only [State.expecting]
    cases (st.reader.source.readLine taken).ended with
    | line bs => exact hreceive t _ (st.clock.cancelIf _) _
    | fault f => exact hreceive t _ (st.clock.cancelIf _) _
    | waiting taken' w => exact ⟨rfl, rfl⟩
  exact elapses_of_comm setup st (fun _ ↦ rfl) (fun t ↦ (hread t).1) (hread 0).2

theorem elapses_report :
    Elapses setup ⟨.reporting k n, st⟩ ((report setup k n st).settled k) 0 := by
  refine elapses_of_comm setup st (f := fun st ↦ (report setup k n st).settled k)
    (fun _ ↦ rfl) ?_ ?_
  · intro t
    unfold report
    dsimp only [State.expecting]
    split <;> rfl
  · unfold report
    dsimp only
    split <;> rfl

/-- A wait that a cancelled run gives up is over at once. -/
theorem elapses_giveUp (taken : List UInt8) (w : Wait) (hc : st.clock.cancelled = true) :
    Elapses setup ⟨.suspended k taken w, st⟩ (Moment.wake setup k taken w st) 0 := by
  have hwake : ∀ st' : State, st'.clock.cancelled = true → Moment.wake setup k taken w st' =
      Stretch.settled k ⟨.ended .cancelled,
        { st' with reader := { st'.reader with source := st'.reader.source.giveUp w } },
        .ofTrace [.closed .poll]⟩ := by
    intro st' hc'
    rw [Moment.wake.eq_def, if_pos hc']
  refine elapses_of_comm setup st (fun _ ↦ rfl) ?_ ?_
  · intro t
    rw [hwake st hc, hwake (st.expecting t) hc]
    rfl
  · rw [hwake st hc]
    rfl

/-- The end of a wait, with what is due before it. -/
theorem wake_sleep (taken : List UInt8) (ms : Nat) (hc : st.clock.cancelled = false) :
    Moment.wake setup k taken (.sleep ms) st =
      match st.clock.dueBy? (st.clock.now + ms) with
      | some t =>
        Moment.interrupt setup t (.suspended k taken (.sleep (st.clock.now + ms - t))) st
      | none =>
        ({}, ⟨.reading k taken, { st with clock := st.clock.advanceTo (st.clock.now + ms) }⟩) := by
  rw [Moment.wake, hc]
  rfl

theorem elapses_sleep (taken : List UInt8) (ms : Nat) (hc : st.clock.cancelled = false)
    (hdue : st.clock.due? = none) :
    Elapses setup ⟨.suspended k taken (.sleep ms), st⟩
      (Moment.wake setup k taken (.sleep ms) st) ms := by
  rw [wake_sleep setup k st taken ms hc, Clock.dueBy?_of_due? hdue]
  refine ⟨rfl, ?_, fun t _ hle ↦ .input hc hle⟩
  intro t ht
  have hlater : ¬t ≤ st.clock.now + ms := Nat.not_le.2 ht
  show some (Moment.wake setup k taken (.sleep ms) (st.expecting t)) = _
  rw [wake_sleep setup k (st.expecting t) taken ms hc, State.clock_expecting,
    Clock.dueBy?_expecting, Clock.now_expecting, if_neg hlater]
  rfl

theorem elapses_turn (taken : List UInt8) (hc : st.clock.cancelled = false) :
    Elapses setup ⟨.suspended k taken .turn, st⟩ (Moment.wake setup k taken .turn st) 0 := by
  have hwake : ∀ st' : State, st'.clock.cancelled = false →
      Moment.wake setup k taken .turn st' = ({}, ⟨.reading k taken, st'⟩) := by
    intro st' hc'
    rw [Moment.wake, hc']
    rfl
  refine elapses_of_comm setup st (fun _ ↦ rfl) ?_ ?_
  · intro t
    rw [hwake st hc, hwake (st.expecting t) hc]
    rfl
  · rw [hwake st hc]
    rfl

theorem elapses_compute (hdue : st.clock.due? = none) :
    Elapses setup ⟨.computing k n, st⟩ (Moment.compute setup k n st) setup.workMs := by
  by_cases h0 : setup.workMs = 0
  · rw [h0]
    refine elapses_of_comm setup st (fun _ ↦ rfl) ?_ ?_
    · intro t
      rw [Moment.compute, Moment.compute, if_pos h0, if_pos h0]
      rfl
    · rw [Moment.compute, if_pos h0]
      rfl
  · rw [Moment.compute, if_neg h0, Clock.dueBy?_of_due? hdue]
    refine ⟨rfl, ?_, fun t _ hle ↦ .work h0 hle⟩
    intro t ht
    have hlater : ¬t ≤ st.clock.now + setup.workMs := Nat.not_le.2 ht
    show some (Moment.compute setup k n (st.expecting t)) = _
    rw [Moment.compute, if_neg h0, State.clock_expecting, Clock.dueBy?_expecting,
      Clock.now_expecting, if_neg hlater]
    rfl

end Stages

/-! ### The steps before an interrupt -/

/-- No cancellation from outside is to come, nor did one come in the course of a computation. -/
structure Moment.Alone (m : Moment) : Prop where
  /-- None is to come. -/
  due? : m.state.clock.due? = none
  /-- None came in the course of a computation. -/
  not_finishing : ∀ k n ms, m.stage ≠ .finishing k n ms

section Alone

variable {setup : Setup} {m m' : Moment} {a : Activity}

theorem alone_next (h : m.next setup = some (a, m')) (hm : m.Alone) : m'.Alone := by
  cases moves_of_next h with
  | interruptWait _ hdue => exact absurd (hm.due?.symm.trans hdue) (by simp)
  | interruptWork hdue => exact absurd (hm.due?.symm.trans hdue) (by simp)
  | finish => exact absurd rfl (hm.not_finishing _ _ _)
  | abort => exact absurd rfl (hm.not_finishing _ _ _)
  | _ => exact ⟨hm.due?, by simp⟩

/-- A run that hangs waits for any interrupt. -/
theorem holds_of_hung (h : m.next setup = some (a, m')) (he : m'.stage = .ended .hung) :
    m'.now = m.now ∧ ∀ t, m.Holds setup t := by
  cases moves_of_next h with
  | hang hc => exact ⟨rfl, fun t ↦ .input hc trivial⟩
  | _ => simp at he

/-- **How long a step takes.** Each step of an undisturbed run takes its time, unless the run hangs.
-/
theorem elapses_next (h : m.next setup = some (a, m')) (hm : m.Alone)
    (he : m'.stage ≠ .ended .hung) : ∃ d, Elapses setup m (a, m') d := by
  obtain ⟨stage, st⟩ := m
  have hdue : st.clock.due? = none := hm.due?
  cases stage with
  | between k =>
    have hx : Moment.begin k st = (a, m') := Option.some.inj h
    exact ⟨0, hx ▸ elapses_begin setup k st⟩
  | reading k taken =>
    have hx : Moment.read k taken st = (a, m') := Option.some.inj h
    exact ⟨0, hx ▸ elapses_read setup k st taken⟩
  | reporting k n =>
    have hx : (report setup k n st).settled k = (a, m') := Option.some.inj h
    exact ⟨0, hx ▸ elapses_report setup k n st⟩
  | computing k n =>
    have hx : Moment.compute setup k n st = (a, m') := Option.some.inj h
    exact ⟨setup.workMs, hx ▸ elapses_compute setup k n st hdue⟩
  | suspended k taken w =>
    have hx : Moment.wake setup k taken w st = (a, m') := Option.some.inj h
    cases hc : st.clock.cancelled with
    | true => exact ⟨0, hx ▸ elapses_giveUp setup k st taken w hc⟩
    | false =>
      cases w with
      | turn => exact ⟨0, hx ▸ elapses_turn setup k st taken hc⟩
      | sleep ms => exact ⟨ms, hx ▸ elapses_sleep setup k st taken ms hc hdue⟩
      | forever =>
        rw [Moment.wake, hc, hdue] at hx
        obtain ⟨-, rfl⟩ := Prod.mk.inj hx
        exact absurd rfl he
  | finishing k n ms => exact absurd rfl (hm.not_finishing k n ms)
  | ended e => contradiction

/-- Time does not run backwards. -/
theorem now_le_of_leads (h : Leads setup m a m') (hm : m.Alone) : m.now ≤ m'.now := by
  induction h with
  | refl m => exact le_rfl
  | @step m m₁ m' a b hn hl ih =>
    refine le_trans ?_ (ih (alone_next hn hm))
    by_cases he : m₁.stage = .ended .hung
    · exact (holds_of_hung hn he).1.ge
    · obtain ⟨d, hd⟩ := elapses_next hn hm he
      exact hd.now.ge.trans' (Nat.le_add_right _ d)

/-- A run that hangs gets no further. -/
theorem not_hung_of_leads (h : Leads setup m a m') (hh : m'.stage ≠ .ended .hung) :
    m.stage ≠ .ended .hung := by
  rintro he
  obtain ⟨stage, st⟩ := m
  obtain rfl : stage = .ended .hung := he
  obtain ⟨-, rfl⟩ := eq_of_leads_ended h
  exact hh rfl

/-- **An interrupt changes nothing before it is due.** -/
theorem leads_expecting {t : Nat} (h : Leads setup m a m') (hm : m.Alone) (ht : m'.now < t)
    (hh : m'.stage ≠ .ended .hung) : Leads setup (m.expecting t) a (m'.expecting t) := by
  induction h with
  | refl m => exact .refl _
  | @step m m₁ m' a b hn hl ih =>
    have hm₁ := alone_next hn hm
    obtain ⟨d, hd⟩ := elapses_next hn hm (not_hung_of_leads hl hh)
    have hlt : m.now + d < t := hd.now.symm.trans_lt ((now_le_of_leads hl hm₁).trans_lt ht)
    exact .step (hd.later t hlt) (ih hm₁ ht hh)

/-- **What an interrupt finds.** A run is over before the interrupt is due, or there is a moment
before that time at which it waits for that long. -/
theorem exists_holds {t : Nat} {e : Ending} {st : State} (h : Leads setup m a ⟨.ended e, st⟩)
    (hm : m.Alone) (ht : m.now < t) (hh : m.stage ≠ .ended .hung) :
    (e ≠ .hung ∧ st.clock.now < t) ∨
      ∃ b m', Leads setup m b m' ∧ m'.now < t ∧ m'.Holds setup t := by
  generalize hx : (⟨.ended e, st⟩ : Moment) = x at h
  induction h with
  | refl m =>
    subst hx
    exact .inl ⟨fun he ↦ hh (congrArg Stage.ended he), ht⟩
  | @step m m₁ m' a b hn hl ih =>
    by_cases he : m₁.stage = .ended .hung
    · exact .inr ⟨{}, m, .refl m, ht, (holds_of_hung hn he).2 t⟩
    · obtain ⟨d, hd⟩ := elapses_next hn hm he
      by_cases hlt : m.now + d < t
      · rcases ih (alone_next hn hm) (hd.now.trans_lt hlt) he hx with
          hover | ⟨c, m'', hc, hm'', hholds⟩
        · exact .inl hover
        · exact .inr ⟨a ++ c, m'', .step hn hc, hm'', hholds⟩
      · exact .inr ⟨{}, m, .refl m, ht, hd.holds t ht (Nat.not_lt.1 hlt)⟩

end Alone

/-! ### What the interrupt does -/

@[simp] theorem Clock.interruptAt_expecting (t u : Nat) (c : Clock) :
    (c.expecting t).interruptAt u = c.interruptAt u := rfl

section Interrupted

variable (setup : Setup) (t : Nat) {k : Nat} {n : UInt64} {st : State}

/-- An interrupt in the course of a wait for input. -/
theorem next_wait_expecting (taken : List UInt8) {w : Wait} (hc : st.clock.cancelled = false)
    (hw : w.Lasts st.clock.now t) :
    ∃ w', Moment.next setup ⟨.suspended k taken w, st.expecting t⟩ =
      some (Moment.interrupt setup t (.suspended k taken w') (st.expecting t)) := by
  cases w with
  | turn => exact hw.elim
  | sleep ms =>
    refine ⟨.sleep (st.clock.now + ms - t), ?_⟩
    have hdue : t ≤ st.clock.now + ms := hw
    show some (Moment.wake setup k taken (.sleep ms) (st.expecting t)) = _
    rw [wake_sleep setup k (st.expecting t) taken ms hc, State.clock_expecting,
      Clock.dueBy?_expecting, Clock.now_expecting, if_pos hdue]
  | forever =>
    refine ⟨.forever, ?_⟩
    show some (Moment.wake setup k taken .forever (st.expecting t)) = _
    rw [Moment.wake, State.clock_expecting, Clock.cancelled_expecting, hc]
    rfl

/-- **An interrupt ends a wait for input**, and the run with it, at once. -/
theorem leads_wait_expecting (taken : List UInt8) {w : Wait} (hc : st.clock.cancelled = false)
    (hw : w.Lasts st.clock.now t) :
    ∃ a st', Leads setup ⟨.suspended k taken w, st.expecting t⟩ a ⟨.ended .cancelled, st'⟩ ∧
      a.reports = [] ∧ st'.clock = st.clock.interruptAt t := by
  obtain ⟨w', hnext⟩ := next_wait_expecting setup t (k := k) taken hc hw
  exact ⟨_, _, leads_interrupt setup k hnext, rfl, rfl⟩

/-- Work in the course of which an interrupt comes is done if it ends within the grace period, and
is stopped with the grace period otherwise. -/
theorem Clock.work_expecting {c : Clock} {ms : Nat} (h0 : ms ≠ 0) (hs : c.supervised = true)
    (ht : t ≤ c.now + ms) :
    (c.expecting t).work ms =
      if c.now + ms < t + graceMs then .done ((c.interruptAt t).advanceTo (c.now + ms))
      else .stopped ((c.interruptAt t).advanceTo (t + graceMs)) := by
  have hs' : (c.expecting t).supervised = true := hs
  rw [work, if_neg h0, now_expecting, dueBy?_expecting, if_pos ht, hs']
  simp

/-- An interrupt in the course of a computation. -/
theorem next_work_expecting (h0 : setup.workMs ≠ 0) (ht : t ≤ st.clock.now + setup.workMs) :
    Moment.next setup ⟨.computing k n, st.expecting t⟩ =
      some ({ trace := .opened (.compute n) ::
                announced setup st.clock (st.clock.interruptAt t)
              marks := [.request] },
        ⟨.finishing k n (st.clock.now + setup.workMs - t),
          { st with clock := st.clock.interruptAt t }⟩) := by
  show some (Moment.compute setup k n (st.expecting t)) = _
  rw [Moment.compute, if_neg h0, State.clock_expecting, Clock.dueBy?_expecting,
    Clock.now_expecting, if_pos ht]
  rfl

/-- **An interrupt comes while the run waits.** -/
theorem next_of_holds {m : Moment} (h : m.Holds setup t) :
    ∃ a m', (m.expecting t).next setup = some (a, m') ∧ a.reports = [] ∧
      m'.state.clock = m.state.clock.interruptAt t := by
  cases h with
  | @input k taken w st hc hw =>
    obtain ⟨w', hnext⟩ := next_wait_expecting setup t (k := k) taken hc hw
    exact ⟨_, _, hnext, rfl, rfl⟩
  | work h0 ht => exact ⟨_, _, next_work_expecting setup t h0 ht, rfl, rfl⟩

section Work

variable (h0 : setup.workMs ≠ 0) (hs : st.clock.supervised = true)
  (ht : t ≤ st.clock.now + setup.workMs)

include h0 hs ht

/-- **A computation that ends within the grace period is answered**, and the run ends with it. -/
theorem leads_answered_expecting (hb : setup.breaksAt? ≠ some (st.reported + 1))
    (hgrace : st.clock.now + setup.workMs < t + Clock.graceMs) :
    ∃ a st', Leads setup ⟨.computing k n, st.expecting t⟩ a ⟨.ended .cancelled, st'⟩ ∧
      a.reports = [.on setup.policy n] ∧ st'.clock.now = st.clock.now + setup.workMs := by
  have hwork := Clock.work_expecting t h0 hs ht
  rw [if_pos hgrace] at hwork
  have hanswer := leads_answer setup k n (st.expecting t)
  rw [answer, State.clock_expecting, hwork] at hanswer
  dsimp only [report] at hanswer
  rw [if_neg (show ¬setup.breaksAt? = some ((st.expecting t).reported + 1) from hb)] at hanswer
  -- the report leaves the run cancelled, so the head of the loop ends it
  have hstop : ∀ st' : State, st'.clock.cancelled = true → Moment.next setup ⟨.between k, st'⟩ =
      some (.ofTrace [.logged [.run] (.cancelled k)], ⟨.ended .cancelled, st'⟩) := by
    intro st' hc
    show some (Moment.begin k st') = _
    rw [Moment.begin, if_pos hc]
  exact ⟨_, _, hanswer.trans (.single (hstop _ rfl)), rfl, rfl⟩

/-- **A computation that does not end within the grace period is stopped** when that is over. -/
theorem leads_stopped_expecting (hgrace : t + Clock.graceMs ≤ st.clock.now + setup.workMs) :
    ∃ a st', Leads setup ⟨.computing k n, st.expecting t⟩ a
        ⟨.ended (.stopped [.compute n, .iteration k]), st'⟩ ∧
      a.reports = [] ∧ st'.clock.now = t + Clock.graceMs := by
  have hwork := Clock.work_expecting t h0 hs ht
  rw [if_neg (Nat.not_lt.2 hgrace)] at hwork
  have hanswer := leads_answer setup k n (st.expecting t)
  rw [answer, State.clock_expecting, hwork] at hanswer
  exact ⟨_, _, hanswer, rfl, rfl⟩

end Work

end Interrupted

end TracedFibonacci
