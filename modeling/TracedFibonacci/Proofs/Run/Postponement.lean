import TracedFibonacci.Proofs.Run.Grace
import Mathlib.Data.List.Infix

/-!
# A later end loses no reports

A run that is interrupted makes some of the reports of the run that is not, the first ones, and the
later the interrupt comes the more of them it makes. What has to be looked at is the request that is
being answered when the interrupt comes. Its computation may still be completed in the grace period,
and then it is also completed under a later interrupt, whose grace period ends later
(`Clock.done_of_later`).

The same holds of a run that is cancelled by whoever it may be. A cancellation leaves the answer
that is under way alone (`next_cancel`), so nothing is reported that the run would not have reported
by itself. A receiver that cancels the run after a certain number of reports gets just as many of
them.
-/

namespace TracedFibonacci

open Iteration

/-! ### The answer under way -/

theorem Stretch.reports_settled (k : Nat) (r : Stretch) :
    (r.settled k).1.reports = r.activity.reports := by
  obtain ⟨c, st, a⟩ := r
  cases c with
  | reported => simp [settled, closed, followed, Activity.ofTrace]
  | ended e => cases e <;> simp [settled, closed, followed, Ending.leave, Activity.ofTrace]

/-- What follows the last stretch of an iteration takes over its state. -/
theorem Stretch.settled_eq (k : Nat) (r : Stretch) :
    (r.settled k).2 = ⟨.between k, r.state⟩ ∨ ∃ e, (r.settled k).2 = ⟨.ended e, r.state⟩ := by
  obtain ⟨c, st, a⟩ := r
  cases c with
  | reported => exact .inl rfl
  | ended e => cases e <;> exact .inr ⟨_, rfl⟩

/-- A run that is cancelled and answers no request reports nothing more. -/
theorem reports_eq_nil_of_cancelled {setup : Setup} {m m' : Moment} {a : Activity}
    (h : Leads setup m a m') (hm : m.Consistent) (hc : m.cancelled = true)
    (hreq : m.stage.request? = none) : a.reports = [] := by
  rcases (windsDown h hm hc).reports with ⟨hnil, -⟩ | ⟨n, hn, -⟩
  · exact hnil
  · rw [hreq] at hn
    contradiction

/-- A cancellation from outside in the course of a computation leaves the run cancelled, however the
computation ends. -/
theorem Clock.cancelled_work_of_due {c : Clock} {ms t : Nat} (h0 : ms ≠ 0)
    (hdue : c.dueBy? (c.now + ms) = some t) : (c.work ms).clock.cancelled = true := by
  rw [work_eq, if_neg h0, hdue]
  dsimp only [windUp]
  split <;> rfl

section Answer

variable (setup : Setup) (k : Nat) (n : UInt64) {st st' : State}

/-- A computation that is done is answered, unless the receiver breaks down. -/
theorem reports_answer_of_done {c : Clock} (h : st.clock.work setup.workMs = .done c) :
    (answer setup k n st).activity.reports =
      if setup.breaksAt? = some (st.reported + 1) then [] else [.on setup.policy n] := by
  rw [answer, h]
  dsimp only [report]
  split <;> simp [Stretch.after, Activity.ofTrace]

/-- One that is stopped is not. -/
theorem reports_answer_of_stopped {c : Clock} (h : st.clock.work setup.workMs = .stopped c) :
    (answer setup k n st).activity.reports = [] := by
  rw [answer, h]

/-- Where a computation is done whenever another one is, its answer is reported whenever that of the
other one is. -/
theorem isPrefix_reports_answer (hreported : st'.reported = st.reported)
    (hdone : ∀ c, st.clock.work setup.workMs = .done c →
      ∃ c', st'.clock.work setup.workMs = .done c') :
    (answer setup k n st).activity.reports <+: (answer setup k n st').activity.reports := by
  cases hwork : st.clock.work setup.workMs with
  | stopped c =>
    rw [reports_answer_of_stopped setup k n hwork]
    exact List.nil_prefix
  | done c =>
    obtain ⟨c', hwork'⟩ := hdone c hwork
    rw [reports_answer_of_done setup k n hwork, reports_answer_of_done setup k n hwork', hreported]

/-- A run that answers a request makes the report of the answer first. -/
theorem isPrefix_reports_answer_of_leads {b : Activity} {e : Ending}
    (h : Leads setup ⟨.computing k n, st⟩ b ⟨.ended e, st'⟩) :
    (answer setup k n st).activity.reports <+: b.reports := by
  obtain ⟨c, rfl, -⟩ := (leads_answer setup k n st).rest h
  rw [Activity.reports_append, Stretch.reports_settled]
  exact List.prefix_append _ _

/-- An answer leaves a run cancelled whose computation does. -/
theorem cancelled_answer (h : (st.clock.work setup.workMs).clock.cancelled = true) :
    (answer setup k n st).state.clock.cancelled = true := by
  rw [answer]
  cases hwork : st.clock.work setup.workMs with
  | stopped c =>
    rw [hwork] at h
    exact h
  | done c =>
    rw [hwork] at h
    dsimp only [report]
    split
    · exact h
    · exact Bool.or_eq_true_iff.2 (.inl h)

/-- Where a cancellation from outside comes in the course of the computation, the report of the
answer is the last one. -/
theorem reports_of_leads_of_due {t : Nat} {b : Activity} {e : Ending} (h0 : setup.workMs ≠ 0)
    (hdue : st.clock.dueBy? (st.clock.now + setup.workMs) = some t)
    (h : Leads setup ⟨.computing k n, st⟩ b ⟨.ended e, st'⟩) :
    b.reports = (answer setup k n st).activity.reports := by
  obtain ⟨c, rfl, hrest⟩ := (leads_answer setup k n st).rest h
  have hc := cancelled_answer setup k n (Clock.cancelled_work_of_due h0 hdue)
  have hnil : c.reports = [] := by
    rcases Stretch.settled_eq k (answer setup k n st) with hm | ⟨e', hm⟩
    · rw [hm] at hrest
      exact reports_eq_nil_of_cancelled hrest (consistent_between k _) hc rfl
    · rw [hm] at hrest
      rw [(eq_of_leads_ended hrest).1]
  rw [Activity.reports_append, Stretch.reports_settled, hnil, List.append_nil]

end Answer

/-! ### A later interrupt -/

theorem alone_of_leads {setup : Setup} {m m' : Moment} {a : Activity} (h : Leads setup m a m')
    (hm : m.Alone) : m'.Alone := by
  induction h with
  | refl m => exact hm
  | step hn _ ih => exact ih (alone_next hn hm)

namespace Clock

variable {c : Clock} {ms : Nat}

/-- Nothing keeps a computation from being completed when no cancellation is to come. -/
theorem done_of_due? (h : c.due? = none) : ∃ c', c.work ms = .done c' := by
  rw [work]
  split
  · exact ⟨c, rfl⟩
  · rw [dueBy?_of_due? h]
    exact ⟨_, rfl⟩

/-- **A computation that is completed under an interrupt is completed under a later one**: either it
is over before that comes, or the grace period ends later. -/
theorem done_of_later {c₁ : Clock} {t u : Nat} (hle : t ≤ u)
    (h : (c.expecting t).work ms = .done c₁) : ∃ c₂, (c.expecting u).work ms = .done c₂ := by
  unfold work at h ⊢
  by_cases h0 : ms = 0
  · exact ⟨_, if_pos h0⟩
  rw [if_neg h0, now_expecting, dueBy?_expecting] at h ⊢
  by_cases hu : u ≤ c.now + ms
  · rw [if_pos (hle.trans hu)] at h
    rw [if_pos hu]
    dsimp only at h ⊢
    split at h
    · next hgo =>
      have hgo' : (!(c.expecting u).supervised || decide (c.now + ms < u + graceMs)) = true := by
        rw [Bool.or_eq_true, decide_eq_true_eq] at hgo ⊢
        exact hgo.imp_right fun hlt ↦ by omega
      exact ⟨_, if_pos hgo'⟩
    · contradiction
  · rw [if_neg hu]
    exact ⟨_, rfl⟩

end Clock

/-- **What an interrupt finds goes no further than without it.** From a moment at which the run
waits when the interrupt comes, it makes no report that it would not have made under a clock that
completes the same computations. -/
theorem reports_prefix_of_holds {setup : Setup} {t : Nat} {stage : Stage} (st st' : State)
    {s s' : State} {b b' : Activity} {e e' : Ending} (hm : Moment.Holds setup t ⟨stage, st⟩)
    (hreported : st'.reported = st.reported)
    (hdone : ∀ c, (st.expecting t).clock.work setup.workMs = .done c →
      ∃ c', st'.clock.work setup.workMs = .done c')
    (hb : Leads setup ⟨stage, st.expecting t⟩ b ⟨.ended e, s⟩)
    (hb' : Leads setup ⟨stage, st'⟩ b' ⟨.ended e', s'⟩) : b.reports <+: b'.reports := by
  cases hm with
  | @input k taken w _ hc hw =>
    obtain ⟨a, _, hleads, hnil, -⟩ := leads_wait_expecting setup t (k := k) taken hc hw
    obtain ⟨c, rfl, hrest⟩ := hleads.rest hb
    rw [(eq_of_leads_ended hrest).1, Activity.append_nil, hnil]
    exact List.nil_prefix
  | @work k n _ h0 ht =>
    have hdue : (st.expecting t).clock.dueBy? ((st.expecting t).clock.now + setup.workMs) =
        some t := by
      rw [State.clock_expecting, Clock.dueBy?_expecting, Clock.now_expecting, if_pos ht]
    rw [reports_of_leads_of_due setup k n h0 hdue hb]
    have hanswer : (answer setup k n (st.expecting t)).activity.reports <+:
        (answer setup k n st').activity.reports :=
      isPrefix_reports_answer setup k n hreported hdone
    exact hanswer.trans (isPrefix_reports_answer_of_leads setup k n hb')

namespace Supervision

section Later

variable (setup : Setup) {t : Nat} (cancelled : Bool) (source : Source) (lines : Nat)

theorem reports_of_task {interrupt? : Option Nat} {a : Activity} {m : Moment}
    (h : Leads setup (outset interrupt? cancelled source lines) a m) :
    ∃ b e, Leads setup m b ⟨.ended e, (task setup interrupt? cancelled source lines).state⟩ ∧
      (task setup interrupt? cancelled source lines).activity.reports = a.reports ++ b.reports := by
  obtain ⟨c, e, hleads, -, hact⟩ := leads_task setup interrupt? cancelled source lines
  obtain ⟨b, rfl, hrest⟩ := h.rest hleads
  refine ⟨b, e, hrest, ?_⟩
  rw [hact]
  simp [Activity.ofTrace]

/-- **A task that is interrupted later**, or not at all, makes the same reports first. -/
theorem isPrefix_reports_task (later? : Option Nat) (hle : ∀ u, later? = some u → t ≤ u) :
    (task setup (some t) cancelled source lines).activity.reports <+:
      (task setup later? cancelled source lines).activity.reports := by
  rcases Nat.eq_zero_or_pos t with rfl | ht
  · rw [task_zero]
    exact List.nil_prefix
  by_cases hover : (task setup none cancelled source lines).OverBefore t
  · -- neither of the two interrupts finds anything
    rw [task_of_overBefore setup cancelled source lines hover]
    cases later? with
    | none => exact List.prefix_refl _
    | some u =>
      have hover' : (task setup none cancelled source lines).OverBefore u :=
        ⟨hover.1, hover.2.trans_le (hle u rfl)⟩
      rw [task_of_overBefore setup cancelled source lines hover']
  · obtain ⟨a, ⟨stage, st⟩, hm, hlt, hholds⟩ :=
      exists_holds_task setup cancelled source lines ht hover
    have hh : stage ≠ .ended .hung := by cases hholds <;> simp
    obtain ⟨b, e, hb, hreports⟩ :=
      reports_of_task setup cancelled source lines (leads_outset setup cancelled source lines hm
        hlt hh)
    rw [hreports]
    cases later? with
    | none =>
      obtain ⟨b', e', hb', hreports'⟩ := reports_of_task setup cancelled source lines hm
      have hdue : st.clock.due? = none :=
        (alone_of_leads hm (alone_outset cancelled source lines)).due?
      rw [hreports', List.prefix_append_right_inj]
      exact reports_prefix_of_holds st st hholds rfl (fun _ _ ↦ Clock.done_of_due? hdue) hb hb'
    | some u =>
      have hu := hle u rfl
      obtain ⟨b', e', hb', hreports'⟩ :=
        reports_of_task setup cancelled source lines (leads_outset setup cancelled source lines hm
          (hlt.trans_le hu) hh)
      rw [hreports', List.prefix_append_right_inj]
      exact reports_prefix_of_holds st (st.expecting u) hholds rfl
        (fun _ h ↦ Clock.done_of_later hu h) hb hb'

end Later

end Supervision

/-! ### A run that is cancelled -/

section Cancelled

variable {setup : Setup} {m m' m'' : Moment} {a b c : Activity}

/-- The same moment of a run that has just been cancelled. -/
def Moment.cancel (m : Moment) : Moment :=
  { m with state := { m.state with clock := m.state.clock.cancel } }

theorem Clock.windUp_cancel (c : Clock) (ms : Nat) :
    c.cancel.windUp ms =
      match c.windUp ms with
      | .done c' => .done c'.cancel
      | .stopped c' => .stopped c'.cancel := by
  have hgo : (!c.cancel.supervised || decide (ms < graceMs)) =
      (!c.supervised || decide (ms < graceMs)) := rfl
  rw [windUp, windUp, hgo]
  by_cases h : (!c.supervised || decide (ms < graceMs)) = true
  · rw [if_pos h, if_pos h]
    rfl
  · rw [if_neg h, if_neg h]
    rfl

/-- **An answer that is under way does not look for a cancellation.** -/
theorem next_cancel (h : m.stage.request?.isSome = true) :
    m.cancel.next setup = (m.next setup).map fun x ↦ (x.1, x.2.cancel) := by
  obtain ⟨stage, st⟩ := m
  cases stage with
  | computing k n =>
    have hdue : st.clock.cancel.dueBy? (st.clock.now + setup.workMs) =
        st.clock.dueBy? (st.clock.now + setup.workMs) := rfl
    show some (Moment.compute setup k n { st with clock := st.clock.cancel }) =
      some ((Moment.compute setup k n st).1, (Moment.compute setup k n st).2.cancel)
    unfold Moment.compute
    by_cases h0 : setup.workMs = 0
    · rw [if_pos h0, if_pos h0]
      rfl
    · rw [if_neg h0, if_neg h0]
      dsimp only [Clock.cancel] at hdue ⊢
      rw [hdue]
      cases st.clock.dueBy? (st.clock.now + setup.workMs) <;> rfl
  | finishing k n ms =>
    show some (Moment.finish k n ms { st with clock := st.clock.cancel }) =
      some ((Moment.finish k n ms st).1, (Moment.finish k n ms st).2.cancel)
    unfold Moment.finish
    dsimp only
    rw [Clock.windUp_cancel]
    cases st.clock.windUp ms <;> rfl
  | reporting k n =>
    show some ((report setup k n { st with clock := st.clock.cancel }).settled k) =
      some (((report setup k n st).settled k).1, ((report setup k n st).settled k).2.cancel)
    unfold report
    dsimp only
    by_cases hb : setup.breaksAt? = some (st.reported + 1)
    · rw [if_pos hb, if_pos hb]
      rfl
    · rw [if_neg hb, if_neg hb]
      rfl
  | _ => contradiction

/-- A run may be cancelled by somebody at any moment but that of an attempt to read. -/
theorem consistent_cancel (hm : m.Consistent) (hr : ∀ k taken, m.stage ≠ .reading k taken) :
    m.cancel.Consistent where
  not_reading _ := hr
  finishing _ _ _ hs := ⟨rfl, (hm.finishing _ _ _ hs).2⟩
  ended_cancelled _ := rfl

/-- **What is reported after a cancellation is reported without it**, before anything else. -/
theorem reports_prefix_of_cancel {e : Ending} {st : State} (hm : m.cancel.Consistent)
    (hb : Leads setup m.cancel b m') (hc : Leads setup m c ⟨.ended e, st⟩) :
    b.reports <+: c.reports := by
  generalize hx : m.cancel = x at hm hb
  induction hb generalizing m c with
  | refl x => exact List.nil_prefix
  | @step x x₁ x' b b' hn hl ih =>
    subst hx
    cases hreq : m.stage.request? with
    | none =>
      have hnil := reports_eq_nil_of_cancelled (.step hn hl) hm rfl hreq
      rw [hnil]
      exact List.nil_prefix
    | some n =>
      rw [next_cancel (by rw [hreq]; rfl)] at hn
      obtain ⟨⟨d, m₁⟩, hn', hd⟩ := Option.map_eq_some_iff.1 hn
      obtain ⟨rfl, rfl⟩ := Prod.mk.inj hd
      cases hc with
      | refl => contradiction
      | step hn'' hc =>
        obtain ⟨rfl, rfl⟩ := by simpa using hn'.symm.trans hn''
        rw [Activity.reports_append, Activity.reports_append, List.prefix_append_right_inj]
        exact ih hc rfl (consistent_next ((next_cancel (by rw [hreq]; rfl)).trans hn))

/-- The reports of a run are those of its loop. -/
theorem Run.reports_start (setup : Setup) (st : State) :
    (start setup st).activity.reports = (loop setup 0 st).activity.reports := by
  simp [start, Activity.ofTrace]

/-- **The reports of a run that somebody cancels** are the first ones of the run that nobody
cancels. -/
theorem Run.reports_prefix_of_cancel {st : State} (ha : Leads setup ⟨.between 0, st⟩ a m)
    (hr : ∀ k taken, m.stage ≠ .reading k taken) (hb : Leads setup m.cancel b m') :
    a.reports ++ b.reports <+: (Run.start setup st).activity.reports := by
  obtain ⟨c, hsum, hc⟩ := ha.rest (leads_loop setup 0 st)
  have hm := consistent_cancel (consistent_of_leads ha (consistent_between 0 st)) hr
  rw [reports_start, hsum, Activity.reports_append, List.prefix_append_right_inj]
  exact TracedFibonacci.reports_prefix_of_cancel hm hb hc

end Cancelled

/-! ### A receiver that cancels the run -/

/-- The same, but for how many reports the receiver waits before it cancels the run. -/
def Setup.cancellingAfter (j? : Option Nat) (setup : Setup) : Setup :=
  { setup with cancelsAfter? := j? }

section Receiver

variable {setup : Setup} {j : Nat} {m m' : Moment} {a a' : Activity}

/-- Only the report of the given number is one after which the receiver cancels. -/
theorem next_cancellingAfter (h : ∀ k n, m.stage = .reporting k n → m.state.reported + 1 ≠ j) :
    m.next (setup.cancellingAfter (some j)) = m.next (setup.cancellingAfter none) := by
  obtain ⟨stage, st⟩ := m
  cases stage with
  | reporting k n =>
    have hj : decide ((setup.cancellingAfter (some j)).cancelsAfter? = some (st.reported + 1)) =
        decide ((setup.cancellingAfter none).cancelsAfter? = some (st.reported + 1)) :=
      decide_eq_false fun hj ↦ h k n rfl (Option.some.inj hj).symm
    have hsame : report (setup.cancellingAfter (some j)) k n st =
        report (setup.cancellingAfter none) k n st := by
      rw [report, report, hj]
      rfl
    exact congrArg (fun r ↦ some (Stretch.settled k r)) hsame
  | _ => rfl

/-- A number of reports that was reached before is not reached again. -/
theorem leads_cancellingAfter (hj : j ≤ m.state.reported)
    (h : Leads (setup.cancellingAfter (some j)) m a m') :
    Leads (setup.cancellingAfter none) m a m' := by
  induction h with
  | refl m => exact .refl m
  | @step m m₁ m' a b hn _ ih =>
    have hcount := reported_of_leads (.single hn)
    rw [next_cancellingAfter fun _ _ _ ↦ by omega] at hn
    exact .step hn (ih (by omega))

/-- **A receiver that cancels the run after a number of reports gets so many of them**, or as many
as there are. -/
theorem reports_take_of_leads {e e' : Ending} {s s' : State} (hj : m.state.reported < j)
    (h : Leads (setup.cancellingAfter (some j)) m a ⟨.ended e, s⟩)
    (h' : Leads (setup.cancellingAfter none) m a' ⟨.ended e', s'⟩) :
    a.reports = a'.reports.take (j - m.state.reported) := by
  generalize hx : (⟨.ended e, s⟩ : Moment) = x at h
  induction h generalizing a' with
  | refl m =>
    subst hx
    rw [(eq_of_leads_ended h').1]
    exact List.take_nil.symm
  | @step m m₁ x a b hn hl ih =>
    cases h' with
    | refl => contradiction
    | @step _ m₁' _ c b' hn' hl' =>
      by_cases hlast : ∃ k n, m.stage = .reporting k n ∧ m.state.reported + 1 = j
      · -- after this report the one run is over, and what the other one reports does not matter
        obtain ⟨k, n, hstage, rfl⟩ := hlast
        obtain ⟨stage, st⟩ := m
        obtain rfl : stage = .reporting k n := hstage
        have hone : st.reported + 1 - st.reported = 1 := Nat.add_sub_cancel_left _ _
        dsimp only at hn hn' hj ⊢
        rw [hone]
        cases moves_of_next hn with
        | fail hb =>
          cases moves_of_next hn' with
          | report hb' => exact absurd hb hb'
          | fail =>
            rw [(eq_of_leads_ended hl).1, (eq_of_leads_ended hl').1]
            rfl
        | report hb =>
          cases moves_of_next hn' with
          | fail hb' => exact absurd hb' hb
          | report =>
            have hc : (st.clock.cancelled || decide (some (st.reported + 1) =
                some (st.reported + 1))) = true := Bool.or_eq_true_iff.2 (.inr (decide_eq_true rfl))
            have hnil := reports_eq_nil_of_cancelled hl (consistent_between k _) hc rfl
            rw [Activity.reports_append, Activity.reports_append, hnil]
            rfl
      · have hsame : ∀ k n, m.stage = .reporting k n → m.state.reported + 1 ≠ j :=
          fun k n hs hj ↦ hlast ⟨k, n, hs, hj⟩
        obtain ⟨rfl, rfl⟩ := by
          simpa using hn.symm.trans ((next_cancellingAfter hsame).trans hn')
        have hcount := reported_of_leads (.single hn)
        have hlt : m₁.state.reported < j := by
          cases moves_of_next hn with
          | report => exact lt_of_le_of_ne hj (hsame _ _ rfl)
          | _ => exact hj
        have hsum : j - m.state.reported = a.reports.length + (j - m₁.state.reported) := by omega
        rw [Activity.reports_append, Activity.reports_append, hsum,
          List.take_length_add_append, ih hlt hl' hx]

/-- What a receiver gets that cancels the run after the report of a certain number: as many of the
reports as there are up to that one, and all of them if that number is past. -/
theorem Run.reports_cancellingAfter (setup : Setup) (st : State) (j : Nat) :
    (start (setup.cancellingAfter (some j)) st).activity.reports =
      if st.reported < j then
        (start (setup.cancellingAfter none) st).activity.reports.take (j - st.reported)
      else (start (setup.cancellingAfter none) st).activity.reports := by
  have hfirst := leads_loop (setup.cancellingAfter (some j)) 0 st
  have hall := leads_loop (setup.cancellingAfter none) 0 st
  rw [reports_start, reports_start]
  split
  · next hj => exact reports_take_of_leads hj hfirst hall
  · next hj =>
    rw [loop_eq_of_leads (leads_cancellingAfter (Nat.not_lt.1 hj) hfirst)]

end Receiver

/-- **The earlier a run ends, the fewer of its reports it makes**, and always the first ones. A
supervised run that is interrupted at some time makes reports that it also makes if it is
interrupted later, or not at all, and it makes them first. A run that somebody cancels at any moment
but that of an attempt to read makes the first ones of the reports that it makes otherwise. And a
run that the receiver of its reports cancels after the report of a certain number makes just the
reports up to that one of the run that the receiver never cancels. -/
theorem earlier_end_keeps_reports (setup : Setup) :
    (∀ cancelled source lines t later?, (∀ u, later? = some u → t ≤ u) →
      (Supervision.supervise setup (some t) cancelled source lines).activity.reports <+:
        (Supervision.supervise setup later? cancelled source lines).activity.reports) ∧
    (∀ st a m b m', Leads setup ⟨.between 0, st⟩ a m → (∀ k taken, m.stage ≠ .reading k taken) →
      Leads setup m.cancel b m' →
        a.reports ++ b.reports <+: (Run.start setup st).activity.reports) ∧
    ∀ st j,
      (Run.start (setup.cancellingAfter (some j)) st).activity.reports <+:
        (Run.start (setup.cancellingAfter none) st).activity.reports ∧
      (st.reported < j →
        (Run.start (setup.cancellingAfter (some j)) st).activity.reports =
          (Run.start (setup.cancellingAfter none) st).activity.reports.take (j - st.reported)) := by
  refine ⟨fun cancelled source lines t later? hle ↦ ?_, fun st a m b m' ha hr hb ↦ ?_,
    fun st j ↦ ⟨?_, fun hj ↦ ?_⟩⟩
  · rw [Supervision.reports_supervise, Supervision.reports_supervise]
    exact Supervision.isPrefix_reports_task setup cancelled source lines later? hle
  · exact Run.reports_prefix_of_cancel ha hr hb
  · rw [Run.reports_cancellingAfter]
    split
    · exact List.take_prefix _ _
    · exact List.prefix_refl _
  · rw [Run.reports_cancellingAfter, if_pos hj]

/-- A run of two requests, each of which takes a second to compute: with interrupts at the beginning
and near the end of the first computation and in the course of the second, with somebody who cancels
it in the course of the first, and with a receiver that is content with one report. -/
theorem earlier_end_keeps_reports_seconds :
    let setup : Setup := { workDelayUs := 1000000 }
    let source : Source := { arrivals := [.bytes [55, 10, 56], .pause, .bytes [10]] }
    let st : State := { reader := { source } }
    let reports t := (Supervision.supervise setup (some t) false source).activity.reports
    (reports 10 <+: reports 600 ∧ reports 600 <+: reports 1900 ∧
      (reports 10).length = 0 ∧ (reports 600).length = 1 ∧ (reports 1900).length = 2) ∧
    (∃ a m b m', Leads setup ⟨.between 0, st⟩ a m ∧ m.stage = .computing 1 7 ∧
      Leads setup m.cancel b m' ∧ b.reports = [.on .wrapping 7] ∧
      a.reports ++ b.reports <+: (Run.start setup st).activity.reports) ∧
    (Run.start (setup.cancellingAfter (some 1)) st).activity.reports =
      (Run.start (setup.cancellingAfter none) st).activity.reports.take 1 := by
  intro setup source st reports
  obtain ⟨hlater, hcancel, hreceiver⟩ := earlier_end_keeps_reports setup
  refine ⟨⟨hlater _ _ _ _ _ ?_, hlater _ _ _ _ _ ?_, by decide +kernel, by decide +kernel,
    by decide +kernel⟩, ?_, (hreceiver st 1).2 (by decide)⟩
  · rintro u ⟨⟩
    decide
  · rintro u ⟨⟩
    decide
  · have hread : source.readLine [] = ⟨false, .line [55, 10], { source with
        buffer := [56], arrivals := [.pause, .bytes [10]] }⟩ := by
      decide +kernel
    have hreceive : Reader.receive 0 [55, 10] = (.ok 7, 1) := by
      decide +kernel
    have hattempt : (source.readLine []).ended.outcome? = some (.line [55, 10]) := by
      rw [hread]
      rfl
    have hbegin : Moment.next setup ⟨.between 0, st⟩ = some (Moment.begin 0 st) := rfl
    have hnext : Moment.next setup ⟨.reading 1 [], st⟩ = some (.ofTrace [.closed .poll],
        ⟨.computing 1 7, { reader := ⟨{ source with
          buffer := [56], arrivals := [.pause, .bytes [10]] }, 1⟩ }⟩) := by
      refine (next_of_outcome setup 1 hattempt).trans ?_
      rw [hread]
      simp only [Moment.receive, Reader.conclude, hreceive]
      rfl
    have hcomputing := Leads.step hbegin (.single hnext)
    have hrest := leads_answer setup 1 7 { reader := ⟨{ source with
      buffer := [56], arrivals := [.pause, .bytes [10]] }, 1⟩, clock := Clock.cancel {} }
    obtain ⟨c, hwork⟩ : ∃ c, (Clock.cancel {}).work setup.workMs = .done c :=
      Clock.done_of_due? rfl
    refine ⟨_, _, _, _, hcomputing, rfl, hrest, ?_,
      hcancel _ _ _ _ _ hcomputing (by simp) hrest⟩
    rw [Stretch.reports_settled, reports_answer_of_done setup 1 7 hwork]
    rfl

end TracedFibonacci
