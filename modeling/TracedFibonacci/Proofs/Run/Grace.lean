import TracedFibonacci.Proofs.Run.Race

/-!
# What becomes of the grace period

An interrupt finds a run at one of two places. If the run waits for input it is over at once. If it
is inside the delay of a computation, the computation goes on: one that ends within the grace period
is answered, as the last one, and any other is stopped when the grace period is over. Nothing else
can be stopped, since nothing else takes time once the run is cancelled.

The moment that the interrupt finds is one of the run on its own (`leads_outset`), and there always
is one (`exists_holds_task`). What is said here of each of the two places is put together from the
steps of `Proofs.Run.Interruption`.

## What the supervisor says

Nothing that a run logs is the supervisor's (`said_of_leads`), so what is heard of the supervisor is
its farewell: the warning just if the run was stopped, and the leave-taking once, just if it was
interrupted.
-/

namespace TracedFibonacci

open Iteration

/-! ### What the supervisor says -/

/-- What the supervisor says in an entry of a trace. -/
def Entry.said? : Entry → Option Event
  | .logged _ e => if e.target = Event.goodbye.target then some e else none
  | _ => none

/-- What the supervisor says in a trace. -/
def Trace.said (t : Trace) : List Event := t.filterMap Entry.said?

@[simp] theorem Trace.said_append (t u : Trace) : Trace.said (t ++ u) = t.said ++ u.said :=
  List.filterMap_append

theorem Trace.said_closed (ss : List Span) : Trace.said (ss.map .closed) = [] := by
  rw [said, List.filterMap_map]
  exact List.filterMap_eq_nil_iff.2 fun _ _ ↦ rfl

section Said

variable {setup : Setup} (hann : ∀ e ∈ setup.announcement, e.target ≠ Event.goodbye.target)

include hann

theorem said_announcement : Trace.said (setup.announcement.map (.logged [])) = [] := by
  rw [Trace.said, List.filterMap_map]
  exact List.filterMap_eq_nil_iff.2 fun e he ↦ if_neg (hann e he)

theorem said_announced (c c' : Clock) : Trace.said (announced setup c c') = [] := by
  rw [announced]
  split
  · exact said_announcement hann
  · rfl

/-- No step of a run logs anything of the supervisor's. -/
theorem said_of_next {m m' : Moment} {a : Activity} (h : m.next setup = some (a, m')) :
    a.trace.said = [] := by
  cases moves_of_next h with
  | interruptWait => exact said_announced hann _ _
  | interruptWork => exact said_announced hann _ _
  | report =>
    cases setup.logsReports <;> simp [Trace.said, Entry.said?, Event.target]
  | _ => simp [Trace.said, Entry.said?, Event.target, Activity.ofTrace]

theorem said_of_leads {m m' : Moment} {a : Activity} (h : Leads setup m a m') :
    a.trace.said = [] := by
  induction h with
  | refl m => rfl
  | step hn _ ih => rw [Activity.trace_append, Trace.said_append, said_of_next hann hn, ih]; rfl

end Said

namespace Supervision

variable (setup : Setup) (interrupt? : Option Nat) (cancelled : Bool) (source : Source)
  (lines : Nat)

theorem said_task (hann : ∀ e ∈ setup.announcement, e.target ≠ Event.goodbye.target) :
    (task setup interrupt? cancelled source lines).activity.trace.said = [] := by
  obtain ⟨a, e, hleads, -, hact⟩ := leads_task setup interrupt? cancelled source lines
  have hleave : Trace.said (e.leave .run).2 = [] := by cases e <;> rfl
  rw [hact]
  simp only [Activity.trace_append, Trace.said_append, said_of_leads hann hleads,
    Activity.ofTrace, hleave]
  rfl

section Farewell

variable (hann : ∀ e ∈ setup.announcement, e.target ≠ Event.goodbye.target)

include hann

/-- What is heard of the supervisor is its farewell to a run that was interrupted. -/
theorem said_eq_farewell :
    (supervise setup interrupt? cancelled source lines).activity.trace.said =
      if (task setup interrupt? cancelled source lines).state.clock.interrupted then
        (farewell (task setup interrupt? cancelled source lines).ending).said
      else [] := by
  have htask := said_task setup interrupt? cancelled source lines hann
  have hbefore : Trace.said (if (startClock interrupt? cancelled).interrupted then
      setup.announcement.map (.logged []) else []) = [] := by
    split
    · exact said_announcement hann
    · rfl
  rw [supervise]
  split <;>
    simp only [Activity.trace_append, Trace.said_append, Activity.ofTrace, htask, hbefore,
      List.nil_append]

/-- **What the supervisor says** in all: a warning and its leave-taking of a run that was stopped,
its leave-taking of any other run that was interrupted, and nothing of a run that was not. -/
theorem said_supervise :
    let r := task setup interrupt? cancelled source lines
    let s := supervise setup interrupt? cancelled source lines
    ((∃ openSpans, r.ending = .stopped openSpans) → s.outcome? = some .interrupted ∧
      s.activity.trace.said = [.stillBusy Clock.graceMs, .goodbye]) ∧
    ((∀ openSpans, r.ending ≠ .stopped openSpans) →
      s.activity.trace.said = if s.outcome? = some .interrupted then [.goodbye] else []) := by
  intro r s
  have hsaid := said_eq_farewell setup interrupt? cancelled source lines hann
  have hout := outcome?_eq_interrupted_iff setup interrupt? cancelled source lines
  constructor
  · rintro ⟨openSpans, he⟩
    have hi := (accountable_task setup interrupt? cancelled source lines).2.2 openSpans he
    refine ⟨hout.2 hi, ?_⟩
    rw [hsaid, if_pos hi, he, farewell, Trace.said_append, Trace.said_closed]
    rfl
  · intro hne
    have hfarewell : (farewell r.ending).said = [.goodbye] := by
      cases he : r.ending with
      | stopped openSpans => exact absurd he (hne openSpans)
      | _ => rfl
    rw [hsaid, hfarewell]
    exact if_congr hout.symm rfl rfl

end Farewell

/-- The supervisor reports nothing. -/
theorem reports_supervise :
    (supervise setup interrupt? cancelled source lines).activity.reports =
      (task setup interrupt? cancelled source lines).activity.reports := by
  rw [supervise]
  split <;> simp [Activity.ofTrace]

end Supervision

/-! ### What the interrupt finds -/

namespace Moment

/-- The run is waiting for input at time `t`, and has more to wait. -/
def AwaitsInputAt (t : Nat) (m : Moment) : Prop :=
  m.now < t ∧ m.cancelled = false ∧
    ∃ k taken w, m.stage = .suspended k taken w ∧ w.Lasts m.now t

/-- The run is inside the delay of the computation for the request `n` at time `t`, which ends at
time `d`. -/
def WorksAt (setup : Setup) (t : Nat) (n : UInt64) (d : Nat) (m : Moment) : Prop :=
  m.now < t ∧ t ≤ d ∧ d = m.now + setup.workMs ∧ ∃ k, m.stage = .computing k n

variable {setup : Setup} {t : Nat} {m : Moment}

theorem AwaitsInputAt.holds (h : m.AwaitsInputAt t) : m.Holds setup t := by
  obtain ⟨stage, st⟩ := m
  obtain ⟨-, hc, k, taken, w, rfl, hw⟩ := h
  exact .input hc hw

/-- A computation that time passes in has a delay. -/
theorem WorksAt.workMs_ne_zero {n : UInt64} {d : Nat} (h : m.WorksAt setup t n d) :
    setup.workMs ≠ 0 := by
  obtain ⟨hlt, hle, rfl, -⟩ := h
  omega

theorem WorksAt.holds {n : UInt64} {d : Nat} (h : m.WorksAt setup t n d) : m.Holds setup t := by
  have h0 := h.workMs_ne_zero
  obtain ⟨stage, st⟩ := m
  obtain ⟨-, hle, rfl, k, rfl⟩ := h
  exact .work h0 hle

end Moment

namespace Supervision

section Interrupted

variable (setup : Setup) {t : Nat} (cancelled : Bool) (source : Source) (lines : Nat)

/-- Up to what the interrupt finds a task is the task on its own, and the steps from there make up
the rest of it. -/
theorem task_of_leads_expecting {a b : Activity} {m : Moment} {e : Ending} {st : State}
    (h : Leads setup (outset none cancelled source lines) a m) (ht : m.now < t)
    (hh : m.stage ≠ .ended .hung) (hrest : Leads setup (m.expecting t) b ⟨.ended e, st⟩) :
    (task setup (some t) cancelled source lines).ending = (e.leave .run).1 ∧
      (task setup (some t) cancelled source lines).state = st ∧
      (task setup (some t) cancelled source lines).activity.reports = a.reports ++ b.reports := by
  have hleads := (leads_outset setup cancelled source lines h ht hh).trans hrest
  rw [task_eq setup (some t) cancelled source lines hleads]
  refine ⟨rfl, rfl, ?_⟩
  simp [Activity.ofTrace]

/-- **A run that waits for input** is over as soon as the interrupt comes. -/
theorem task_of_awaitsInputAt {a : Activity} {m : Moment}
    (h : Leads setup (outset none cancelled source lines) a m) (hm : m.AwaitsInputAt t) :
    (task setup (some t) cancelled source lines).ending = .cancelled ∧
      (task setup (some t) cancelled source lines).state.clock.now = t ∧
      (task setup (some t) cancelled source lines).activity.reports = a.reports := by
  obtain ⟨stage, st⟩ := m
  obtain ⟨ht, hc, k, taken, w, rfl, hw⟩ := hm
  obtain ⟨b, st', hrest, hnil, hclock⟩ := leads_wait_expecting setup t (k := k) taken hc hw
  obtain ⟨hending, hstate, hreports⟩ :=
    task_of_leads_expecting setup cancelled source lines h ht (by simp) hrest
  refine ⟨hending, ?_, ?_⟩
  · rw [hstate, hclock]
    rfl
  · rw [hreports, hnil, List.append_nil]

section Work

variable {a : Activity} {m : Moment} {n : UInt64} {d : Nat}
  (h : Leads setup (outset none cancelled source lines) a m) (hm : m.WorksAt setup t n d)

include h hm

/-- **A computation that ends within the grace period** is answered, and the run is over with it. -/
theorem task_answered (hb : setup.breaksAt? = none) (hgrace : d < t + Clock.graceMs) :
    (task setup (some t) cancelled source lines).ending = .cancelled ∧
      (task setup (some t) cancelled source lines).state.clock.now = d ∧
      (task setup (some t) cancelled source lines).activity.reports =
        a.reports ++ [.on setup.policy n] := by
  have hs := (supervised_of_leads h).trans (supervised_outset none cancelled source lines)
  have h0 := hm.workMs_ne_zero
  obtain ⟨stage, st⟩ := m
  obtain ⟨ht, hle, rfl, k, rfl⟩ := hm
  obtain ⟨b, st', hrest, hreport, hnow⟩ :=
    leads_answered_expecting setup t (k := k) (n := n) h0 hs hle (by simp [hb]) hgrace
  obtain ⟨hending, hstate, hreports⟩ :=
    task_of_leads_expecting setup cancelled source lines h ht (by simp) hrest
  refine ⟨hending, ?_, ?_⟩
  · rw [hstate]
    exact hnow
  · rw [hreports, hreport]

/-- **Any other computation** is stopped when the grace period is over. -/
theorem task_stopped (hgrace : t + Clock.graceMs ≤ d) :
    (∃ openSpans,
        (task setup (some t) cancelled source lines).ending = .stopped openSpans) ∧
      (task setup (some t) cancelled source lines).state.clock.now = t + Clock.graceMs ∧
      (task setup (some t) cancelled source lines).activity.reports = a.reports := by
  have hs := (supervised_of_leads h).trans (supervised_outset none cancelled source lines)
  have h0 := hm.workMs_ne_zero
  obtain ⟨stage, st⟩ := m
  obtain ⟨ht, hle, rfl, k, rfl⟩ := hm
  obtain ⟨b, st', hrest, hnil, hnow⟩ :=
    leads_stopped_expecting setup t (k := k) (n := n) h0 hs hle hgrace
  obtain ⟨hending, hstate, hreports⟩ :=
    task_of_leads_expecting setup cancelled source lines h ht (by simp) hrest
  refine ⟨⟨_, hending⟩, ?_, ?_⟩
  · rw [hstate]
    exact hnow
  · rw [hreports, hnil, List.append_nil]

end Work

/-- **An interrupt finds one or the other**, unless the run has not started or is over. -/
theorem exists_found (ht : 0 < t) (h : ¬(task setup none cancelled source lines).OverBefore t) :
    ∃ a m, Leads setup (outset none cancelled source lines) a m ∧
      (m.AwaitsInputAt t ∨ ∃ n d, m.WorksAt setup t n d) := by
  obtain ⟨a, m, hm, hlt, hholds⟩ := exists_holds_task setup cancelled source lines ht h
  refine ⟨a, m, hm, ?_⟩
  cases hholds with
  | input hc hw => exact .inl ⟨hlt, hc, _, _, _, rfl, hw⟩
  | work h0 hle => exact .inr ⟨_, _, hlt, hle, rfl, _, rfl⟩

/-- **Only a computation can be stopped.** -/
theorem exists_worksAt_of_stopped (hb : setup.breaksAt? = none) {openSpans : List Span}
    (h : (task setup (some t) cancelled source lines).ending = .stopped openSpans) :
    ∃ a m n d, Leads setup (outset none cancelled source lines) a m ∧ m.WorksAt setup t n d ∧
      t + Clock.graceMs ≤ d := by
  rcases Nat.eq_zero_or_pos t with rfl | ht
  · rw [task_zero] at h
    contradiction
  have hover : ¬(task setup none cancelled source lines).OverBefore t := by
    intro hover
    rw [task_of_overBefore setup cancelled source lines hover] at h
    exact not_stopped_task setup cancelled source lines openSpans h
  obtain ⟨a, m, hm, hinput | ⟨n, d, hwork⟩⟩ := exists_found setup cancelled source lines ht hover
  · have hending := (task_of_awaitsInputAt setup cancelled source lines hm hinput).1
    rw [hending] at h
    contradiction
  · refine ⟨a, m, n, d, hm, hwork, ?_⟩
    by_contra hlt
    have hending := (task_answered setup cancelled source lines hm hwork hb (Nat.not_le.1 hlt)).1
    rw [hending] at h
    contradiction

end Interrupted

/-- **What becomes of the grace period.** An interrupt that comes before a run has started, or while
it waits for input, ends it at once, and nothing more is reported. One that comes in the course of a
computation lets it go on: if that ends within the grace period it is answered, as the last one, and
the run is over with it; otherwise the run is stopped when the grace period is over, and the request
is never reported. An interrupt that comes while the run goes on finds one or the other, and only a
computation can be stopped. The supervisor takes its leave once of every run that was interrupted
and of no other, and warns before that just if the run was stopped. No receiver of a report breaks
down here, and what is announced with the interrupt is not in the supervisor's name. -/
theorem grace_period {setup : Setup} (hb : setup.breaksAt? = none)
    (hann : ∀ e ∈ setup.announcement, e.target ≠ Event.goodbye.target) (cancelled : Bool)
    (source : Source) (lines : Nat) :
    (∀ t, let start := outset none cancelled source lines
      let r := task setup (some t) cancelled source lines
      let s := supervise setup (some t) cancelled source lines
      (t = 0 → r.ending = .cancelled ∧ r.state.clock.now = t ∧
        s.activity.reports = [] ∧ s.activity.trace.said = [.goodbye]) ∧
      (∀ a m, Leads setup start a m → m.AwaitsInputAt t →
        r.ending = .cancelled ∧ r.state.clock.now = t ∧
          s.activity.reports = a.reports ∧ s.activity.trace.said = [.goodbye]) ∧
      (∀ a m n d, Leads setup start a m → m.WorksAt setup t n d →
        (d < t + Clock.graceMs →
          r.ending = .cancelled ∧ r.state.clock.now = d ∧
            s.activity.reports = a.reports ++ [.on setup.policy n] ∧
            s.activity.trace.said = [.goodbye]) ∧
        (t + Clock.graceMs ≤ d →
          (∃ openSpans, r.ending = .stopped openSpans) ∧ r.state.clock.now = t + Clock.graceMs ∧
            s.activity.reports = a.reports ∧
            s.activity.trace.said = [.stillBusy Clock.graceMs, .goodbye])) ∧
      (0 < t → (task setup none cancelled source lines).Outlasts t →
        ∃ a m, Leads setup start a m ∧ (m.AwaitsInputAt t ∨ ∃ n d, m.WorksAt setup t n d)) ∧
      ∀ openSpans, r.ending = .stopped openSpans →
        ∃ a m n d, Leads setup start a m ∧ m.WorksAt setup t n d ∧ t + Clock.graceMs ≤ d) ∧
    ∀ interrupt?, let r := task setup interrupt? cancelled source lines
      let s := supervise setup interrupt? cancelled source lines
      ((∃ openSpans, r.ending = .stopped openSpans) → s.outcome? = some .interrupted ∧
        s.activity.trace.said = [.stillBusy Clock.graceMs, .goodbye]) ∧
      ((∀ openSpans, r.ending ≠ .stopped openSpans) →
        s.activity.trace.said = if s.outcome? = some .interrupted then [.goodbye] else []) := by
  have hsaid := fun interrupt? ↦ said_supervise setup interrupt? cancelled source lines hann
  refine ⟨fun t ↦ ?_, hsaid⟩
  intro start r s
  have hreports : s.activity.reports = r.activity.reports :=
    reports_supervise setup (some t) cancelled source lines
  -- a run that was interrupted and not stopped is taken leave of
  have hleave : r.state.clock.interrupted = true → r.ending = .cancelled →
      s.activity.trace.said = [.goodbye] := by
    intro hi he
    have hout := (outcome?_eq_interrupted_iff setup (some t) cancelled source lines).2 hi
    have hquiet : ∀ openSpans, r.ending ≠ .stopped openSpans := by simp [he]
    exact ((hsaid (some t)).2 hquiet).trans (if_pos hout)
  have hfound : ∀ {a : Activity} {m : Moment}, Leads setup start a m → m.now < t →
      m.Holds setup t → r.state.clock.interrupted = true :=
    fun h hlt hholds ↦ interrupted_of_holds setup cancelled source lines h hlt hholds
  rw [hreports]
  refine ⟨?_, ?_, ?_, ?_, ?_⟩
  · rintro rfl
    have hr : r = _ := task_zero setup cancelled source lines
    have hi : r.state.clock.interrupted = true := by rw [hr]; rfl
    have he : r.ending = .cancelled := by rw [hr]
    refine ⟨he, ?_, ?_, hleave hi he⟩ <;> rw [hr] <;> rfl
  · intro a m h hm
    obtain ⟨he, hnow, hrep⟩ := task_of_awaitsInputAt setup cancelled source lines h hm
    exact ⟨he, hnow, hrep, hleave (hfound h hm.1 hm.holds) he⟩
  · intro a m n d h hm
    constructor
    · intro hgrace
      obtain ⟨he, hnow, hrep⟩ := task_answered setup cancelled source lines h hm hb hgrace
      exact ⟨he, hnow, hrep, hleave (hfound h hm.1 hm.holds) he⟩
    · intro hgrace
      obtain ⟨he, hnow, hrep⟩ := task_stopped setup cancelled source lines h hm hgrace
      exact ⟨he, hnow, hrep, ((hsaid (some t)).1 he).2⟩
  · intro ht hout
    exact exists_found setup cancelled source lines ht hout.not_overBefore
  · intro openSpans he
    exact exists_worksAt_of_stopped setup cancelled source lines hb he

/-- A computation of a second, with an interrupt near its beginning and with one near its end. -/
theorem grace_period_second :
    let setup : Setup := { workDelayUs := 1000000, announcement := [.interrupted .interrupt] }
    let source : Source := { arrivals := [.bytes [55, 10]] }
    ((∃ openSpans, (task setup (some 10) false source 0).ending = .stopped openSpans) ∧
      (supervise setup (some 10) false source).activity.reports = []) ∧
    (task setup (some 600) false source 0).ending = .cancelled ∧
      (supervise setup (some 600) false source).activity.reports = [.on .wrapping 7] := by
  intro setup source
  have hann : ∀ e ∈ setup.announcement, e.target ≠ Event.goodbye.target := by
    simp [setup, Event.target]
  have hread : source.readLine [] = ⟨false, .line [55, 10], { arrivals := [] }⟩ := by
    decide +kernel
  have hreceive : Reader.receive 0 [55, 10] = (.ok 7, 1) := by
    decide +kernel
  have hnext : Moment.next setup ⟨.reading 1 [], (outset none false source 0).state⟩ =
      some (.ofTrace [.closed .poll],
        ⟨.computing 1 7, { reader := ⟨{ arrivals := [] }, 1⟩ }⟩) := by
    have hattempt : (source.readLine []).ended.outcome? = some (.line [55, 10]) := by
      rw [hread]
      rfl
    refine (next_of_outcome setup 1 hattempt).trans ?_
    rw [hread]
    simp only [Moment.receive, Reader.conclude, hreceive]
    rfl
  have hbegin : Moment.next setup (outset none false source 0) =
      some (Moment.begin 0 (outset none false source 0).state) := rfl
  have hm := Leads.step hbegin (.single hnext)
  have hperiod := (@grace_period setup rfl hann false source 0).1
  have hworks : ∀ t, 0 < t → t ≤ 1000 → Moment.WorksAt setup t 7 1000
      ⟨.computing 1 7, { reader := ⟨{ arrivals := [] }, 1⟩ }⟩ :=
    fun t h0 hle ↦ ⟨h0, hle, by decide +kernel, 1, rfl⟩
  have hearly := (hperiod 10).2.2.1 _ _ _ _ hm (hworks 10 (by decide) (by decide))
  have hlate := (hperiod 600).2.2.1 _ _ _ _ hm (hworks 600 (by decide) (by decide))
  obtain ⟨hstopped, -, hnone, -⟩ := hearly.2 (by decide)
  obtain ⟨hended, -, hone, -⟩ := hlate.1 (by decide)
  exact ⟨⟨hstopped, hnone⟩, hended, hone⟩

end Supervision

end TracedFibonacci
