import TracedFibonacci.Proofs.Run.Interruption
import TracedFibonacci.Run.Supervision

/-!
# The task of a supervisor

A supervised run is a run from the beginning, with an interrupt to come. Here it is put beside the
same task on its own, without an interrupt. If that is over before the interrupt is due, the two are
the same (`task_of_overBefore`). If it goes on for longer, the interrupt finds it waiting
(`exists_holds_task`), and it ends interrupted (`interrupted_of_not_overBefore`).

`leads_task` and `task_eq` take a task apart into the steps of its run and put it together again.
-/

namespace TracedFibonacci

theorem Ending.leave_eq_hung_iff {e : Ending} {s : Span} : (e.leave s).1 = .hung ↔ e = .hung := by
  cases e <;> simp [leave]

theorem Ending.leave_eq_stopped_iff {e : Ending} {s : Span} {openSpans : List Span} :
    (e.leave s).1 = .stopped openSpans ↔ ∃ ss, e = .stopped ss ∧ openSpans = ss ++ [s] := by
  cases e <;> simp [leave, eq_comm]

namespace Finish

/-- The run is over before time `t`. -/
def OverBefore (t : Nat) (r : Finish) : Prop := r.ending ≠ .hung ∧ r.state.clock.now < t

/-- The run goes on after time `t`, for ever it may be. -/
def Outlasts (t : Nat) (r : Finish) : Prop := r.ending = .hung ∨ t < r.state.clock.now

theorem Outlasts.not_overBefore {t : Nat} {r : Finish} (h : r.Outlasts t) : ¬r.OverBefore t := by
  intro hover
  rcases h with hhung | hlt
  · exact hover.1 hhung
  · exact absurd hover.2 (Nat.not_lt.2 hlt.le)

end Finish

namespace Supervision

section Task

variable (setup : Setup) (interrupt? : Option Nat) (cancelled : Bool) (source : Source)
  (lines : Nat)

/-- The moment at which a task begins. -/
def outset : Moment :=
  ⟨.between 0, { reader := { source, lines }, clock := startClock interrupt? cancelled }⟩

/-- **The steps of a task.** -/
theorem leads_task :
    ∃ a e, Leads setup (outset interrupt? cancelled source lines) a
        ⟨.ended e, (task setup interrupt? cancelled source lines).state⟩ ∧
      (task setup interrupt? cancelled source lines).ending = (e.leave .run).1 ∧
      (task setup interrupt? cancelled source lines).activity =
        .ofTrace [.opened .run] ++ a ++ .ofTrace (e.leave .run).2 :=
  ⟨_, _, leads_loop setup 0 _, rfl, rfl⟩

/-- Steps that lead to an end make up the task. -/
theorem task_eq {a : Activity} {e : Ending} {st : State}
    (h : Leads setup (outset interrupt? cancelled source lines) a ⟨.ended e, st⟩) :
    task setup interrupt? cancelled source lines =
      ⟨(e.leave .run).1, st, .ofTrace [.opened .run] ++ a ++ .ofTrace (e.leave .run).2⟩ := by
  rw [task, Run.start, loop_eq_of_leads h]

theorem consistent_outset : (outset interrupt? cancelled source lines).Consistent :=
  consistent_between 0 _

theorem supervised_outset :
    (outset interrupt? cancelled source lines).state.clock.supervised = true := by
  obtain _ | _ | t := interrupt? <;> rfl

theorem accountable_outset : (outset interrupt? cancelled source lines).Accountable := by
  refine ⟨?_, by simp [outset], by simp [outset]⟩
  intro hi
  obtain _ | _ | t := interrupt?
  · contradiction
  · rfl
  · contradiction

/-- What the ending of a task tells of its clock. -/
theorem accountable_task :
    ((task setup interrupt? cancelled source lines).state.clock.interrupted = true →
      (task setup interrupt? cancelled source lines).state.clock.cancelled = true) ∧
    ((task setup interrupt? cancelled source lines).ending = .hung →
      (task setup interrupt? cancelled source lines).state.clock.cancelled = false) ∧
    ∀ openSpans, (task setup interrupt? cancelled source lines).ending = .stopped openSpans →
      (task setup interrupt? cancelled source lines).state.clock.interrupted = true := by
  obtain ⟨a, e, hleads, hending, -⟩ := leads_task setup interrupt? cancelled source lines
  have hend := accountable_of_leads hleads (consistent_outset interrupt? cancelled source lines)
    (accountable_outset interrupt? cancelled source lines)
  refine ⟨hend.cancelled, ?_, ?_⟩
  · intro hh
    rw [hending, Ending.leave_eq_hung_iff] at hh
    exact hend.hung (congrArg Stage.ended hh)
  · intro openSpans hs
    rw [hending, Ending.leave_eq_stopped_iff] at hs
    obtain ⟨ss, rfl, -⟩ := hs
    exact hend.stopped ss rfl

/-- A task that ends without an error is cancelled. -/
theorem cancelled_of_task_ended
    (h : (task setup interrupt? cancelled source lines).ending = .cancelled) :
    (task setup interrupt? cancelled source lines).state.clock.cancelled = true := by
  obtain ⟨a, e, hleads, hending, -⟩ := leads_task setup interrupt? cancelled source lines
  rw [hending, Ending.leave_eq_cancelled_iff] at h
  have hcons := consistent_of_leads hleads (consistent_outset interrupt? cancelled source lines)
  exact hcons.ended_cancelled (congrArg Stage.ended h)

end Task

/-! ### A task with an interrupt and without -/

section Compare

variable (setup : Setup) {t : Nat} (cancelled : Bool) (source : Source) (lines : Nat)

theorem alone_outset : (outset none cancelled source lines).Alone := ⟨rfl, by simp [outset]⟩

/-- A task with an interrupt to come begins as it does without one. -/
theorem outset_some (ht : 0 < t) :
    outset (some t) cancelled source lines = (outset none cancelled source lines).expecting t := by
  obtain _ | t := t
  · contradiction
  · rfl

/-- Up to its interrupt a task goes through the moments of the task on its own. -/
theorem leads_outset {a : Activity} {m : Moment}
    (h : Leads setup (outset none cancelled source lines) a m) (ht : m.now < t)
    (hh : m.stage ≠ .ended .hung) :
    Leads setup (outset (some t) cancelled source lines) a (m.expecting t) := by
  rw [outset_some cancelled source lines (Nat.zero_lt_of_lt ht)]
  exact leads_expecting h (alone_outset cancelled source lines) ht hh

/-- An interrupt that is due at once comes before the task has begun. -/
theorem task_zero :
    task setup (some 0) cancelled source lines =
      ⟨.cancelled, (outset (some 0) cancelled source lines).state,
        .ofTrace [.opened .run, .logged [.run] (.cancelled 0), .closed .run]⟩ := by
  have hnext : (outset (some 0) cancelled source lines).next setup =
      some (.ofTrace [.logged [.run] (.cancelled 0)],
        ⟨.ended .cancelled, (outset (some 0) cancelled source lines).state⟩) := rfl
  exact task_eq setup (some 0) cancelled source lines (.single hnext)

/-- **A task that is over before its interrupt is due** is the task on its own. -/
theorem task_of_overBefore (h : (task setup none cancelled source lines).OverBefore t) :
    task setup (some t) cancelled source lines =
      ⟨(task setup none cancelled source lines).ending,
        (task setup none cancelled source lines).state.expecting t,
        (task setup none cancelled source lines).activity⟩ := by
  obtain ⟨a, e, hleads, hending, hact⟩ := leads_task setup none cancelled source lines
  obtain ⟨hne, hlt⟩ := h
  have hh : e ≠ .hung := by
    rintro rfl
    exact hne hending
  have hleads' := leads_outset setup cancelled source lines hleads hlt
    (fun he ↦ hh (Stage.ended.inj he))
  rw [hending, hact]
  exact task_eq setup (some t) cancelled source lines hleads'

/-- **A task that outlasts its interrupt** waits when that comes. -/
theorem exists_holds_task (ht : 0 < t)
    (h : ¬(task setup none cancelled source lines).OverBefore t) :
    ∃ a m, Leads setup (outset none cancelled source lines) a m ∧ m.now < t ∧ m.Holds setup t := by
  obtain ⟨a, e, hleads, hending, -⟩ := leads_task setup none cancelled source lines
  have hbegin : (outset none cancelled source lines).stage ≠ .ended .hung := by simp [outset]
  refine (exists_holds hleads (alone_outset cancelled source lines) ht hbegin).resolve_left ?_
  rintro ⟨hne, hlt⟩
  refine h ⟨?_, hlt⟩
  rw [hending, Ne, Ending.leave_eq_hung_iff]
  exact hne

/-- **An interrupt that finds a task waiting** has come when the task ends. -/
theorem interrupted_of_holds {a : Activity} {m : Moment}
    (h : Leads setup (outset none cancelled source lines) a m) (ht : m.now < t)
    (hholds : m.Holds setup t) :
    (task setup (some t) cancelled source lines).state.clock.interrupted = true := by
  have hh : m.stage ≠ .ended .hung := by cases hholds <;> simp
  obtain ⟨b, m', hnext, -, hclock⟩ := next_of_holds setup t hholds
  have hfound := (leads_outset setup cancelled source lines h ht hh).trans (.single hnext)
  have hsup : m.state.clock.supervised = true := supervised_of_leads h
  have hint : m'.state.clock.interrupted = true := by
    rw [hclock]
    show (_ || m.state.clock.supervised) = true
    rw [hsup, Bool.or_true]
  have hcan : m'.cancelled = true := congrArg Clock.cancelled hclock
  -- what has come stays
  obtain ⟨c, e, hleads, -⟩ := leads_task setup (some t) cancelled source lines
  obtain ⟨d, -, hrest⟩ := hfound.rest hleads
  have hcons := consistent_of_leads hfound (consistent_outset (some t) cancelled source lines)
  exact (windsDown hrest hcons hcan).interrupted hint

/-- **A task that outlasts its interrupt** ends interrupted. -/
theorem interrupted_of_not_overBefore
    (h : t = 0 ∨ ¬(task setup none cancelled source lines).OverBefore t) :
    (task setup (some t) cancelled source lines).state.clock.interrupted = true := by
  rcases Nat.eq_zero_or_pos t with rfl | ht
  · rw [task_zero]
    rfl
  · obtain ⟨a, m, hm, hlt, hholds⟩ :=
      exists_holds_task setup cancelled source lines ht (h.resolve_left ht.ne')
    exact interrupted_of_holds setup cancelled source lines hm hlt hholds

end Compare

end Supervision

end TracedFibonacci
