import TracedFibonacci.Proofs.Log.Console
import TracedFibonacci.Proofs.Run.Race

/-!
# What a run tells

A run hands over its reports, and if it is set up so, it tells of them in the log as well. Then the
log has the same reports in the same order (`Supervision.reports_told`), although they are written
at another place than they are handed over. Besides that, a run tells only that it waits for a line,
and at its end that it was cancelled (`Event.OfRun`); all else in its log is what a supervisor
announces.
-/

namespace TracedFibonacci

open Iteration

/-- What a run tells by itself. -/
inductive Event.OfRun : Event → Prop
  | waiting (line : Nat) : OfRun (.waiting line)
  | reported (r : Report) : OfRun (.reported r)
  | cancelled (k : Nat) : OfRun (.cancelled k)
  | cancelledWhilePolling (k : Nat) : OfRun (.cancelledWhilePolling k)

/-- A console shows it, and takes it for no sample. -/
theorem Event.OfRun.usual {e : Event} (h : e.OfRun) : e.Usual ∧ e.sample? = none := by
  cases h with
  | reported r =>
    refine ⟨⟨?_, fun _ heq ↦ by contradiction⟩, rfl⟩
    rw [Event.level]
    split <;> decide
  | _ => exact ⟨⟨Nat.le_refl _, fun _ heq ↦ by contradiction⟩, rfl⟩

section Steps

variable {setup : Setup} {m m' : Moment} {a : Activity}

theorem mem_announcement {c c' : Clock} {e : Event} (h : e ∈ (announced setup c c').events) :
    e ∈ setup.announcement := by
  rw [announced] at h
  split at h
  · rwa [Trace.events_logged] at h
  · contradiction

theorem filterMap_report?_announced (hquiet : ∀ e ∈ setup.announcement, e.report? = none)
    (c c' : Clock) : (announced setup c c').events.filterMap Event.report? = [] :=
  List.filterMap_eq_nil_iff.2 fun e he ↦ hquiet e (mem_announcement he)

/-- **Each step tells of the report that it makes.** -/
theorem reports_told_next (h : m.next setup = some (a, m')) (hlogs : setup.logsReports = true)
    (hquiet : ∀ e ∈ setup.announcement, e.report? = none) :
    a.trace.events.filterMap Event.report? = a.reports := by
  cases moves_of_next h with
  | interruptWait => exact filterMap_report?_announced hquiet _ _
  | interruptWork => exact filterMap_report?_announced hquiet _ _
  | report =>
    rw [if_pos hlogs]
    rfl
  | _ => rfl

theorem reports_told_of_leads (h : Leads setup m a m') (hlogs : setup.logsReports = true)
    (hquiet : ∀ e ∈ setup.announcement, e.report? = none) :
    a.trace.events.filterMap Event.report? = a.reports := by
  induction h with
  | refl m => rfl
  | step hn _ ih =>
    rw [Activity.trace_append, Trace.events_append, List.filterMap_append,
      reports_told_next hn hlogs hquiet, ih, Activity.reports_append]

/-- **Each step tells something of the run**, or what a supervisor announces. -/
theorem ofRun_next (h : m.next setup = some (a, m')) :
    ∀ e ∈ a.trace.events, e.OfRun ∨ e ∈ setup.announcement := by
  intro e he
  cases moves_of_next h with
  | stop =>
    obtain rfl := List.mem_singleton.1 he
    exact .inl (.cancelled _)
  | begin =>
    obtain rfl := List.mem_singleton.1 he
    exact .inl (.waiting _)
  | giveUp =>
    obtain rfl := List.mem_singleton.1 he
    exact .inl (.cancelledWhilePolling _)
  | interruptWait => exact .inr (mem_announcement he)
  | interruptWork => exact .inr (mem_announcement he)
  | report =>
    have he' : e.OfRun := by
      cases hl : setup.logsReports with
      | true =>
        rw [hl] at he
        obtain rfl := List.mem_singleton.1 he
        exact .reported _
      | false =>
        rw [hl] at he
        contradiction
    exact .inl he'
  | _ => contradiction

theorem ofRun_of_leads (h : Leads setup m a m') :
    ∀ e ∈ a.trace.events, e.OfRun ∨ e ∈ setup.announcement := by
  induction h with
  | refl m => simp [Trace.events]
  | step hn _ ih =>
    rw [Activity.trace_append, Trace.events_append, List.forall_mem_append]
    exact ⟨ofRun_next hn, ih⟩

end Steps

/-! ### Supervised runs -/

namespace Supervision

variable (setup : Setup) (source : Source) (lines : Nat)

/-- The span of a run makes no event. -/
theorem events_task (interrupt? : Option Nat) (cancelled : Bool) :
    ∃ a e, Leads setup (outset interrupt? cancelled source lines) a
        ⟨.ended e, (task setup interrupt? cancelled source lines).state⟩ ∧
      (task setup interrupt? cancelled source lines).activity.trace.events = a.trace.events ∧
      (task setup interrupt? cancelled source lines).activity.reports = a.reports := by
  obtain ⟨a, e, hleads, -, hactivity⟩ := leads_task setup interrupt? cancelled source lines
  refine ⟨a, e, hleads, ?_, ?_⟩
  · have hspan : (e.leave .run).2.events = [] := by cases e <;> rfl
    rw [hactivity]
    show Trace.events (.opened .run :: a.trace ++ (e.leave .run).2) = a.trace.events
    rw [List.cons_append, Trace.events_cons, Trace.events_append, hspan, List.append_nil]
    rfl
  · rw [hactivity]
    exact List.append_nil _

/-- **The log of a supervised run has its reports**, if nobody else tells of any. -/
theorem reports_told (hlogs : setup.logsReports = true)
    (hquiet : ∀ e ∈ setup.announcement, e.report? = none) :
    (supervise setup none false source lines).activity.trace.events.filterMap Event.report? =
      (supervise setup none false source lines).activity.reports := by
  obtain ⟨a, e, hleads, htrace, hreports⟩ := events_task setup source lines none false
  rw [supervise_of_overBefore setup none false source lines (by simp), htrace, hreports]
  exact reports_told_of_leads hleads hlogs hquiet

theorem ofRun_supervise :
    ∀ e ∈ (supervise setup none false source lines).activity.trace.events,
      e.OfRun ∨ e ∈ setup.announcement := by
  obtain ⟨a, e, hleads, htrace, -⟩ := events_task setup source lines none false
  rw [supervise_of_overBefore setup none false source lines (by simp), htrace]
  exact ofRun_of_leads hleads

end Supervision

end TracedFibonacci
