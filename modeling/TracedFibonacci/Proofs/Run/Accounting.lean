import TracedFibonacci.Proofs.Run.Interruption
import TracedFibonacci.Proofs.Telemetry.Samples
import TracedFibonacci.Run.Session

/-!
# The metrics account for the reports

A request is counted when it was read, its computation when it is done, and its result when it was
reported. So between two iterations the counts stand for the reports made, three for each, and for
the errors that ended runs; and in the middle of one there is a request, or a request and its
computation, that is counted already and not reported yet.

## From a step to a session

`Stage.outstanding` says what is counted and not reported at a stage. Each step keeps the balance
(`marks_next`), in order even, so a run keeps it (`marks_start`): what is outstanding at its end is
the error that ended it, or the request that was not answered because the receiver broke down or the
computation was stopped. Where neither can happen, the counts of a session are those of its reports
and its errors (`Session.metrics_of_balanced`).
-/

namespace TracedFibonacci

/-- What is counted for a report. -/
def Report.marks (r : Report) : List Metrics.Mark := [.request, .duration, .result r.isOk]

section Reports

variable (rs : List Report)

theorem count_request_marks : (rs.flatMap Report.marks).count .request = rs.length := by
  induction rs with
  | nil => rfl
  | cons r rs ih => simp [Report.marks, ih]

theorem count_duration_marks : (rs.flatMap Report.marks).count .duration = rs.length := by
  induction rs with
  | nil => rfl
  | cons r rs ih => simp [Report.marks, ih]

theorem count_result_marks (ok : Bool) :
    (rs.flatMap Report.marks).count (.result ok) = rs.countP (·.isOk == ok) := by
  induction rs with
  | nil => rfl
  | cons r rs ih => simp [Report.marks, ih, List.countP_cons, Nat.add_comm, List.count_cons]

theorem count_error_marks (k : RequestError.Kind) :
    (rs.flatMap Report.marks).count (.error k) = 0 := by
  induction rs with
  | nil => rfl
  | cons r rs ih => simp [Report.marks, ih]

end Reports

/-! ### The balance -/

/-- What is counted at an ending and not reported. -/
def Ending.outstanding : Ending → List Metrics.Mark
  | .failed e => [.error e.kind]
  | .broken => [.request, .duration]
  | .stopped _ => [.request]
  | .cancelled | .hung => []

/-- What is counted at a stage and not reported. -/
def Stage.outstanding : Stage → List Metrics.Mark
  | .finishing _ _ _ => [.request]
  | .reporting _ _ => [.request, .duration]
  | .ended e => e.outstanding
  | .between _ | .reading _ _ | .suspended _ _ _ | .computing _ _ => []

section Balance

variable {setup : Setup} {m m' : Moment} {a : Activity}

/-- **Each step keeps the balance.** -/
theorem marks_next (h : m.next setup = some (a, m')) :
    m.stage.outstanding ++ a.marks = a.reports.flatMap Report.marks ++ m'.stage.outstanding := by
  cases moves_of_next h <;> rfl

/-- The steps of a run keep it. -/
theorem marks_of_leads (h : Leads setup m a m') :
    m.stage.outstanding ++ a.marks = a.reports.flatMap Report.marks ++ m'.stage.outstanding := by
  induction h with
  | refl m => simp
  | @step m m₁ m' a b hn _ ih =>
    calc m.stage.outstanding ++ (a.marks ++ b.marks)
        = a.reports.flatMap Report.marks ++ (m₁.stage.outstanding ++ b.marks) := by
          rw [← List.append_assoc, marks_next hn, List.append_assoc]
      _ = (a.reports ++ b.reports).flatMap Report.marks ++ m'.stage.outstanding := by
          rw [ih, List.flatMap_append, List.append_assoc]

/-- A run counts what its reports account for, and what is outstanding at its end. -/
theorem marks_start (setup : Setup) (st : State) :
    (Run.start setup st).activity.marks =
      (Run.start setup st).activity.reports.flatMap Report.marks ++
        (Run.start setup st).ending.outstanding := by
  have hloop := marks_of_leads (leads_loop setup 0 st)
  rw [Run.start]
  generalize Run.loop setup 0 st = r at hloop
  obtain ⟨e, st', a⟩ := r
  cases e <;> simpa [Ending.leave, Activity.ofTrace, Stage.outstanding, Ending.outstanding]
    using hloop

/-- A receiver that never breaks down breaks no run. -/
theorem not_broken_of_leads (hb : setup.breaksAt? = none) (h : Leads setup m a m')
    (hm : m.stage ≠ .ended .broken) : m'.stage ≠ .ended .broken := by
  induction h with
  | refl m => exact hm
  | step hn _ ih =>
    refine ih ?_
    cases moves_of_next hn with
    | fail hb' =>
      rw [hb] at hb'
      contradiction
    | _ => simp

end Balance

/-! ### Sessions -/

/-- The error in place of a request that a step returned, if it was a run that ended so. -/
def StepOutcome.error? (o : StepOutcome) : Option RequestError :=
  match o.result with
  | .ran (.failed e) => some e
  | _ => none

/-- What was counted in a step is accounted for by its reports and by the error it returned. -/
def StepOutcome.Balanced (o : StepOutcome) : Prop :=
  o.activity.marks =
    o.activity.reports.flatMap Report.marks ++ (o.error?.map (.error ·.kind)).toList

section Balanced

variable {os : List StepOutcome}

/-- The steps of a session together are balanced. -/
theorem count_marks (h : ∀ o ∈ os, o.Balanced) (x : Metrics.Mark) :
    (os.flatMap (·.activity.marks)).count x =
      ((os.flatMap (·.activity.reports)).flatMap Report.marks).count x +
        ((os.filterMap StepOutcome.error?).map (Metrics.Mark.error ·.kind)).count x := by
  induction os with
  | nil => rfl
  | cons o os ih =>
    have ho : o.Balanced := h o (.head _)
    have hos := ih fun o ho ↦ h o (.tail _ ho)
    rw [List.flatMap_cons, List.count_append, hos, ho, List.count_append, List.flatMap_cons,
      List.flatMap_append, List.count_append]
    cases he : o.error? with
    | none =>
      rw [List.filterMap_cons_none he]
      simp only [Option.map_none, Option.toList_none, List.count_nil]
      omega
    | some e =>
      rw [List.filterMap_cons_some he, List.map_cons]
      simp only [Option.map_some, Option.toList_some, List.count_cons, List.count_nil]
      omega

end Balanced

section Returned

variable (es : List RequestError)

/-- Of the errors that were returned, each kind is counted. -/
theorem count_returned (k : RequestError.Kind) :
    (es.map (Metrics.Mark.error ·.kind)).count (.error k) = es.countP (·.kind = k) := by
  rw [List.count_eq_countP, List.countP_map]
  exact List.countP_congr fun e _ ↦ by simp

/-- An error is counted as nothing else. -/
theorem count_returned_of_ne (x : Metrics.Mark) (hx : ∀ k, x ≠ .error k) :
    (es.map (Metrics.Mark.error ·.kind)).count x = 0 := by
  rw [List.count_eq_zero, List.mem_map]
  rintro ⟨e, -, rfl⟩
  exact hx _ rfl

end Returned

namespace Session

variable {setup : Setup}

theorem unsupervised_step {st : State} (hst : st.clock.Unsupervised) (s : Step) :
    (step setup st s).2.clock.Unsupervised := by
  cases s with
  | run => exact unsupervised_of_leads (leads_loop setup 0 st) hst
  | cancel => exact hst
  | cancelIn ms => exact ⟨hst.1, .inr rfl⟩
  | newContext => exact ⟨hst.1, .inl rfl⟩

/-- Where no receiver breaks down and no supervisor is around, a run that ends has got an error or
was cancelled. -/
theorem ending_of_unsupervised (hb : setup.breaksAt? = none) {st : State}
    (hst : st.clock.Unsupervised) :
    (Run.start setup st).ending = .cancelled ∨ (∃ e, (Run.start setup st).ending = .failed e) ∨
      (Run.start setup st).ending = .hung := by
  have hleads := leads_loop setup 0 st
  have hbroken := not_broken_of_leads hb hleads (by simp)
  have hbegin : Moment.Accountable ⟨.between 0, st⟩ :=
    ⟨fun hi ↦ absurd hi (by simp [hst.1]), by simp, by simp⟩
  have hstopped := (accountable_of_leads hleads (consistent_between 0 st) hbegin).stopped
  have hquiet : (Run.loop setup 0 st).state.clock.interrupted = false :=
    (unsupervised_of_leads hleads hst).1
  rw [Run.start]
  generalize Run.loop setup 0 st = r at *
  obtain ⟨e, st', a⟩ := r
  cases e with
  | cancelled => exact .inl rfl
  | failed e => exact .inr (.inl ⟨e, rfl⟩)
  | hung => exact .inr (.inr rfl)
  | broken => exact absurd rfl hbroken
  | stopped openSpans => exact absurd ((hstopped openSpans rfl).symm.trans hquiet) (by simp)

/-- So all that is outstanding at its end is the error. -/
theorem balanced_run (hb : setup.breaksAt? = none) {st : State} (hst : st.clock.Unsupervised) :
    (step setup st .run).1.Balanced := by
  dsimp only [step, StepOutcome.Balanced, StepOutcome.error?]
  rw [marks_start setup st]
  rcases ending_of_unsupervised hb hst with he | ⟨e, he⟩ | he <;> rw [he] <;> rfl

theorem balanced_step (hb : setup.breaksAt? = none) {st : State} (hst : st.clock.Unsupervised)
    (s : Step) : (step setup st s).1.Balanced := by
  cases s with
  | run => exact balanced_run hb hst
  | _ => rfl

/-- **Every step of a session is balanced.** -/
theorem balanced_steps (hb : setup.breaksAt? = none) {st : State} (hst : st.clock.Unsupervised)
    (ss : List Step) : ∀ o ∈ (steps setup st ss).1, o.Balanced := by
  induction ss generalizing st with
  | nil => simp [steps]
  | cons s ss ih =>
    intro o ho
    rcases List.mem_cons.1 ho with rfl | ho
    · exact balanced_step hb hst s
    · exact ih (unsupervised_step hst s) o ho

/-- **The metrics of balanced steps** are those of their reports and their errors. -/
theorem metrics_of_balanced {os : List StepOutcome} (h : ∀ o ∈ os, o.Balanced) :
    metrics os =
      { requests := (os.flatMap (·.activity.reports)).length
        ok := (os.flatMap (·.activity.reports)).countP (·.isOk)
        overflowed := (os.flatMap (·.activity.reports)).countP (!·.isOk)
        durations := (os.flatMap (·.activity.reports)).length
        errors k := (os.filterMap StepOutcome.error?).countP (·.kind = k) } := by
  rw [metrics, Metrics.recordAll_eq_counts, Metrics.counts, Metrics.mk.injEq]
  refine ⟨?_, ?_, ?_, ?_, funext fun k ↦ ?_⟩
  · rw [count_marks h, count_request_marks, count_returned_of_ne _ .request (by simp), Nat.add_zero]
  · rw [count_marks h, count_result_marks, count_returned_of_ne _ (.result true) (by simp),
      Nat.add_zero]
    simp
  · rw [count_marks h, count_result_marks, count_returned_of_ne _ (.result false) (by simp),
      Nat.add_zero]
    simp
  · rw [count_marks h, count_duration_marks, count_returned_of_ne _ .duration (by simp),
      Nat.add_zero]
  · rw [count_marks h, count_error_marks, count_returned, Nat.zero_add]

/-- **The metrics account for the reports.** After any number of steps of a session, as many
requests were counted as reports were made, and as many computations; and of the results, as many
with a value and with an overflow as there are reports of either sort. Of each kind there are as
many errors as runs that returned one, and a run that was cancelled counts none. It does not matter
what the stream does, nor by whom the runs are cancelled. -/
theorem metrics_account (hb : setup.breaksAt? = none) {st : State} (hst : st.clock.Unsupervised)
    (ss : List Step) (i : Nat) :
    let os := (steps setup st ss).1.take i
    let rs := os.flatMap (·.activity.reports)
    (metrics os).requests = rs.length ∧
    (metrics os).ok + (metrics os).overflowed = rs.length ∧
    (metrics os).durations = rs.length ∧
    (metrics os).ok = rs.countP (·.isOk) ∧
    (metrics os).overflowed = rs.countP (!·.isOk) ∧
    (∀ k, (metrics os).errors k = (os.filterMap StepOutcome.error?).countP (·.kind = k)) ∧
    ∀ o ∈ os, o.result = .ran .cancelled → ∀ k, .error k ∉ o.activity.marks := by
  intro os rs
  have hbalanced : ∀ o ∈ os, o.Balanced :=
    fun o ho ↦ balanced_steps hb hst ss o (List.mem_of_mem_take ho)
  rw [metrics_of_balanced hbalanced]
  refine ⟨rfl, ?_, rfl, rfl, rfl, fun k ↦ rfl, ?_⟩
  · rw [List.length_eq_countP_add_countP (·.isOk)]
    simp
  · intro o ho hc k
    have hmarks : o.activity.marks = o.activity.reports.flatMap Report.marks := by
      have ho' := hbalanced o ho
      rw [StepOutcome.Balanced, StepOutcome.error?, hc] at ho'
      simpa using ho'
    rw [hmarks, ← List.count_eq_zero, count_error_marks]

/-- Three runs: one that reports an overflow and is cancelled by the receiver of its second report,
one that fails at a line without a number, and one that finds the input closed. -/
theorem metrics_account_thrice :
    let setup : Setup := { policy := .checked, cancelsAfter? := some 2 }
    let st : State := { reader := { source := {
      arrivals := [.bytes [57, 52, 10, 49, 10], .pause, .bytes [97, 10]] } } }
    let os := (steps setup st [.run, .newContext, .run, .cancel, .newContext, .run]).1.take 6
    (metrics os).requests = 2 ∧ (metrics os).durations = 2 ∧
      (metrics os).ok = 1 ∧ (metrics os).overflowed = 1 ∧
      (metrics os).errors .malformed = 1 ∧ (metrics os).errors .closed = 1 := by
  intro setup st os
  have hreports : (os.flatMap (·.activity.reports)).length = 2 := by decide +kernel
  have hok : (os.flatMap (·.activity.reports)).countP (·.isOk) = 1 := by decide +kernel
  have hoverflowed : (os.flatMap (·.activity.reports)).countP (!·.isOk) = 1 := by decide +kernel
  have hmalformed : (os.filterMap StepOutcome.error?).countP (·.kind = .malformed) = 1 := by
    decide +kernel
  have hclosed : (os.filterMap StepOutcome.error?).countP (·.kind = .closed) = 1 := by
    decide +kernel
  obtain ⟨hreq, -, hdur, hok', hover', herr, -⟩ := @metrics_account setup rfl st ⟨rfl, .inl rfl⟩
    [.run, .newContext, .run, .cancel, .newContext, .run] 6
  exact ⟨hreq.trans hreports, hdur.trans hreports, hok'.trans hok, hover'.trans hoverflowed,
    (herr _).trans hmalformed, (herr _).trans hclosed⟩

end Session

end TracedFibonacci
