import TracedFibonacci.Proofs.Run.Accounting
import TracedFibonacci.Proofs.Run.Grace

/-!
# The metrics of a supervised run

A supervised run may be stopped in the middle of a computation, and the receiver of its reports may
break down. Then a request was counted that no result was counted for. There is never more than one:
the counts of a run are those of its reports and what is outstanding at its end (`marks_supervise`),
and what is outstanding is told by the ending alone.

## Where a run was when it ended so

That a run was stopped means that it was inside a computation, and that it is broken means that it
was about to make the next report. Both are read off the last step of the run (`Leads.exists_last`).
-/

namespace TracedFibonacci

/-! ### Reports, and what is outstanding -/

/-- The metrics account for the reports: a result is counted for each of them, and beyond that
`unanswered` requests are, of which `untimed` have not been computed. -/
structure Metrics.Accounts (x : Metrics) (rs : List Report) (unanswered untimed : Nat) : Prop where
  /-- The results with a value. -/
  ok : x.ok = rs.countP (·.isOk)
  /-- The results with an overflow. -/
  overflowed : x.overflowed = rs.countP (!·.isOk)
  /-- There is one result for each report. -/
  results : x.ok + x.overflowed = rs.length
  /-- The requests. -/
  requests : x.requests = x.ok + x.overflowed + unanswered
  /-- The computations. -/
  durations : x.durations + untimed = x.requests

/-- The requests that are counted at an ending without a result. -/
def Ending.unanswered : Ending → Nat
  | .broken | .stopped _ => 1
  | .cancelled | .failed _ | .hung => 0

/-- The requests that are counted at an ending without a computation. -/
def Ending.untimed : Ending → Nat
  | .stopped _ => 1
  | .broken | .cancelled | .failed _ | .hung => 0

/-- The requests that are counted at a stage without a result. -/
def Stage.unanswered : Stage → Nat
  | .finishing _ _ _ | .reporting _ _ => 1
  | .ended e => e.unanswered
  | .between _ | .reading _ _ | .suspended _ _ _ | .computing _ _ => 0

/-- The requests that are counted at a stage without a computation. -/
def Stage.untimed : Stage → Nat
  | .finishing _ _ _ => 1
  | .ended e => e.untimed
  | .between _ | .reading _ _ | .suspended _ _ _ | .computing _ _ | .reporting _ _ => 0

theorem Ending.unanswered_le_one (e : Ending) : e.unanswered ≤ 1 := by cases e <;> simp [unanswered]

theorem Stage.unanswered_le_one (s : Stage) : s.unanswered ≤ 1 := by
  cases s with
  | ended e => exact e.unanswered_le_one
  | _ => simp [unanswered]

namespace Metrics

variable {rs : List Report} {unanswered untimed : Nat}

/-- No more than one request is counted without a result, and none is counted the other way
round. -/
theorem Accounts.bounds {x : Metrics} (h : x.Accounts rs unanswered untimed)
    (hle : unanswered ≤ 1) :
    x.ok + x.overflowed ≤ x.requests ∧ x.requests ≤ x.ok + x.overflowed + 1 := by
  rw [h.requests]
  exact ⟨Nat.le_add_right _ _, Nat.add_le_add_left hle _⟩

/-- **What was recorded of some reports, and beyond.** -/
theorem accounts_recordAll {xs : List Mark} (hresult : ∀ ok, xs.count (.result ok) = 0)
    (hrequest : xs.count .request = unanswered)
    (hduration : xs.count .duration + untimed = unanswered) :
    (recordAll {} (rs.flatMap Report.marks ++ xs)).Accounts rs unanswered untimed := by
  have hsplit : rs.length = rs.countP (·.isOk) + rs.countP (!·.isOk) := by
    rw [List.length_eq_countP_add_countP (·.isOk)]
    simp
  rw [recordAll_eq_counts]
  constructor
  · simp [counts, count_result_marks, hresult]
  · simp [counts, count_result_marks, hresult]
  · simp [counts, count_result_marks, hresult, hsplit]
  · simp [counts, count_request_marks, count_result_marks, hresult, hrequest, hsplit]
  · simp only [counts, List.count_append, count_request_marks, count_duration_marks, hrequest,
      Nat.add_assoc, hduration]

/-- What is outstanding at an ending. -/
theorem accounts_ending (rs : List Report) (e : Ending) :
    (recordAll {} (rs.flatMap Report.marks ++ e.outstanding)).Accounts rs e.unanswered
      e.untimed := by
  refine accounts_recordAll (fun ok ↦ ?_) ?_ ?_
  · cases e <;> simp [Ending.outstanding]
  · cases e <;> simp [Ending.outstanding, Ending.unanswered]
  · cases e <;> simp [Ending.outstanding, Ending.unanswered, Ending.untimed]

/-- What is outstanding at a stage. -/
theorem accounts_stage (rs : List Report) (s : Stage) :
    (recordAll {} (rs.flatMap Report.marks ++ s.outstanding)).Accounts rs s.unanswered
      s.untimed := by
  cases s with
  | ended e => exact accounts_ending rs e
  | finishing k n ms => exact accounts_recordAll (fun ok ↦ rfl) rfl rfl
  | reporting k n => exact accounts_recordAll (fun ok ↦ rfl) rfl rfl
  | _ => exact accounts_recordAll (fun ok ↦ rfl) rfl rfl

end Metrics

/-! ### The last step -/

section Last

variable {setup : Setup} {m : Moment} {a : Activity} {e : Ending} {st : State}

/-- A run that has come to its end has made a last step. -/
theorem Leads.exists_last (h : Leads setup m a ⟨.ended e, st⟩) (hm : m ≠ ⟨.ended e, st⟩) :
    ∃ b m₁ c, Leads setup m b m₁ ∧ m₁.next setup = some (c, ⟨.ended e, st⟩) ∧ a = b ++ c := by
  generalize hx : (⟨.ended e, st⟩ : Moment) = x at h hm
  induction h with
  | refl m => exact absurd rfl hm
  | @step m m₁ x a b hn hl ih =>
    by_cases hlast : m₁ = x
    · subst hlast hx
      obtain ⟨rfl, -⟩ := eq_of_leads_ended hl
      exact ⟨{}, m, a, .refl m, hn, Activity.append_nil a⟩
    · obtain ⟨c, m₂, d, hc, hd, rfl⟩ := ih hx hlast
      exact ⟨a ++ c, m₂, d, .step hn hc, hd, (Activity.append_assoc ..).symm⟩

/-- **A run that was stopped was inside a computation.** -/
theorem inside_computation_of_stopped {openSpans : List Span}
    (h : Leads setup m a ⟨.ended (.stopped openSpans), st⟩)
    (hm : m.stage ≠ .ended (.stopped openSpans)) :
    ∃ b k n ms st', Leads setup m b ⟨.finishing k n ms, st'⟩ ∧
      openSpans = [.compute n, .iteration k] := by
  obtain ⟨b, m₁, c, hb, hlast, -⟩ := h.exists_last fun heq ↦ hm (congrArg Moment.stage heq)
  cases moves_of_next hlast with
  | abort => exact ⟨b, _, _, _, _, hb, rfl⟩

/-- **A run that is broken was about to make the report** at which its receiver breaks down. -/
theorem breaksAt?_of_broken (h : Leads setup m a ⟨.ended .broken, st⟩)
    (hm : m.stage ≠ .ended .broken) :
    setup.breaksAt? = some (m.state.reported + a.reports.length + 1) := by
  obtain ⟨b, m₁, c, hb, hlast, rfl⟩ := h.exists_last fun heq ↦ hm (congrArg Moment.stage heq)
  have hcount := reported_of_leads hb
  cases moves_of_next hlast with
  | fail hbreaks =>
    rw [hbreaks, Activity.reports_append, List.length_append]
    exact congrArg (fun j ↦ some (j + 1)) hcount

end Last

/-! ### Supervised runs -/

namespace Supervision

variable (setup : Setup) (interrupt? : Option Nat) (cancelled : Bool) (source : Source)
  (lines : Nat)

/-- **What a supervised run counts** is accounted for by its reports and by what is outstanding at
the end of its task. The supervisor counts nothing. -/
theorem marks_supervise :
    (supervise setup interrupt? cancelled source lines).activity.marks =
      (supervise setup interrupt? cancelled source lines).activity.reports.flatMap Report.marks ++
        (task setup interrupt? cancelled source lines).ending.outstanding := by
  have hmarks : (supervise setup interrupt? cancelled source lines).activity.marks =
      (task setup interrupt? cancelled source lines).activity.marks := by
    rw [supervise]
    split <;> simp [Activity.ofTrace]
  rw [hmarks, reports_supervise]
  exact marks_start setup _

/-- A task that was stopped was inside a computation, which kept the spans open that it was stopped
in. -/
theorem task_stopped_inside {openSpans : List Span}
    (h : (task setup interrupt? cancelled source lines).ending = .stopped openSpans) :
    ∃ a k n ms st, Leads setup (outset interrupt? cancelled source lines) a
      ⟨.finishing k n ms, st⟩ ∧ openSpans = [.compute n, .iteration k, .run] := by
  obtain ⟨a, e, hleads, hending, -⟩ := leads_task setup interrupt? cancelled source lines
  rw [hending, Ending.leave_eq_stopped_iff] at h
  obtain ⟨ss, rfl, rfl⟩ := h
  obtain ⟨b, k, n, ms, st, hb, rfl⟩ := inside_computation_of_stopped hleads (by simp [outset])
  exact ⟨b, k, n, ms, st, hb, rfl⟩

/-- A task that is broken was about to make the report at which its receiver breaks down. -/
theorem breaksAt?_of_task_broken
    (h : (task setup interrupt? cancelled source lines).ending = .broken) :
    setup.breaksAt? =
      some ((supervise setup interrupt? cancelled source lines).activity.reports.length + 1) := by
  obtain ⟨a, e, hleads, hending, hact⟩ := leads_task setup interrupt? cancelled source lines
  have he : e = .broken := by
    rw [hending] at h
    cases e <;> simp_all [Ending.leave]
  subst he
  rw [reports_supervise, hact, breaksAt?_of_broken hleads (by simp [outset])]
  simp [outset, Activity.ofTrace]

/-- **The metrics of a supervised run account for its reports.** There is one result for each
report, with a value or with an overflow as the report has it. If the task was stopped, one more
request is counted than results, and it is not counted as computed; the task was inside that
computation. If the receiver of a report broke down, one more request is counted than results, and
it is counted as computed; the task was about to make the next report. In every other case there are
as many requests as results, and as many computations. At no moment of the task, whatever it may
come to, is more than one request counted without a result, or a result without a request. -/
theorem metrics_supervise (setup : Setup) (interrupt? : Option Nat) (cancelled : Bool)
    (source : Source) (lines : Nat) :
    let r := task setup interrupt? cancelled source lines
    let s := supervise setup interrupt? cancelled source lines
    let x := Metrics.recordAll {} s.activity.marks
    (x.ok = s.activity.reports.countP (·.isOk) ∧
      x.overflowed = s.activity.reports.countP (!·.isOk) ∧
      x.ok + x.overflowed = s.activity.reports.length) ∧
    (∀ openSpans, r.ending = .stopped openSpans →
      x.requests = x.ok + x.overflowed + 1 ∧ x.durations + 1 = x.requests ∧
      s.outcome? = some .interrupted ∧
      ∃ a k n ms st, Leads setup (outset interrupt? cancelled source lines) a
        ⟨.finishing k n ms, st⟩ ∧ openSpans = [.compute n, .iteration k, .run]) ∧
    (r.ending = .broken →
      x.requests = x.ok + x.overflowed + 1 ∧ x.durations = x.requests ∧
      setup.breaksAt? = some (s.activity.reports.length + 1)) ∧
    ((∀ openSpans, r.ending ≠ .stopped openSpans) → r.ending ≠ .broken →
      x.requests = x.ok + x.overflowed ∧ x.durations = x.requests) ∧
    ∀ a m, Leads setup (outset interrupt? cancelled source lines) a m →
      let y := Metrics.recordAll {} a.marks
      y.Accounts a.reports m.stage.unanswered m.stage.untimed ∧
        y.ok + y.overflowed ≤ y.requests ∧ y.requests ≤ y.ok + y.overflowed + 1 := by
  intro r s x
  have hx : x.Accounts s.activity.reports r.ending.unanswered r.ending.untimed := by
    have hmarks := marks_supervise setup interrupt? cancelled source lines
    show (Metrics.recordAll {} s.activity.marks).Accounts _ _ _
    rw [hmarks]
    exact Metrics.accounts_ending _ _
  refine ⟨⟨hx.ok, hx.overflowed, hx.results⟩, fun openSpans he ↦ ?_, fun he ↦ ?_,
    fun hstopped hbroken ↦ ?_, fun a m hleads ↦ ?_⟩
  · have hinterrupted :=
      (accountable_task setup interrupt? cancelled source lines).2.2 openSpans he
    rw [he] at hx
    exact ⟨hx.requests, hx.durations,
      (outcome?_eq_interrupted_iff setup interrupt? cancelled source lines).2 hinterrupted,
      task_stopped_inside setup interrupt? cancelled source lines he⟩
  · rw [he] at hx
    exact ⟨hx.requests, hx.durations,
      breaksAt?_of_task_broken setup interrupt? cancelled source lines he⟩
  · have hnone : r.ending.unanswered = 0 ∧ r.ending.untimed = 0 := by
      cases he : r.ending with
      | stopped openSpans => exact absurd he (hstopped openSpans)
      | broken => exact absurd he hbroken
      | _ => exact ⟨rfl, rfl⟩
    rw [hnone.1, hnone.2] at hx
    exact ⟨hx.requests, hx.durations⟩
  · have hmarks : a.marks = a.reports.flatMap Report.marks ++ m.stage.outstanding :=
      marks_of_leads hleads
    have hy : (Metrics.recordAll {} a.marks).Accounts a.reports m.stage.unanswered
        m.stage.untimed := by
      rw [hmarks]
      exact Metrics.accounts_stage _ _
    exact ⟨hy, hy.bounds m.stage.unanswered_le_one⟩

/-- Two requests, each of which takes a second to compute: the run is stopped in the course of the
second computation, or breaks down at the second report. -/
theorem metrics_supervise_seconds :
    let setup : Setup := { workDelayUs := 1000000 }
    let source : Source := { arrivals := [.bytes [55, 10, 56, 10]] }
    let x := Metrics.recordAll {} (supervise setup (some 1200) false source).activity.marks
    let y := Metrics.recordAll {}
      (supervise { setup with breaksAt? := some 2 } none false source).activity.marks
    (x.ok + x.overflowed = 1 ∧ x.requests = 2 ∧ x.durations = 1) ∧
      y.ok + y.overflowed = 1 ∧ y.requests = 2 ∧ y.durations = 2 := by
  intro setup source x y
  have hstopped : (task setup (some 1200) false source 0).ending =
      .stopped [.compute 8, .iteration 2, .run] := by
    decide +kernel
  have hbroken : (task { setup with breaksAt? := some 2 } none false source 0).ending =
      .broken := by
    decide +kernel
  have hone : (supervise setup (some 1200) false source).activity.reports.length = 1 := by
    decide +kernel
  have hone' : (supervise { setup with breaksAt? := some 2 } none false
      source).activity.reports.length = 1 := by
    decide +kernel
  obtain ⟨⟨-, -, hx⟩, hmore, -⟩ := metrics_supervise setup (some 1200) false source 0
  obtain ⟨⟨-, -, hy⟩, -, hmore', -⟩ :=
    metrics_supervise { setup with breaksAt? := some 2 } none false source 0
  obtain ⟨hrequests, hdurations, -⟩ := hmore _ hstopped
  obtain ⟨hrequests', hdurations', -⟩ := hmore' hbroken
  rw [hone] at hx
  rw [hone'] at hy
  rw [hx] at hrequests
  rw [hy] at hrequests'
  rw [hrequests] at hdurations
  exact ⟨⟨hx, hrequests, Nat.succ.inj hdurations⟩, hy, hrequests', hdurations'.trans hrequests'⟩

end Supervision

end TracedFibonacci
