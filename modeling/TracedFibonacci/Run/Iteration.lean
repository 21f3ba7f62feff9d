import TracedFibonacci.Metrics
import TracedFibonacci.Run.Clock
import TracedFibonacci.Trace

/-!
# One iteration of a run

An iteration waits for a request, computes the answer and reports it. It is the unit of a run: a run
is iterations one after the other, and every way for a run to end is a way for an iteration to end.

## What an iteration leaves behind

`Activity` collects what can be seen from outside: the trace, the reports and what was counted.
Stretches of a run follow one another by `++`. What the next iteration needs is in `State`: the
reader, the clock and the number of reports made so far.

## Spans that stay open

Each stretch closes the spans it opened, the last first, on nearly every way out. The exceptions
are a wait that never ends, and a computation that is stopped from outside: there the spans are
closed by whoever stops it, so `Ending.stopped` collects them on its way out (`Ending.leave`).
-/

namespace TracedFibonacci

/-- How requests are answered, and how the receiver of the reports behaves. -/
structure Setup where
  /-- What becomes of a number that does not fit a word. -/
  policy : OverflowPolicy := .wrapping
  /-- How long a computation takes, in microseconds. -/
  workDelayUs : UInt64 := 0
  /-- Whether reports go to the log. -/
  logsReports : Bool := false
  /-- The receiver of the reports cancels the run after so many reports in all. -/
  cancelsAfter? : Option Nat := none
  /-- The receiver of the reports breaks down at the report of this number. -/
  breaksAt? : Option Nat := none
  /-- What is logged when the interrupt comes. -/
  announcement : List Event := []

namespace Setup

/-- How long a computation takes, in whole milliseconds begun. -/
def workMs (setup : Setup) : Nat := (setup.workDelayUs.toNat + 999) / 1000

end Setup

/-- What can be seen of a stretch of a run. -/
structure Activity where
  /-- Spans, events and reports in order. -/
  trace : Trace := []
  /-- The reports made. -/
  reports : List Report := []
  /-- What was counted. -/
  marks : List Metrics.Mark := []

namespace Activity

instance : Append Activity :=
  ⟨fun a b ↦ ⟨a.trace ++ b.trace, a.reports ++ b.reports, a.marks ++ b.marks⟩⟩

/-- A stretch of which only a trace can be seen. -/
def ofTrace (t : Trace) : Activity := { trace := t }

@[simp] theorem trace_append (a b : Activity) : (a ++ b).trace = a.trace ++ b.trace := rfl
@[simp] theorem reports_append (a b : Activity) : (a ++ b).reports = a.reports ++ b.reports := rfl
@[simp] theorem marks_append (a b : Activity) : (a ++ b).marks = a.marks ++ b.marks := rfl

end Activity

/-- What one iteration hands on to the next. -/
structure State where
  /-- Where requests come from. -/
  reader : Reader
  /-- The time and the cancellation. -/
  clock : Clock := {}
  /-- How many reports were made. -/
  reported : Nat := 0
  deriving Repr, DecidableEq

/-- How a run ends. -/
inductive Ending where
  /-- Without an error, since it was cancelled. -/
  | cancelled
  /-- With an error in place of a request. -/
  | failed (e : RequestError)
  /-- With a breakdown of the receiver of a report. -/
  | broken
  /-- In the middle of a computation, which was stopped; these spans are open, the innermost
  first. -/
  | stopped (openSpans : List Span)
  /-- Not at all: it waits for ever. -/
  | hung
  deriving Repr, DecidableEq

/-- What becomes of an ending on the way out of the span `s`, and what the trace tells of it. -/
def Ending.leave (s : Span) : Ending → Ending × Trace
  | .stopped openSpans => (.stopped (openSpans ++ [s]), [])
  | .hung => (.hung, [])
  | e => (e, [.closed s])

/-- How an iteration ends: with a report, after which the run goes on, or with the end of the run.
-/
inductive Conclusion where
  /-- With a report. -/
  | reported
  /-- With the end of the run. -/
  | ended (e : Ending)
  deriving Repr, DecidableEq

/-- What an iteration, or a stretch of one, comes to. -/
structure Stretch where
  /-- How it ends. -/
  conclusion : Conclusion
  /-- What it hands on. -/
  state : State
  /-- What can be seen of it. -/
  activity : Activity

/-- The same, after more that can be seen. -/
def Stretch.after (a : Activity) (r : Stretch) : Stretch := { r with activity := a ++ r.activity }

namespace Iteration

/-- What is logged between two clocks: the announcement, if the interrupt came. -/
def announced (setup : Setup) (before after : Clock) : Trace :=
  if after.interrupted && !before.interrupted then setup.announcement.map (.logged []) else []

/-- Hands over the report on the request `n`, in iteration `k`. -/
def report (setup : Setup) (k : Nat) (n : UInt64) (st : State) : Stretch :=
  let r := Report.on setup.policy n
  let number := st.reported + 1
  if setup.breaksAt? = some number then
    ⟨.ended .broken, st, .ofTrace [.opened (.report n), .closed (.report n)]⟩
  else
    let logged : Trace :=
      if setup.logsReports then [.logged [.run, .iteration k, .report n] (.reported r)] else []
    { conclusion := .reported
      state := { st with
        reported := number, clock := st.clock.cancelIf (setup.cancelsAfter? = some number) }
      activity :=
        { trace := [.opened (.report n), .reported n] ++ logged ++ [.closed (.report n)]
          reports := [r]
          marks := [.result r.isOk] } }

/-- Computes the answer to the request `n`, in iteration `k`, and reports it. -/
def answer (setup : Setup) (k : Nat) (n : UInt64) (st : State) : Stretch :=
  match st.clock.work setup.workMs with
  | .stopped c =>
    ⟨.ended (.stopped [.compute n]), { st with clock := c },
      { trace := .opened (.compute n) :: announced setup st.clock c, marks := [.request] }⟩
  | .done c =>
    (report setup k n { st with clock := c }).after
      { trace := .opened (.compute n) :: announced setup st.clock c ++ [.closed (.compute n)]
        marks := [.request, .duration] }

/-- Waits for a request in iteration `k`, and answers it. -/
def body (setup : Setup) (k : Nat) (st : State) : Stretch :=
  let p := st.clock.await [] st.reader.source
  let polling : Trace :=
    [.opened .poll, .logged [.run, .iteration k, .poll] (.waiting (st.reader.lines + 1))] ++
      announced setup st.clock p.clock
  match p.polled with
  | .hung =>
    ⟨.ended .hung,
      { st with clock := p.clock, reader := { st.reader with source := p.source } },
      .ofTrace polling⟩
  | .abandoned =>
    ⟨.ended .cancelled,
      { st with clock := p.clock, reader := { st.reader with source := p.source } },
      .ofTrace (polling ++ [.closed .poll])⟩
  | .ended o =>
    let st' := { st with clock := p.clock, reader := (st.reader.conclude o p.source).2 }
    match (st.reader.conclude o p.source).1 with
    | .error e =>
      ⟨.ended (.failed e), st', { trace := polling ++ [.closed .poll], marks := [.error e.kind] }⟩
    | .ok n => (answer setup k n st').after (.ofTrace (polling ++ [.closed .poll]))

/-- The iteration of number `k`. -/
def run (setup : Setup) (k : Nat) (st : State) : Stretch :=
  let r := body setup k st
  match r.conclusion with
  | .reported =>
    { r with activity :=
        .ofTrace [.opened (.iteration k)] ++ r.activity ++ .ofTrace [.closed (.iteration k)] }
  | .ended e =>
    { r with
      conclusion := .ended (e.leave (.iteration k)).1
      activity :=
        .ofTrace [.opened (.iteration k)] ++ r.activity ++ .ofTrace (e.leave (.iteration k)).2 }

/-! ### An iteration takes something from the source -/

/-- Reporting leaves the reader alone. -/
theorem reader_report (setup : Setup) (k : Nat) (n : UInt64) (st : State) :
    (report setup k n st).state.reader = st.reader := by
  unfold report
  dsimp only
  split <;> rfl

/-- Answering leaves the reader alone. -/
theorem reader_answer (setup : Setup) (k : Nat) (n : UInt64) (st : State) :
    (answer setup k n st).state.reader = st.reader := by
  unfold answer
  split
  · rfl
  · exact reader_report ..

/-- The end of the stream is no request. -/
theorem receive_nil (lines : Nat) : Reader.receive lines [] = (.error .closed, lines) := rfl

/-- An iteration that reports has taken a line from the source. -/
theorem size_lt_of_reported {setup : Setup} {k : Nat} {st : State}
    (h : (run setup k st).conclusion = .reported) :
    (run setup k st).state.reader.source.size < st.reader.source.size := by
  have hbody : (body setup k st).conclusion = .reported ∧
      (run setup k st).state = (body setup k st).state := by
    unfold run at h ⊢
    dsimp only at h ⊢
    split at h
    · next hc => exact ⟨hc, by rw [hc]⟩
    · simp at h
  rw [hbody.2]
  have hc := hbody.1
  unfold body at hc ⊢
  dsimp only at hc ⊢
  cases hp : (st.clock.await [] st.reader.source).polled with
  | hung => simp [hp] at hc
  | abandoned => simp [hp] at hc
  | ended o =>
    simp only [hp] at hc ⊢
    cases hr : (st.reader.conclude o (st.clock.await [] st.reader.source).source).1 with
    | error e => simp [hr] at hc
    | ok n =>
      simp only [Stretch.after, reader_answer]
      cases o with
      | fault f => simp [Reader.conclude] at hr
      | line bs =>
        simp only [Reader.conclude] at hr ⊢
        have hne : bs ≠ [] := by
          rintro rfl
          simp [receive_nil] at hr
        exact Clock.size_lt_of_await hp hne

end Iteration

end TracedFibonacci
