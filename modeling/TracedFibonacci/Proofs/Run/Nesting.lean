import TracedFibonacci.Proofs.Run.Task

/-!
# Spans are bracketed

Every span that a run opens is closed again, once, the last one opened first, and each span stands
where it belongs. This holds on every way out of a run: an error, a cancellation, a wait that is
given up, a receiver that breaks down, and a supervisor that stops the run in the middle of a
computation.

## A grammar and a stack

`Trace.Bracketed` is the grammar of the traces that are meant, and is what the main statement is
about. It speaks of whole traces, which a run only has at its end. `Trace.Leaves` says of any
stretch of a trace which spans it leaves open, and what a single step does is read off there
(`open_next`). A stretch that leaves nothing open is a word of the grammar (`bracketed_of_leaves`).

## Spans that are closed from outside

A run that never ends keeps its spans open, and a run that is stopped leaves them to whoever stops
it. What is open at a moment of a run is a matter of its stage (`Stage.Open`), and closing that, the
innermost first, completes the trace.
-/

namespace TracedFibonacci

open Iteration

/-! ### The grammar -/

/-- Where a span belongs, with the spans around it, the innermost first: a run stands by itself, an
iteration directly in a run, and a poll, a computation and a report directly in an iteration. -/
inductive Span.Belongs : Span → List Span → Prop
  | run : Belongs .run []
  | iteration (k : Nat) : Belongs (.iteration k) [.run]
  | poll (k : Nat) : Belongs .poll [.iteration k, .run]
  | compute (k : Nat) (n : UInt64) : Belongs (.compute n) [.iteration k, .run]
  | report (k : Nat) (n : UInt64) : Belongs (.report n) [.iteration k, .run]

namespace Trace

/-- A perfectly bracketed trace inside some open spans. It consists of events and reports and of
whole spans one after the other: a span is opened where it belongs, what follows is bracketed inside
it, and then it is closed. -/
inductive Bracketed : List Span → Trace → Prop
  | nil (ss : List Span) : Bracketed ss []
  | logged (ss within : List Span) (e : Event) : Bracketed ss [.logged within e]
  | reported (ss : List Span) (n : UInt64) : Bracketed ss [.reported n]
  | span {s : Span} {ss : List Span} {t : Trace} (hs : s.Belongs ss) (ht : Bracketed (s :: ss) t) :
    Bracketed ss (.opened s :: t ++ [.closed s])
  | append {ss : List Span} {t u : Trace} (ht : Bracketed ss t) (hu : Bracketed ss u) :
    Bracketed ss (t ++ u)

/-! ### The stack -/

/-- Begun inside the open spans `ss`, a stretch of a trace leaves the spans `ss'` open. Only the
innermost open span can be closed. -/
inductive Leaves : List Span → Trace → List Span → Prop
  | nil {ss : List Span} : Leaves ss [] ss
  | logged {ss ss' within : List Span} {e : Event} {t : Trace} (ht : Leaves ss t ss') :
    Leaves ss (.logged within e :: t) ss'
  | reported {ss ss' : List Span} {n : UInt64} {t : Trace} (ht : Leaves ss t ss') :
    Leaves ss (.reported n :: t) ss'
  | opened {ss ss' : List Span} {s : Span} {t : Trace} (hs : s.Belongs ss)
    (ht : Leaves (s :: ss) t ss') : Leaves ss (.opened s :: t) ss'
  | closed {ss ss' : List Span} {s : Span} {t : Trace} (ht : Leaves ss t ss') :
    Leaves (s :: ss) (.closed s :: t) ss'

theorem Leaves.append {ss ss' ss'' : List Span} {t u : Trace} (ht : Leaves ss t ss')
    (hu : Leaves ss' u ss'') : Leaves ss (t ++ u) ss'' := by
  induction ht with
  | nil => exact hu
  | logged _ ih => exact .logged (ih hu)
  | reported _ ih => exact .reported (ih hu)
  | opened hs _ ih => exact .opened hs (ih hu)
  | closed _ ih => exact .closed (ih hu)

/-- Events open and close nothing. -/
theorem leaves_logged (ss : List Span) (es : List Event) : Leaves ss (es.map (.logged [])) ss := by
  induction es with
  | nil => exact .nil
  | cons e es ih => exact .logged ih

/-- Closing what is open leaves nothing open. -/
theorem leaves_closed (ss : List Span) : Leaves ss (ss.map .closed) [] := by
  induction ss with
  | nil => exact .nil
  | cons s ss ih => exact .closed ih

/-- A trace that closes the open spans one after the other, with nothing but bracketed traces in
between. -/
def Unwinds : List Span → Trace → Prop
  | [], t => Bracketed [] t
  | s :: ss, t => ∃ u v, t = u ++ .closed s :: v ∧ Bracketed (s :: ss) u ∧ Unwinds ss v

theorem unwinds_append {ss : List Span} {t u : Trace} (ht : Bracketed ss t) (hu : Unwinds ss u) :
    Unwinds ss (t ++ u) := by
  cases ss with
  | nil => exact Bracketed.append ht hu
  | cons s ss =>
    obtain ⟨v, w, rfl, hv, hw⟩ := hu
    exact ⟨t ++ v, w, (List.append_assoc ..).symm, Bracketed.append ht hv, hw⟩

theorem unwinds_of_leaves {ss : List Span} {t : Trace} (h : Leaves ss t []) : Unwinds ss t := by
  generalize hend : [] = ss' at h
  induction h with
  | nil =>
    subst hend
    exact .nil []
  | @logged ss _ within e t _ ih => exact unwinds_append (.logged ss within e) (ih hend)
  | @reported ss _ n t _ ih => exact unwinds_append (.reported ss n) (ih hend)
  | @opened ss _ s t hs _ ih =>
    -- the span that is opened here is the first to be closed
    obtain ⟨u, v, rfl, hu, hv⟩ := ih hend
    have hspan := unwinds_append (.span hs hu) hv
    rwa [List.append_assoc] at hspan
  | closed _ ih => exact ⟨[], _, rfl, .nil _, ih hend⟩

/-- **What leaves nothing open is bracketed.** -/
theorem bracketed_of_leaves {t : Trace} (h : Leaves [] t []) : Bracketed [] t :=
  unwinds_of_leaves h

end Trace

/-! ### What is open -/

/-- The spans that are open when a run has ended so, with the spans `outer` around all it did. -/
inductive Ending.Open (outer : List Span) : Ending → List Span → Prop
  | cancelled : Open outer .cancelled outer
  | failed (e : RequestError) : Open outer (.failed e) outer
  | broken : Open outer .broken outer
  | stopped (openSpans : List Span) : Open outer (.stopped openSpans) (openSpans ++ outer)
  | hung (k : Nat) : Open outer .hung [.poll, .iteration k, .run]

/-- The spans that are open at a stage of a run. -/
inductive Stage.Open : Stage → List Span → Prop
  | between (k : Nat) : Open (.between k) [.run]
  | reading (k : Nat) (taken : List UInt8) : Open (.reading k taken) [.poll, .iteration k, .run]
  | suspended (k : Nat) (taken : List UInt8) (w : Wait) :
    Open (.suspended k taken w) [.poll, .iteration k, .run]
  | computing (k : Nat) (n : UInt64) : Open (.computing k n) [.iteration k, .run]
  | finishing (k : Nat) (n : UInt64) (ms : Nat) :
    Open (.finishing k n ms) [.compute n, .iteration k, .run]
  | reporting (k : Nat) (n : UInt64) : Open (.reporting k n) [.iteration k, .run]
  | ended {e : Ending} {ss : List Span} (he : e.Open [.run] ss) : Open (.ended e) ss

section Steps

variable {setup : Setup} {m m' : Moment} {a : Activity} {ss : List Span}

theorem leaves_announced (c c' : Clock) : Trace.Leaves ss (announced setup c c') ss := by
  rw [announced]
  split
  · exact Trace.leaves_logged ss setup.announcement
  · exact .nil

/-- **What one step leaves open** is what is open at the stage that it leads to. -/
theorem open_next (h : m.next setup = some (a, m')) (ho : m.stage.Open ss) :
    ∃ ss', m'.stage.Open ss' ∧ Trace.Leaves ss a.trace ss' := by
  cases moves_of_next h with
  | stop =>
    cases ho
    exact ⟨_, .ended .cancelled, .logged .nil⟩
  | begin =>
    cases ho
    exact ⟨_, .reading _ _, .opened (.iteration _) (.opened (.poll _) (.logged .nil))⟩
  | accept =>
    cases ho
    exact ⟨_, .computing _ _, .closed .nil⟩
  | refuse =>
    cases ho
    exact ⟨_, .ended (.failed _), .closed (.closed .nil)⟩
  | wait =>
    cases ho
    exact ⟨_, .suspended _ _ _, .nil⟩
  | giveUp =>
    cases ho
    exact ⟨_, .ended .cancelled, .closed (.closed (.logged .nil))⟩
  | wake =>
    cases ho
    exact ⟨_, .reading _ _, .nil⟩
  | interruptWait =>
    cases ho
    exact ⟨_, .suspended _ _ _, leaves_announced _ _⟩
  | hang =>
    cases ho
    exact ⟨_, .ended (.hung _), .nil⟩
  | compute =>
    cases ho
    exact ⟨_, .reporting _ _, .opened (.compute _ _) (.closed .nil)⟩
  | interruptWork =>
    cases ho
    exact ⟨_, .finishing _ _ _, .opened (.compute _ _) (leaves_announced _ _)⟩
  | finish =>
    cases ho
    exact ⟨_, .reporting _ _, .closed .nil⟩
  | abort =>
    cases ho
    exact ⟨_, .ended (.stopped _), .nil⟩
  | @report k n st hb =>
    cases ho
    refine ⟨_, .between _, .opened (.report _ _) (.reported ?_)⟩
    cases setup.logsReports with
    | true => exact .logged (.closed (.closed .nil))
    | false => exact .closed (.closed .nil)
  | fail =>
    cases ho
    exact ⟨_, .ended .broken, .opened (.report _ _) (.closed (.closed .nil))⟩

theorem open_of_leads (h : Leads setup m a m') (ho : m.stage.Open ss) :
    ∃ ss', m'.stage.Open ss' ∧ Trace.Leaves ss a.trace ss' := by
  induction h generalizing ss with
  | refl m => exact ⟨ss, ho, .nil⟩
  | step hn _ ih =>
    obtain ⟨ss₁, ho₁, ht₁⟩ := open_next hn ho
    obtain ⟨ss', ho', ht'⟩ := ih ho₁
    exact ⟨ss', ho', ht₁.append ht'⟩

end Steps

/-! ### Whole runs -/

/-- Leaving the span of the run closes it, unless spans inside it are left open. -/
theorem Ending.Open.leave {e : Ending} {ss : List Span} (h : e.Open [.run] ss) :
    ∃ ss', (e.leave .run).1.Open [] ss' ∧ Trace.Leaves ss (e.leave .run).2 ss' := by
  cases h with
  | cancelled => exact ⟨_, .cancelled, .closed .nil⟩
  | failed e => exact ⟨_, .failed e, .closed .nil⟩
  | broken => exact ⟨_, .broken, .closed .nil⟩
  | hung k => exact ⟨_, .hung k, .nil⟩
  | stopped openSpans =>
    refine ⟨openSpans ++ [.run], ?_, .nil⟩
    have hopen : (Ending.stopped (openSpans ++ [.run])).Open [] (openSpans ++ [.run] ++ []) :=
      .stopped _
    rwa [List.append_nil] at hopen

/-- What a run leaves open, by its ending. -/
theorem open_start (setup : Setup) (st : State) :
    ∃ ss, (Run.start setup st).ending.Open [] ss ∧
      Trace.Leaves [] (Run.start setup st).activity.trace ss := by
  obtain ⟨ss, hstage, hloop⟩ := open_of_leads (leads_loop setup 0 st) (.between 0)
  cases hstage with
  | ended hopen =>
    obtain ⟨ss', hopen', hleave⟩ := hopen.leave
    exact ⟨ss', hopen', .opened .run (hloop.append hleave)⟩

/-- What a stretch leaves open, closing it completes the trace. -/
theorem Trace.Leaves.bracketed {t : Trace} {ss : List Span} (h : Leaves [] t ss) :
    Bracketed [] (t ++ ss.map .closed) :=
  bracketed_of_leaves (h.append (leaves_closed ss))

namespace Supervision

variable (setup : Setup) (interrupt? : Option Nat) (cancelled : Bool) (source : Source)
  (lines : Nat)

/-- What a supervised run leaves open: nothing once it has an outcome, and the spans of a poll
otherwise. -/
theorem leaves_supervise :
    ∃ ss, Trace.Leaves [] (supervise setup interrupt? cancelled source lines).activity.trace ss ∧
      ((supervise setup interrupt? cancelled source lines).outcome? ≠ none → ss = []) ∧
      ((supervise setup interrupt? cancelled source lines).outcome? = none →
        ∃ k, ss = [.poll, .iteration k, .run]) := by
  obtain ⟨ss, hopen, htask⟩ := open_start setup
    { reader := { source, lines }, clock := startClock interrupt? cancelled }
  obtain ⟨hcan, hhung, hstop⟩ := accountable_task setup interrupt? cancelled source lines
  unfold supervise
  rw [task] at *
  generalize Run.start setup _ = r at *
  have hbefore : Trace.Leaves [] (if (startClock interrupt? cancelled).interrupted then
      setup.announcement.map (.logged []) else []) [] := by
    split
    · exact Trace.leaves_logged [] setup.announcement
    · exact .nil
  have htrace := hbefore.append htask
  by_cases hi : r.state.clock.interrupted = true
  · rw [if_pos hi]
    refine ⟨[], htrace.append ?_, fun _ ↦ rfl, by simp⟩
    obtain ⟨e, st, a⟩ := r
    cases hopen with
    | stopped openSpans =>
      rw [List.append_nil]
      exact .logged (.logged (Trace.leaves_closed openSpans))
    | hung k => exact absurd ((hcan hi).symm.trans (hhung rfl)) (by simp)
    | _ => exact .logged .nil
  · rw [if_neg hi]
    refine ⟨ss, htrace, ?_⟩
    obtain ⟨e, st, a⟩ := r
    cases hopen with
    | stopped openSpans => exact absurd (hstop openSpans rfl) hi
    | hung k => exact ⟨fun h ↦ absurd rfl h, fun _ ↦ ⟨k, rfl⟩⟩
    | _ => exact ⟨fun _ ↦ rfl, by simp [Outcome.ofEnding?]⟩

end Supervision

/-- **Spans are bracketed on every way out.** At whatever moment a run is given up, closing the
spans that are open then, the innermost first, makes a perfectly bracketed trace of what can be seen
of it. The trace of a run that has ended is such a trace by itself, but for the spans that a stopped
run leaves to its supervisor and for those of a poll that never ends. The trace of a supervised run
that has an outcome is one by itself, also if the run was stopped or the receiver of its reports
broke down; and if it has none, since the run waits for ever, it only lacks the end of that poll. -/
theorem spans_bracketed (setup : Setup) :
    (∀ st : State,
      (∀ a m, Leads setup ⟨.between 0, st⟩ a m → ∃ ss, m.stage.Open ss ∧
        Trace.Bracketed [] (.opened .run :: a.trace ++ ss.map .closed)) ∧
      ∃ ss, (Run.start setup st).ending.Open [] ss ∧
        Trace.Bracketed [] ((Run.start setup st).activity.trace ++ ss.map .closed)) ∧
    ∀ interrupt? cancelled source lines,
      ((Supervision.supervise setup interrupt? cancelled source lines).outcome? ≠ none →
        Trace.Bracketed []
          (Supervision.supervise setup interrupt? cancelled source lines).activity.trace) ∧
      ((Supervision.supervise setup interrupt? cancelled source lines).outcome? = none →
        ∃ k, Trace.Bracketed []
          ((Supervision.supervise setup interrupt? cancelled source lines).activity.trace ++
            [.closed .poll, .closed (.iteration k), .closed .run])) := by
  refine ⟨fun st ↦ ⟨?_, ?_⟩, fun interrupt? cancelled source lines ↦ ?_⟩
  · intro a m h
    obtain ⟨ss, hopen, hleaves⟩ := open_of_leads h (.between 0)
    exact ⟨ss, hopen, (Trace.Leaves.opened .run hleaves).bracketed⟩
  · obtain ⟨ss, hopen, hleaves⟩ := open_start setup st
    exact ⟨ss, hopen, hleaves.bracketed⟩
  · obtain ⟨ss, hleaves, hsome, hnone⟩ :=
      Supervision.leaves_supervise setup interrupt? cancelled source lines
    refine ⟨fun ho ↦ ?_, fun ho ↦ ?_⟩
    · rw [hsome ho] at hleaves
      exact Trace.bracketed_of_leaves hleaves
    · obtain ⟨k, rfl⟩ := hnone ho
      exact ⟨k, hleaves.bracketed⟩

/-- A run that is stopped in the middle of a computation of a second. -/
theorem spans_bracketed_stopped :
    let s := Supervision.supervise { workDelayUs := 1000000 } (some 10) false
      { arrivals := [.bytes [55, 10]] }
    s.outcome? ≠ none ∧ s.activity.trace.length = 11 ∧ Trace.Bracketed [] s.activity.trace := by
  intro s
  have ho : s.outcome? ≠ none := by decide +kernel
  have hlength : s.activity.trace.length = 11 := by decide +kernel
  exact ⟨ho, hlength, ((spans_bracketed _).2 _ _ _ _).1 ho⟩

end TracedFibonacci
