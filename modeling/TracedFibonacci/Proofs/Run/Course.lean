import TracedFibonacci.Proofs.Run.Accounting
import TracedFibonacci.Proofs.Run.Postponement
import TracedFibonacci.Proofs.Run.Resumption

/-!
# The course of a run

A run is idle, polls, computes, reports and is idle again, once for each request, until it ends
where it is idle or where it polls. Its trace is a word of this small machine, and nothing but the
requests and the way it ended is needed to write the word down.

## Two counters

Iterations are numbered from one in each run. Lines are numbered by the reader, who goes on counting
from run to run: a run finds so many lines read as the runs before it have left, and each of its
polls says which line it turns to.

## One step and the rest

`Trace.iterations` is the word of the whole iterations, and `Ending.Concludes` says what can follow
them. `Moment.Tells` says of every moment what the trace has of the iteration under way, and how
many lines have been read. One step lengthens the word by what it does (`follows_next`), and so do
all the steps of a run (`follows_of_leads`). Being cancelled from outside changes neither the stage
nor the reader, so a run may be cancelled at whatever moment.

A supervisor announces its interrupt in the middle of a run, outside of all spans. What is left of a
trace without that is the run's own.
-/

namespace TracedFibonacci

open Iteration

/-! ### The word of a run -/

/-- Whether an entry is the run's own, other than an announcement outside of all spans. -/
def Entry.isOwn : Entry → Bool
  | .logged [] _ => false
  | .logged (_ :: _) _ | .opened _ | .closed _ | .reported _ => true

namespace Trace

/-- What a run tells itself in a trace. -/
def own (t : Trace) : Trace := t.filter Entry.isOwn

@[simp] theorem own_append (t u : Trace) : own (t ++ u) = t.own ++ u.own := List.filter_append ..

/-- The beginning of iteration `k`, which waits for the line of the given number. -/
def polling (k line : Nat) : Trace :=
  [.opened (.iteration k), .opened .poll, .logged [.run, .iteration k, .poll] (.waiting line)]

/-- The same with the poll over. -/
def polled (k line : Nat) : Trace := polling k line ++ [.closed .poll]

/-- A computation. -/
def computed (n : UInt64) : Trace := [.opened (.compute n), .closed (.compute n)]

/-- A report, which may go to the log. -/
def reported (setup : Setup) (k : Nat) (n : UInt64) : Trace :=
  [.opened (.report n), .reported n] ++
    (if setup.logsReports then
      [.logged [.run, .iteration k, .report n] (.reported (.on setup.policy n))] else []) ++
    [.closed (.report n)]

/-- The whole iteration `k`, which answers the request `n` in the line of the given number. -/
def iteration (setup : Setup) (k line : Nat) (n : UInt64) : Trace :=
  polled k line ++ computed n ++ reported setup k n ++ [.closed (.iteration k)]

/-- Whole iterations one after the other, numbered from one, in the lines that follow the first
`lines` ones. -/
def iterations (setup : Setup) (lines : Nat) (ns : List UInt64) : Trace :=
  (ns.mapIdx fun i n ↦ iteration setup (i + 1) (lines + i + 1) n).flatten

theorem iterations_concat (setup : Setup) (lines : Nat) (ns : List UInt64) (n : UInt64) :
    iterations setup lines (ns ++ [n]) =
      iterations setup lines ns ++
        iteration setup (ns.length + 1) (lines + ns.length + 1) n := by
  rw [iterations, List.mapIdx_concat, List.flatten_append, List.flatten_singleton]
  rfl

theorem own_opened (s : Span) (t : Trace) : own (.opened s :: t) = .opened s :: t.own := rfl

theorem own_reported (setup : Setup) (k : Nat) (n : UInt64) :
    own (reported setup k n ++ [.closed (.iteration k)]) =
      reported setup k n ++ [.closed (.iteration k)] := by
  rw [reported]
  cases setup.logsReports <;> rfl

end Trace

/-- What can follow `k` whole iterations of a run that ends so, where `lines` lines were read before
the run. -/
inductive Ending.Concludes (lines k : Nat) : Ending → Trace → Prop
  /-- The run found itself cancelled where it was idle. -/
  | idle : Concludes lines k .cancelled [.logged [.run] (.cancelled k), .closed .run]
  /-- It was cancelled in a poll, and says so behind the iteration. -/
  | gaveUp : Concludes lines k .cancelled
    (Trace.polled (k + 1) (lines + k + 1) ++
      [.closed (.iteration (k + 1)), .logged [.run] (.cancelledWhilePolling (k + 1)),
        .closed .run])
  /-- It got an error for a request. -/
  | failed (e : RequestError) : Concludes lines k (.failed e)
    (Trace.polled (k + 1) (lines + k + 1) ++ [.closed (.iteration (k + 1)), .closed .run])
  /-- The receiver of a report broke down. -/
  | broken (n : UInt64) : Concludes lines k .broken
    (Trace.polled (k + 1) (lines + k + 1) ++ Trace.computed n ++
      [.opened (.report n), .closed (.report n), .closed (.iteration (k + 1)), .closed .run])
  /-- A supervisor stopped a computation, and its spans are left to the supervisor. -/
  | stopped (n : UInt64) : Concludes lines k (.stopped [.compute n, .iteration (k + 1), .run])
    (Trace.polled (k + 1) (lines + k + 1) ++ [.opened (.compute n)])
  /-- A poll never ends. -/
  | hung : Concludes lines k .hung (Trace.polling (k + 1) (lines + k + 1))

/-- How many lines were read for a request that came to nothing: one, if it was a line of text. -/
def RequestError.linesRead : RequestError → Nat
  | .malformed _ _ | .outOfRange _ _ | .missingNewline _ _ => 1
  | .closed | .unreadable _ => 0

/-- How many lines a run reads that ends so, besides those that it reports on. -/
def Ending.linesRead : Ending → Nat
  | .failed e => e.linesRead
  | .broken | .stopped _ => 1
  | .cancelled | .hung => 0

/-- How many lines a run reads. -/
def Finish.linesRead (r : Finish) : Nat := r.activity.reports.length + r.ending.linesRead

/-- What a run comes to that answered the requests `ns`, where `lines` lines were read before it. -/
structure Finish.Follows (setup : Setup) (lines : Nat) (ns : List UInt64) (r : Finish) : Prop where
  /-- The reports are on these requests. -/
  reports : r.activity.reports = ns.map (.on setup.policy)
  /-- The trace has an iteration for each of them, and what its ending can add to that. -/
  trace : ∃ t, r.activity.trace.own = .opened .run :: (Trace.iterations setup lines ns ++ t) ∧
    r.ending.Concludes lines ns.length t
  /-- The reader has counted the lines. -/
  lines_eq : r.state.reader.lines = lines + r.linesRead

/-- The run that ends so after some steps, with its span around them. -/
def Finish.leaving (e : Ending) (st : State) (a : Activity) : Finish :=
  ⟨(e.leave .run).1, st, .ofTrace [.opened .run] ++ a ++ .ofTrace (e.leave .run).2⟩

theorem Finish.own_leaving (e : Ending) (st : State) (a : Activity) :
    (Finish.leaving e st a).activity.trace.own =
      .opened .run :: (a.trace.own ++ (e.leave .run).2) := by
  have hown : (e.leave .run).2.own = (e.leave .run).2 := by cases e <;> rfl
  show Trace.own (.opened .run :: (a.trace ++ (e.leave .run).2)) = _
  rw [Trace.own_opened, Trace.own_append, hown]

/-! ### Moment by moment -/

/-- What the trace has at a moment besides `k` whole iterations, where `lines` lines were read
before the run. -/
inductive Moment.Tells (lines k : Nat) : Moment → Trace → Prop
  | between {st : State} (h : st.reader.lines = lines + k) : Tells lines k ⟨.between k, st⟩ []
  | reading {taken : List UInt8} {st : State} (h : st.reader.lines = lines + k) :
    Tells lines k ⟨.reading (k + 1) taken, st⟩ (Trace.polling (k + 1) (lines + k + 1))
  | suspended {taken : List UInt8} {w : Wait} {st : State} (h : st.reader.lines = lines + k) :
    Tells lines k ⟨.suspended (k + 1) taken w, st⟩ (Trace.polling (k + 1) (lines + k + 1))
  | computing {n : UInt64} {st : State} (h : st.reader.lines = lines + k + 1) :
    Tells lines k ⟨.computing (k + 1) n, st⟩ (Trace.polled (k + 1) (lines + k + 1))
  | finishing {n : UInt64} {ms : Nat} {st : State} (h : st.reader.lines = lines + k + 1) :
    Tells lines k ⟨.finishing (k + 1) n ms, st⟩
      (Trace.polled (k + 1) (lines + k + 1) ++ [.opened (.compute n)])
  | reporting {n : UInt64} {st : State} (h : st.reader.lines = lines + k + 1) :
    Tells lines k ⟨.reporting (k + 1) n, st⟩
      (Trace.polled (k + 1) (lines + k + 1) ++ Trace.computed n)
  | ended {e : Ending} {st : State} {t : Trace} (h : st.reader.lines = lines + k + e.linesRead)
    (ht : (e.leave .run).1.Concludes lines k (t ++ (e.leave .run).2)) :
    Tells lines k ⟨.ended e, st⟩ t

/-- A run that was idle where `lines` lines had been read has answered the requests `ns` since, and
so much can be seen of it. -/
structure Moment.Follows (setup : Setup) (lines : Nat) (ns : List UInt64) (a : Activity)
    (m : Moment) : Prop where
  /-- The reports are on these requests. -/
  reports : a.reports = ns.map (.on setup.policy)
  /-- The trace has an iteration for each of them, and what belongs to the one under way. -/
  trace : ∃ t, a.trace.own = Trace.iterations setup lines ns ++ t ∧ m.Tells lines ns.length t

/-- How many lines what was read for a request makes. -/
def linesIn : Except RequestError UInt64 → Nat
  | .ok _ => 1
  | .error e => e.linesRead

theorem linesIn_parse (line : Nat) (raw : String) : linesIn (Request.parse line raw) = 1 := by
  rw [Request.parse]
  cases Request.token? raw.toList with
  | none => rfl
  | some token =>
    dsimp only
    split_ifs <;> rfl

theorem lines_receive (lines : Nat) (bs : List UInt8) :
    (Reader.receive lines bs).2 = lines + linesIn (Reader.receive lines bs).1 := by
  rw [Reader.receive.eq_def]
  split
  · rfl
  · cases Text.Utf8.decode bs with
    | error f => rfl
    | ok raw => exact congrArg (lines + ·) (linesIn_parse (lines + 1) raw).symm

/-- **A reader counts the lines that it has read whole and as text.** -/
theorem lines_conclude {r r' : Reader} {o : Source.Outcome} {s : Source}
    {x : Except RequestError UInt64} (h : r.conclude o s = (x, r')) :
    r'.lines = r.lines + linesIn x := by
  obtain ⟨rfl, rfl⟩ := Prod.mk.inj h
  cases o with
  | fault f => rfl
  | line bs => exact lines_receive r.lines bs

section Steps

variable {setup : Setup} {lines : Nat} {m m' : Moment} {a b : Activity} {ns : List UInt64}

theorem own_announced (c c' : Clock) : (announced setup c c').own = [] := by
  rw [announced]
  split
  · rw [Trace.own, List.filter_eq_nil_iff]
    simp [Entry.isOwn]
  · rfl

/-- A step without a report adds to the iteration under way. -/
theorem tells_next {k : Nat} {t : Trace} (hn : m.next setup = some (b, m')) (hb : b.reports = [])
    (ht : m.Tells lines k t) : m'.Tells lines k (t ++ b.trace.own) := by
  cases moves_of_next hn with
  | stop =>
    cases ht with
    | between hl => exact .ended hl .idle
  | begin =>
    cases ht with
    | between hl =>
      rw [hl]
      exact .reading hl
  | accept _ hr =>
    cases ht with
    | reading hl => exact .computing ((lines_conclude hr).trans (by rw [hl]; rfl))
  | refuse _ hr =>
    cases ht with
    | reading hl => exact .ended ((lines_conclude hr).trans (by rw [hl]; rfl)) (.failed _)
  | wait =>
    cases ht with
    | reading hl => exact .suspended hl
  | giveUp =>
    cases ht with
    | suspended hl => exact .ended hl .gaveUp
  | wake =>
    cases ht with
    | suspended hl => exact .reading hl
  | interruptWait =>
    cases ht with
    | suspended hl =>
      rw [Activity.ofTrace, own_announced, List.append_nil]
      exact .suspended hl
  | hang =>
    cases ht with
    | suspended hl => exact .ended hl .hung
  | compute =>
    cases ht with
    | computing hl => exact .reporting hl
  | interruptWork =>
    cases ht with
    | computing hl =>
      rw [Trace.own_opened, own_announced]
      exact .finishing hl
  | finish =>
    cases ht with
    | finishing hl => exact .reporting hl
  | abort =>
    cases ht with
    | finishing hl => exact .ended hl (.stopped _)
  | report => contradiction
  | fail =>
    cases ht with
    | reporting hl => exact .ended hl (.broken _)

/-- **Each step goes on with the word.** -/
theorem follows_next (hn : m.next setup = some (b, m')) (h : m.Follows setup lines ns a) :
    ∃ ns', m'.Follows setup lines ns' (a ++ b) := by
  obtain ⟨hreports, t, htrace, ht⟩ := h
  cases moves_of_next hn with
  | @report k n st hb =>
    cases ht with
    | reporting hl =>
      refine ⟨ns ++ [n], ?_, [], ?_, ?_⟩
      · rw [Activity.reports_append, hreports, List.map_append]
        rfl
      · have hown := Trace.own_reported setup (ns.length + 1) n
        rw [Trace.reported] at hown
        rw [Activity.trace_append, Trace.own_append, htrace, hown, Trace.iterations_concat,
          Trace.iteration, Trace.reported]
        simp only [List.append_assoc, List.append_nil]
      · rw [List.length_append]
        exact .between hl
  | _ =>
    refine ⟨ns, ?_, _, ?_, tells_next hn rfl ht⟩
    · rw [Activity.reports_append, hreports]
      exact List.append_nil _
    · rw [Activity.trace_append, Trace.own_append, htrace, List.append_assoc]

theorem follows_of_leads (h : Leads setup m b m') (hm : m.Follows setup lines ns a) :
    ∃ ns', m'.Follows setup lines ns' (a ++ b) := by
  induction h generalizing a ns with
  | refl m =>
    rw [Activity.append_nil]
    exact ⟨ns, hm⟩
  | step hn _ ih =>
    obtain ⟨ns₁, h₁⟩ := follows_next hn hm
    rw [← Activity.append_assoc]
    exact ih h₁

/-- Being cancelled from outside changes nothing that the trace tells. -/
theorem Moment.Follows.cancel (h : m.Follows setup lines ns a) :
    m.cancel.Follows setup lines ns a := by
  obtain ⟨hreports, t, htrace, ht⟩ := h
  refine ⟨hreports, t, htrace, ?_⟩
  cases ht with
  | between hl => exact .between hl
  | reading hl => exact .reading hl
  | suspended hl => exact .suspended hl
  | computing hl => exact .computing hl
  | finishing hl => exact .finishing hl
  | reporting hl => exact .reporting hl
  | ended hl he => exact .ended hl he

theorem Ending.linesRead_leave (e : Ending) (s : Span) : (e.leave s).1.linesRead = e.linesRead := by
  cases e <;> rfl

/-- **At its end a run has completed the word.** -/
theorem Moment.Follows.leaving {e : Ending} {st : State}
    (h : Moment.Follows setup lines ns a ⟨.ended e, st⟩) :
    (Finish.leaving e st a).Follows setup lines ns := by
  obtain ⟨hreports, t, htrace, ht⟩ := h
  have hfinish : (Finish.leaving e st a).activity.reports = ns.map (.on setup.policy) :=
    (List.append_nil _).trans hreports
  cases ht with
  | ended hl he =>
    refine ⟨hfinish, ⟨t ++ (e.leave .run).2, ?_, he⟩, ?_⟩
    · rw [Finish.own_leaving, htrace, List.append_assoc]
    · rw [Finish.linesRead, hfinish, List.length_map, ← Nat.add_assoc]
      exact hl.trans (congrArg _ (e.linesRead_leave .run).symm)

theorem follows_between (setup : Setup) (st : State) :
    Moment.Follows setup st.reader.lines [] {} ⟨.between 0, st⟩ :=
  ⟨rfl, [], rfl, .between rfl⟩

/-- A poll says that it turns to the line behind those that were read. -/
theorem line_of_waiting {within : List Span} {line : Nat} (hn : m.next setup = some (b, m'))
    (hw : .logged within (.waiting line) ∈ b.trace.own) : line = m.state.reader.lines + 1 := by
  have hmem := (List.mem_filter.1 hw).1
  cases moves_of_next hn with
  | begin =>
    simp only [Activity.ofTrace, List.mem_cons, List.not_mem_nil, reduceCtorEq, false_or, or_false,
      Entry.logged.injEq, Event.waiting.injEq] at hmem
    exact hmem.2
  | interruptWait | interruptWork =>
    simp [Activity.ofTrace, Trace.own_opened, own_announced] at hw
  | report => cases hl : setup.logsReports <;> simp [hl] at hmem
  | _ => simp [Activity.ofTrace] at hmem

/-- Where no supervisor is around, nothing is announced. -/
theorem announced_of_unsupervised {c : Clock} {t : Nat} (hc : c.Unsupervised)
    (hdue : c.due? = some t) : announced setup c (c.interruptAt t) = [] := by
  have hs : c.supervised = false := hc.2.resolve_left (by simp [hdue])
  exact announced_of_interrupted setup (by rw [Clock.interruptAt, hs, Bool.or_false])

theorem own_next (hn : m.next setup = some (b, m')) (hm : m.state.clock.Unsupervised) :
    b.trace.own = b.trace := by
  cases moves_of_next hn with
  | interruptWait _ hdue => rw [announced_of_unsupervised hm hdue]; rfl
  | interruptWork hdue => rw [announced_of_unsupervised hm hdue]; rfl
  | @report k n => exact Trace.own_reported setup k n
  | _ => rfl

/-- Where no supervisor is around, all of a trace is the run's own. -/
theorem own_of_leads (h : Leads setup m a m') (hm : m.state.clock.Unsupervised) :
    a.trace.own = a.trace := by
  induction h with
  | refl m => rfl
  | step hn _ ih =>
    rw [Activity.trace_append, Trace.own_append, own_next hn hm,
      ih (unsupervised_of_leads (.single hn) hm)]

end Steps

/-! ### Run after run -/

theorem own_start {setup : Setup} {st : State} (hst : st.clock.Unsupervised) :
    (Run.start setup st).activity.trace.own = (Run.start setup st).activity.trace := by
  have hloop := own_of_leads (leads_loop setup 0 st) hst
  refine (Finish.own_leaving (Run.loop setup 0 st).ending _ _).trans ?_
  rw [hloop]
  rfl

/-- A run from its beginning completes the word. -/
theorem Run.follows_start (setup : Setup) (st : State) :
    ∃ ns, (Run.start setup st).Follows setup st.reader.lines ns := by
  obtain ⟨ns, h⟩ := follows_of_leads (leads_loop setup 0 st) (follows_between setup st)
  rw [Activity.nil_append] at h
  exact ⟨ns, h.leaving⟩

/-- **The lines are counted from run to run.** -/
theorem Session.lines_turns {setup : Setup} {st : State} {ss : List Step} {i : Nat}
    {x : Session.Turn} (h : (Session.turns setup st ss)[i]? = some x) :
    x.finish = Run.start setup x.before ∧
      (st.clock.Unsupervised → x.before.clock.Unsupervised) ∧
      x.before.reader.lines =
        st.reader.lines + (((Session.turns setup st ss).take i).map (·.finish.linesRead)).sum := by
  induction ss generalizing st i with
  | nil => simp [Session.turns] at h
  | cons s ss ih =>
    by_cases hrun : s = .run
    · subst hrun
      rw [Session.turns] at h ⊢
      cases i with
      | zero =>
        obtain rfl := Option.some.inj h
        exact ⟨rfl, id, rfl⟩
      | succ i =>
        obtain ⟨hfinish, hu, hlines⟩ := ih h
        obtain ⟨ns, hfollows⟩ := Run.follows_start setup st
        refine ⟨hfinish, fun hst ↦ hu (Session.unsupervised_step hst .run), ?_⟩
        rw [hlines, hfollows.lines_eq, List.take_succ_cons, List.map_cons, List.sum_cons,
          Nat.add_assoc]
    · rw [Session.turns_of_ne_run setup st hrun] at h ⊢
      obtain ⟨hfinish, hu, hlines⟩ := ih h
      rw [Session.reader_step setup st hrun] at hlines
      exact ⟨hfinish, fun hst ↦ hu (Session.unsupervised_step hst s), hlines⟩

/-- **The trace of a run is a word of its state machine.** There are requests, as many as the run
made reports, with one whole iteration in the trace for each of them, numbered from one in the
order of the reports; and what follows the last of these shows how the run ended: where it was idle,
or in the poll of one more iteration. The same holds of a run that is cancelled from outside at
whatever moment. A poll turns to the line behind those that the reader has read by then. What a
supervisor announces is left out of this; where none is around the trace itself is the word, and if
no receiver breaks down, the run ends with an error or cancelled, or it waits for ever. In a session
each run finds the lines counted that the runs before it have read. -/
theorem runs_follow_course (setup : Setup) (st : State) :
    (∃ ns, (Run.start setup st).Follows setup st.reader.lines ns) ∧
    (∀ a m b e st', Leads setup ⟨.between 0, st⟩ a m → Leads setup m.cancel b ⟨.ended e, st'⟩ →
      ∃ ns, (Finish.leaving e st' (a ++ b)).Follows setup st.reader.lines ns) ∧
    (∀ (m m' : Moment) b within line, m.next setup = some (b, m') →
      .logged within (.waiting line) ∈ b.trace.own → line = m.state.reader.lines + 1) ∧
    (st.clock.Unsupervised →
      (Run.start setup st).activity.trace.own = (Run.start setup st).activity.trace ∧
      (setup.breaksAt? = none →
        (Run.start setup st).ending = .cancelled ∨
          (∃ e, (Run.start setup st).ending = .failed e) ∨
          (Run.start setup st).ending = .hung)) ∧
    ∀ ss i x, (Session.turns setup st ss)[i]? = some x →
      x.finish = Run.start setup x.before ∧
      (st.clock.Unsupervised → x.before.clock.Unsupervised) ∧
      x.before.reader.lines =
        st.reader.lines + (((Session.turns setup st ss).take i).map (·.finish.linesRead)).sum := by
  refine ⟨Run.follows_start setup st, fun a m b e st' ha hb ↦ ?_,
    fun m m' b within line ↦ line_of_waiting,
    fun hst ↦ ⟨own_start hst, fun hb ↦ Session.ending_of_unsupervised hb hst⟩,
    fun ss i x ↦ Session.lines_turns⟩
  obtain ⟨ns, hm⟩ := follows_of_leads ha (follows_between setup st)
  obtain ⟨ns', hend⟩ := follows_of_leads hb hm.cancel
  exact ⟨ns', hend.leaving⟩

/-- The second run of a session, which goes on after one that was cancelled behind two lines; and
the first run again, cancelled before it begins. -/
theorem runs_follow_course_twice :
    let st : State := { reader := { source := {
      arrivals := [.bytes [55, 10], .cancel, .bytes [56, 10, 57, 10, 120, 10]] } } }
    let xs := Session.turns {} st [.run, .newContext, .run]
    st.clock.Unsupervised ∧
    (∃ x ns, xs[1]? = some x ∧ x.before.reader.lines = 2 ∧ x.finish.Follows {} 2 ns ∧
      x.finish.activity.trace.own = x.finish.activity.trace ∧
      x.finish.activity.trace.map Entry.render =
        ["open app.run run_id=<uuid4>",
          "open app.iteration iteration=1", "open app.poll",
          "log INFO [app.run>app.iteration>app.poll] Waiting for next input line=3",
          "close app.poll", "open app.compute n=9", "close app.compute", "open app.report n=9",
          "report 9", "close app.report", "close app.iteration",
          "open app.iteration iteration=2", "open app.poll",
          "log INFO [app.run>app.iteration>app.poll] Waiting for next input line=4",
          "close app.poll", "close app.iteration", "close app.run"]) ∧
    ∃ ns, (Finish.leaving .cancelled { st with clock := st.clock.cancel }
      (.ofTrace [.logged [.run] (.cancelled 0)])).Follows {} 0 ns := by
  intro st xs
  have hst : st.clock.Unsupervised := ⟨rfl, .inl rfl⟩
  have hsome : (xs[1]?).isSome = true := by decide +kernel
  obtain ⟨x, hx⟩ := Option.isSome_iff_exists.1 hsome
  have hlines : x.before.reader.lines = 2 := by
    have hread := congrArg (Option.map fun y : Session.Turn ↦ y.before.reader.lines) hx
    refine Option.some.inj (hread.symm.trans ?_)
    decide +kernel
  obtain ⟨-, -, -, -, hturns⟩ := runs_follow_course {} st
  obtain ⟨hfinish, hu, -⟩ := hturns _ _ _ hx
  obtain ⟨⟨ns, hfollows⟩, -, -, hown, -⟩ := runs_follow_course {} x.before
  rw [← hfinish, hlines] at hfollows
  rw [← hfinish] at hown
  refine ⟨hst, ⟨x, ns, hx, hlines, hfollows, (hown (hu hst)).1, ?_⟩, ?_⟩
  · have hread := congrArg
      (Option.map fun y : Session.Turn ↦ y.finish.activity.trace.map Entry.render) hx
    refine Option.some.inj (hread.symm.trans ?_)
    decide +kernel
  · exact (runs_follow_course {} st).2.1 {} _ _ _ _ (.refl _) (.single rfl)

end TracedFibonacci
