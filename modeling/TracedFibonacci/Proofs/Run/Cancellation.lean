import TracedFibonacci.Proofs.Run.Moments

/-!
# What a run does once it is cancelled

A run that is cancelled winds down. It begins no further iteration and makes no further attempt to
read, so it takes nothing more from its source; what it has read already it may still answer, by one
report; and then it ends without an error. The one exception is an attempt to read that was under
way when the cancellation came and ends with an error: then the run ends with that error.

## From one step to the rest of the run

`WindsDown` says what may happen between a cancelled moment and a later one. It holds of a single
step (`windsDown_next`), where the stages are gone through one by one, and it is transitive, so it
holds of all the steps behind a cancelled moment (`windsDown`). That a cancelled run is never about
to read is part of what every step keeps (`Moment.Consistent`): both ways to an attempt look for a
cancellation first.

A receiver of reports that breaks down, and a supervisor whose interrupt has come, end a run in ways
of their own. Both are left in the picture, each with what it takes for it to happen.
-/

namespace TracedFibonacci

open Iteration

/-- The request that is being answered. -/
def Stage.request? : Stage → Option UInt64
  | .computing _ n | .finishing _ n _ | .reporting _ n => some n
  | .between _ | .reading _ _ | .suspended _ _ _ | .ended _ => none

/-- What is left to read at a moment; a wait that is not over is still in front of it. -/
def Moment.source (m : Moment) : Source :=
  match m.stage with
  | .suspended _ _ w => m.state.reader.source.giveUp w
  | _ => m.state.reader.source

/-- What the attempt to read comes to that the run is about to make, if that need not wait. -/
def Moment.attempt? (m : Moment) : Option (Except RequestError UInt64) :=
  match m.stage with
  | .reading _ taken =>
    (m.state.reader.source.readLine taken).ended.outcome?.map fun o ↦
      (m.state.reader.conclude o (m.state.reader.source.readLine taken).source).1
  | _ => none

/-- Whether the run is cancelled. -/
def Moment.cancelled (m : Moment) : Bool := m.state.clock.cancelled

/-- What holds at each moment of a run. -/
structure Moment.Consistent (m : Moment) : Prop where
  /-- A cancelled run is not about to read. -/
  not_reading : m.cancelled = true → ∀ k taken, m.stage ≠ .reading k taken
  /-- A computation is wound up because of a cancellation from outside. -/
  finishing : ∀ k n ms, m.stage = .finishing k n ms →
    m.cancelled = true ∧ (m.state.clock.supervised = true → m.state.clock.interrupted = true)
  /-- A run that ends without an error is cancelled. -/
  ended_cancelled : m.stage = .ended .cancelled → m.cancelled = true

/-- What may happen between the moment `m` of a cancelled run and the later moment `m'`. -/
structure WindsDown (setup : Setup) (m : Moment) (a : Activity) (m' : Moment) : Prop where
  /-- The run stays cancelled. -/
  cancelled : m'.cancelled = true
  /-- An interrupt that has come has come. -/
  interrupted : m.state.clock.interrupted = true → m'.state.clock.interrupted = true
  /-- No attempt to read is made. -/
  not_reading : ∀ k taken, m'.stage ≠ .reading k taken
  /-- Nothing is taken from the source. -/
  source : m'.source = m.source
  /-- No line is read. -/
  lines : m'.state.reader.lines = m.state.reader.lines
  /-- The reports are counted. -/
  reported : m'.state.reported = m.state.reported + a.reports.length
  /-- No iteration and no poll is begun, nor anything else but the answer that is under way. -/
  opened : ∀ s, .opened s ∈ a.trace →
    ∃ n, m.stage.request? = some n ∧ (s = .compute n ∨ s = .report n)
  /-- At most one report is made, on the request that is being answered. -/
  reports : a.reports = [] ∧ (m'.stage.request? = none ∨ m'.stage.request? = m.stage.request?) ∨
    ∃ n, m.stage.request? = some n ∧ a.reports = [.on setup.policy n] ∧ m'.stage.request? = none
  /-- The run ends without an error, unless it was over before, or the report breaks down, or an
  interrupted computation is stopped. -/
  ended : ∀ e, m'.stage = .ended e → m.stage = .ended e ∨ e = .cancelled ∨
    (m.stage.request?.isSome = true ∧
      (e = .broken ∧ setup.breaksAt? = some (m.state.reported + 1) ∨
        ∃ openSpans, e = .stopped openSpans ∧ m'.state.clock.interrupted = true))

namespace WindsDown

variable {setup : Setup} {m m' m'' : Moment} {a a' : Activity}

theorem refl (hm : m.Consistent) (hc : m.cancelled = true) : WindsDown setup m {} m where
  cancelled := hc
  interrupted := id
  not_reading := hm.not_reading hc
  source := rfl
  lines := rfl
  reported := rfl
  opened _ hs := absurd hs List.not_mem_nil
  reports := .inl ⟨rfl, .inr rfl⟩
  ended _ he := .inl he

/-- A request that is left to be answered is the one that was there. -/
theorem request (h : WindsDown setup m a m') {n : UInt64} (hn : m'.stage.request? = some n) :
    m.stage.request? = some n ∧ a.reports = [] := by
  rcases h.reports with ⟨hnil, hreq⟩ | ⟨_, -, -, hnone⟩
  · rw [hn] at hreq
    exact ⟨(hreq.resolve_left (by simp)).symm, hnil⟩
  · rw [hn] at hnone
    contradiction

section Trans

variable (h : WindsDown setup m a m') (h' : WindsDown setup m' a' m'')

include h h'

theorem reports_trans :
    (a ++ a').reports = [] ∧
        (m''.stage.request? = none ∨ m''.stage.request? = m.stage.request?) ∨
      ∃ n, m.stage.request? = some n ∧ (a ++ a').reports = [.on setup.policy n] ∧
        m''.stage.request? = none := by
  rw [Activity.reports_append]
  rcases h'.reports with ⟨hnil, hreq⟩ | ⟨n, hn, hrep, hnone⟩
  · rw [hnil, List.append_nil]
    rcases h.reports with ⟨hnil', hreq'⟩ | ⟨n, hn, hrep, hnone⟩
    · refine .inl ⟨hnil', ?_⟩
      rcases hreq with hreq | hreq
      · exact .inl hreq
      · rw [hreq]
        exact hreq'
    · refine .inr ⟨n, hn, hrep, ?_⟩
      rw [hnone] at hreq
      exact hreq.elim id id
  · obtain ⟨hn', hnil⟩ := h.request hn
    exact .inr ⟨n, hn', by rw [hnil, hrep, List.nil_append], hnone⟩

theorem ended_trans {e : Ending} (he : m''.stage = .ended e) :
    m.stage = .ended e ∨ e = .cancelled ∨
      (m.stage.request?.isSome = true ∧
        (e = .broken ∧ setup.breaksAt? = some (m.state.reported + 1) ∨
          ∃ openSpans, e = .stopped openSpans ∧ m''.state.clock.interrupted = true)) := by
  rcases h'.ended e he with he' | he' | ⟨hsome, he'⟩
  · rcases h.ended e he' with he' | he' | ⟨hsome, he' | ⟨openSpans, he', hi⟩⟩
    · exact .inl he'
    · exact .inr (.inl he')
    · exact .inr (.inr ⟨hsome, .inl he'⟩)
    · exact .inr (.inr ⟨hsome, .inr ⟨openSpans, he', h'.interrupted hi⟩⟩)
  · exact .inr (.inl he')
  · -- no report has been made yet, so the next one is still the one that breaks down
    obtain ⟨n, hn⟩ := Option.isSome_iff_exists.1 hsome
    obtain ⟨hn', hnil⟩ := h.request hn
    have hrep := h.reported
    rw [hnil, List.length_nil, Nat.add_zero] at hrep
    rw [hrep] at he'
    exact .inr (.inr ⟨by rw [hn']; rfl, he'⟩)

theorem trans : WindsDown setup m (a ++ a') m'' where
  cancelled := h'.cancelled
  interrupted hi := h'.interrupted (h.interrupted hi)
  not_reading := h'.not_reading
  source := h'.source.trans h.source
  lines := h'.lines.trans h.lines
  reported := by
    rw [h'.reported, h.reported, Activity.reports_append, List.length_append, Nat.add_assoc]
  opened s hs := by
    rw [Activity.trace_append, List.mem_append] at hs
    rcases hs with hs | hs
    · exact h.opened s hs
    · obtain ⟨n, hn, hs⟩ := h'.opened s hs
      exact ⟨n, (h.request hn).1, hs⟩
  reports := h.reports_trans h'
  ended _ he := h.ended_trans h' he

end Trans

end WindsDown

/-! ### One step -/

section Step

variable {setup : Setup} {m m' : Moment} {a : Activity}

/-- An announcement opens no span. -/
theorem opened_notMem_announced (c c' : Clock) (s : Span) :
    .opened s ∉ announced setup c c' := by
  rw [announced]
  split <;> simp

/-- **Each step keeps a run consistent.** -/
theorem consistent_next (h : m.next setup = some (a, m')) : m'.Consistent := by
  cases moves_of_next h with
  | stop hc => exact ⟨by simp, by simp, fun _ ↦ hc⟩
  | giveUp hc => exact ⟨by simp, by simp, fun _ ↦ hc⟩
  | begin hc => exact ⟨fun hc' ↦ absurd (hc'.symm.trans hc) (by simp), by simp, by simp⟩
  | wake now hc => exact ⟨fun hc' ↦ absurd (hc'.symm.trans hc) (by simp), by simp, by simp⟩
  | @interruptWork k n st t ms hdue =>
    refine ⟨by simp, fun _ _ _ _ ↦ ⟨rfl, fun hs ↦ ?_⟩, by simp⟩
    replace hs : st.clock.supervised = true := hs
    show (st.clock.interrupted || st.clock.supervised) = true
    rw [hs, Bool.or_true]
  | _ => exact ⟨by simp, by simp, by simp⟩

/-- A cancelled run stays cancelled. -/
theorem cancelled_of_moves (h : Moves setup m a m') (hc : m.cancelled = true) :
    m'.cancelled = true := by
  have hor : ∀ {c : Clock} (b : Bool), c.cancelled = true → (c.cancelIf b).cancelled = true :=
    fun b hc ↦ by rw [Clock.cancelIf, hc, Bool.true_or]
  cases h with
  | accept => exact hor _ hc
  | refuse => exact hor _ hc
  | wait => exact hor _ hc
  | report => exact hor _ hc
  | interruptWait => rfl
  | interruptWork => rfl
  | _ => exact hc

theorem interrupted_of_moves (h : Moves setup m a m') (hi : m.state.clock.interrupted = true) :
    m'.state.clock.interrupted = true := by
  have hor : ∀ {c : Clock} (t : Nat), c.interrupted = true →
      (c.interruptAt t).interrupted = true :=
    fun t hi ↦ by rw [Clock.interruptAt, hi, Bool.true_or]
  cases h with
  | interruptWait => exact hor _ hi
  | interruptWork => exact hor _ hi
  | _ => exact hi

section Cancelled

variable (h : Moves setup m a m') (hm : m.Consistent) (hc : m.cancelled = true)

include h hm hc

/-- A step of a cancelled run leaves the reader alone. -/
theorem source_of_moves :
    m'.source = m.source ∧ m'.state.reader.lines = m.state.reader.lines := by
  cases h with
  | accept => exact absurd rfl (hm.not_reading hc _ _)
  | refuse => exact absurd rfl (hm.not_reading hc _ _)
  | wait => exact absurd rfl (hm.not_reading hc _ _)
  | wake _ hf => exact absurd (hc.symm.trans hf) (by simp)
  | interruptWait hf => exact absurd (hc.symm.trans hf) (by simp)
  | _ => exact ⟨rfl, rfl⟩

/-- The spans it opens are those of the answer that is under way. -/
theorem opened_of_moves {s : Span} (hs : .opened s ∈ a.trace) :
    ∃ n, m.stage.request? = some n ∧ (s = .compute n ∨ s = .report n) := by
  cases h with
  | begin hf => exact absurd (hc.symm.trans hf) (by simp)
  | interruptWait => exact absurd hs (opened_notMem_announced _ _ s)
  | @compute k n st now => exact ⟨n, rfl, .inl (by simpa using hs)⟩
  | @interruptWork k n st t ms hdue =>
    rcases List.mem_cons.1 hs with hs | hs
    · exact ⟨n, rfl, .inl (Entry.opened.inj hs)⟩
    · exact absurd hs (opened_notMem_announced _ _ s)
  | @report k n st hb =>
    refine ⟨n, rfl, .inr ?_⟩
    cases hl : setup.logsReports <;> simpa [hl] using hs
  | @fail k n st hb => exact ⟨n, rfl, .inr (by simpa [Activity.ofTrace] using hs)⟩
  | _ => simp [Activity.ofTrace] at hs

/-- Its report is the one on the request that is being answered. -/
theorem reports_of_moves :
    a.reports = [] ∧ (m'.stage.request? = none ∨ m'.stage.request? = m.stage.request?) ∨
      ∃ n, m.stage.request? = some n ∧ a.reports = [.on setup.policy n] ∧
        m'.stage.request? = none := by
  cases h with
  | accept => exact absurd rfl (hm.not_reading hc _ _)
  | @report k n st hb => exact .inr ⟨n, rfl, rfl, rfl⟩
  | compute => exact .inl ⟨rfl, .inr rfl⟩
  | interruptWork => exact .inl ⟨rfl, .inr rfl⟩
  | finish => exact .inl ⟨rfl, .inr rfl⟩
  | _ => exact .inl ⟨rfl, .inl rfl⟩

/-- Its end is one without an error, or that of an answer that cannot be completed. -/
theorem ended_of_moves {e : Ending} (he : m'.stage = .ended e) :
    e = .cancelled ∨ (m.stage.request?.isSome = true ∧
      (e = .broken ∧ setup.breaksAt? = some (m.state.reported + 1) ∨
        ∃ openSpans, e = .stopped openSpans ∧ m'.state.clock.interrupted = true)) := by
  cases h with
  | refuse => exact absurd rfl (hm.not_reading hc _ _)
  | hang hf => exact absurd (hc.symm.trans hf) (by simp)
  | stop => exact .inl (Stage.ended.inj he).symm
  | giveUp => exact .inl (Stage.ended.inj he).symm
  | fail hb => exact .inr ⟨rfl, .inl ⟨(Stage.ended.inj he).symm, hb⟩⟩
  | abort now hs =>
    exact .inr ⟨rfl, .inr ⟨_, (Stage.ended.inj he).symm, (hm.finishing _ _ _ rfl).2 hs⟩⟩
  | _ => contradiction

end Cancelled

/-- **One step of a cancelled run winds it down.** -/
theorem windsDown_next (hm : m.Consistent) (hc : m.cancelled = true)
    (h : m.next setup = some (a, m')) : WindsDown setup m a m' where
  cancelled := cancelled_of_moves (moves_of_next h) hc
  interrupted := interrupted_of_moves (moves_of_next h)
  not_reading := (consistent_next h).not_reading (cancelled_of_moves (moves_of_next h) hc)
  source := (source_of_moves (moves_of_next h) hm hc).1
  lines := (source_of_moves (moves_of_next h) hm hc).2
  reported := by cases moves_of_next h <;> rfl
  opened _ hs := opened_of_moves (moves_of_next h) hm hc hs
  reports := reports_of_moves (moves_of_next h) hm hc
  ended _ he := .inr (ended_of_moves (moves_of_next h) hm hc he)

/-- **The step that cancels a run.** If the run is over with it, that is the error of the attempt to
read that was under way; and if there is a request to answer after it, that was being answered
before or comes from that attempt. -/
theorem cancelling_moves (h : Moves setup m a m') (hf : m.cancelled = false)
    (hc : m'.cancelled = true) :
    (∀ e, m'.stage = .ended e → ∃ err, m.attempt? = some (.error err) ∧ e = .failed err) ∧
      ∀ n, m'.stage.request? = some n →
        m.stage.request? = some n ∨ m.attempt? = some (.ok n) := by
  -- most steps leave the run cancelled or not as it was
  have hsame : m'.cancelled ≠ m.cancelled := by simp [hf, hc]
  cases h with
  | @accept k taken st o n r ho hr =>
    have hattempt : Moment.attempt? ⟨.reading k taken, st⟩ = some (.ok n) := by
      simp only [Moment.attempt?, ho, Option.map_some, hr]
    refine ⟨by simp, fun n' hn ↦ .inr ?_⟩
    obtain rfl : n = n' := Option.some.inj hn
    exact hattempt
  | @refuse k taken st o err r ho hr =>
    have hattempt : Moment.attempt? ⟨.reading k taken, st⟩ = some (.error err) := by
      simp only [Moment.attempt?, ho, Option.map_some, hr]
    exact ⟨fun e he ↦ ⟨err, hattempt, (Stage.ended.inj he).symm⟩, nofun⟩
  | wait => exact ⟨by simp, nofun⟩
  | interruptWait => exact ⟨by simp, nofun⟩
  | interruptWork => exact ⟨by simp, fun _ hn ↦ .inl hn⟩
  | report => exact ⟨by simp, nofun⟩
  | _ => exact absurd rfl hsame

end Step

/-! ### All steps -/

section Steps

variable {setup : Setup} {m m' : Moment} {a : Activity}

theorem consistent_of_leads (h : Leads setup m a m') (hm : m.Consistent) : m'.Consistent := by
  induction h with
  | refl m => exact hm
  | step hn _ ih => exact ih (consistent_next hn)

/-- **A cancelled run winds down.** -/
theorem windsDown (h : Leads setup m a m') (hm : m.Consistent) (hc : m.cancelled = true) :
    WindsDown setup m a m' := by
  induction h with
  | refl m => exact .refl hm hc
  | step hn _ ih =>
    have hstep := windsDown_next hm hc hn
    exact hstep.trans (ih (consistent_next hn) hstep.cancelled)

/-- No supervisor is going to interrupt the run. -/
def Clock.Unsupervised (c : Clock) : Prop :=
  c.interrupted = false ∧ (c.due? = none ∨ c.supervised = false)

theorem unsupervised_of_leads (h : Leads setup m a m') (hm : m.state.clock.Unsupervised) :
    m'.state.clock.Unsupervised := by
  induction h with
  | refl m => exact hm
  | step hn _ ih =>
    refine ih ?_
    have hint : ∀ {c : Clock} {t : Nat}, c.due? = some t → c.Unsupervised →
        (c.interruptAt t).Unsupervised := fun {c t} hdue hu ↦ by
      have hs : c.supervised = false := hu.2.resolve_left (by simp [hdue])
      exact ⟨by rw [Clock.interruptAt, hu.1, hs]; rfl, .inr hs⟩
    cases moves_of_next hn with
    | interruptWait _ hdue => exact hint hdue hm
    | interruptWork hdue => exact hint hdue hm
    | _ => exact hm

end Steps

/-- A run from its head is consistent. -/
theorem consistent_between (k : Nat) (st : State) : Moment.Consistent ⟨.between k, st⟩ :=
  ⟨by simp, by simp, by simp⟩

theorem Ending.leave_eq_cancelled_iff {e : Ending} {s : Span} :
    (e.leave s).1 = .cancelled ↔ e = .cancelled := by
  cases e <;> simp [leave]

/-- **A cancelled run winds down and ends without an error.** The steps of a run lead to its end. A
run that ends without an error is cancelled. From any moment on at which it is cancelled, a run
begins no iteration, makes no attempt to read and takes nothing from its source, makes at most the
report on a request that it was already answering, and ends without an error, unless it is over at
that moment. The step that cancels it is over with it only if it is an attempt to read, which then
has failed; and a request that is left to be answered was being answered before, or was read by the
very attempt. What else may end the run then is a receiver that breaks down at the report or a
supervisor whose interrupt has come, and where there is neither, nothing does. -/
theorem cancelled_run_winds_down (setup : Setup) (st : State) :
    ∃ a e, Leads setup ⟨.between 0, st⟩ a ⟨.ended e, (Run.start setup st).state⟩ ∧
      (Run.start setup st).ending = (e.leave .run).1 ∧
      (Run.start setup st).activity =
        .ofTrace [.opened .run] ++ a ++ .ofTrace (e.leave .run).2 ∧
      ((Run.start setup st).ending = .cancelled →
        (Run.start setup st).state.clock.cancelled = true) ∧
      (∀ b m, Leads setup ⟨.between 0, st⟩ b m → m.cancelled = true →
        (∃ c, a = b ++ c ∧ Leads setup m c ⟨.ended e, (Run.start setup st).state⟩) ∧
        (∀ c m', Leads setup m c m' → WindsDown setup m c m') ∧
        (setup.breaksAt? = none → st.clock.Unsupervised →
          e = .cancelled ∨ m.stage = .ended e)) ∧
      ∀ b m c m', Leads setup ⟨.between 0, st⟩ b m → m.cancelled = false →
        m.next setup = some (c, m') → m'.cancelled = true →
          (∀ e', m'.stage = .ended e' → ∃ err, m.attempt? = some (.error err) ∧ e' = .failed err) ∧
          ∀ n, m'.stage.request? = some n →
            m.stage.request? = some n ∨ m.attempt? = some (.ok n) := by
  have hleads := leads_loop setup 0 st
  have hstart := consistent_between 0 st
  refine ⟨(Run.loop setup 0 st).activity, (Run.loop setup 0 st).ending, hleads, rfl, rfl,
    fun he ↦ ?_, fun b m hb hc ↦ ?_, fun b m c m' hb hf hn hc ↦ ?_⟩
  · refine (consistent_of_leads hleads hstart).ended_cancelled ?_
    exact congrArg Stage.ended (Ending.leave_eq_cancelled_iff.1 he)
  · have hm := consistent_of_leads hb hstart
    obtain ⟨c, hsum, hrest⟩ := hb.rest hleads
    refine ⟨⟨c, hsum, hrest⟩, fun d m' hd ↦ windsDown hd hm hc, fun hbreaks hu ↦ ?_⟩
    rcases (windsDown hrest hm hc).ended _ rfl with he | he | ⟨-, ⟨-, hb'⟩ | ⟨_, -, hi⟩⟩
    · exact .inr he
    · exact .inl he
    · rw [hbreaks] at hb'
      contradiction
    · rw [(unsupervised_of_leads hleads hu).1] at hi
      contradiction
  · exact cancelling_moves (moves_of_next hn) hf hc

/-- A run that is cancelled inside the attempt that reads its first request, with another one to
follow. -/
theorem cancelled_run_winds_down_in_read :
    let st : State := { reader := { source := {
      arrivals := [.bytes [55], .cancel, .bytes [10], .bytes [56, 10]] } } }
    (Run.start {} st).ending = .cancelled ∧ (Run.start {} st).state.clock.cancelled = true := by
  intro st
  obtain ⟨a, e, -, hend, -, hcan, hwind, -⟩ := cancelled_run_winds_down {} st
  have hread : st.reader.source.readLine [] =
      ⟨true, .line [55, 10], { arrivals := [.bytes [56, 10]] }⟩ := by
    decide +kernel
  have hreceive : Reader.receive 0 [55, 10] = (.ok 7, 1) := by
    decide +kernel
  have hnext : Moment.next {} ⟨.reading 1 [], st⟩ = some (.ofTrace [.closed .poll],
      ⟨.computing 1 7, ⟨⟨{ arrivals := [.bytes [56, 10]] }, 1⟩, Clock.cancel {}, 0⟩⟩) := by
    have hattempt : (st.reader.source.readLine []).ended.outcome? = some (.line [55, 10]) := by
      rw [hread]
      rfl
    refine (next_of_outcome {} 1 hattempt).trans ?_
    rw [hread]
    simp only [Moment.receive, Reader.conclude, hreceive]
    rfl
  have hbegin : Moment.next {} ⟨.between 0, st⟩ = some (Moment.begin 0 st) := rfl
  have hm := Leads.step hbegin (.single hnext)
  have he : e = .cancelled :=
    ((hwind _ _ hm rfl).2.2 rfl ⟨rfl, .inl rfl⟩).resolve_right (by simp)
  have hending : (Run.start {} st).ending = .cancelled := by
    rw [hend, he]
    rfl
  exact ⟨hending, hcan hending⟩

end TracedFibonacci
