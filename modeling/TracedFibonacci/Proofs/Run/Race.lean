import TracedFibonacci.Proofs.Run.Task

/-!
# The race between a run and its interrupt

A supervised run has one of two outcomes. Either the interrupt comes first: then the run is
cancelled, and that it was interrupted is the outcome, whatever the run makes of its grace period.
Or the run is over first: then the supervisor has changed nothing, and the outcome is how the run
ended.

Who comes first is told by the same task on its own, without an interrupt, which is over before the
interrupt is due or outlasts it. What is left to say of such a task is where its cancellation can
come from (`cancelled_from`), since a run ends without an error only if it was cancelled.
-/

namespace TracedFibonacci

/-! ### Where a cancellation comes from -/

theorem Reader.source_conclude (r : Reader) (o : Source.Outcome) (s : Source) :
    (r.conclude o s).2.source = s := by
  cases o <;> rfl

/-- What a request is read from is what the attempt has left. -/
theorem Reader.source_of_conclude {r r' : Reader} {o : Source.Outcome} {s : Source}
    {x : Except RequestError UInt64} (h : r.conclude o s = (x, r')) : r'.source = s := by
  rw [← r.source_conclude o s, h]

section Origin

variable {setup : Setup} {m m' : Moment} {a : Activity}

/-- The reports are counted. -/
theorem reported_of_leads (h : Leads setup m a m') :
    m'.state.reported = m.state.reported + a.reports.length := by
  induction h with
  | refl m => rfl
  | @step m m₁ m' a b hn _ ih =>
    have hstep : m₁.state.reported = m.state.reported + a.reports.length := by
      cases moves_of_next hn <;> rfl
    rw [ih, hstep, Activity.reports_append, List.length_append, Nat.add_assoc]

/-- A step puts nothing into the stream but what is left of a chunk or of a wait. -/
theorem mem_arrivals_of_next (h : m.next setup = some (a, m')) {x : Arrival}
    (hchunk : ∀ bs, bs ≠ [] → x ≠ .bytes bs) (hwait : ∀ w : Wait, w.arrival? ≠ some x)
    (hx : x ∈ m'.state.reader.source.arrivals) : x ∈ m.state.reader.source.arrivals := by
  have hread : ∀ {o : Source.Outcome} {y : Except RequestError UInt64} {r r' : Reader}
      {taken : List UInt8},
      r.conclude o (r.source.readLine taken).source = (y, r') →
      x ∈ r'.source.arrivals → x ∈ r.source.arrivals := by
    intro o y r r' taken hr hx
    rw [Reader.source_of_conclude hr] at hx
    exact Source.mem_arrivals_readLine hx hchunk
  have hgiveUp : ∀ {s : Source} (w : Wait), x ∈ (s.giveUp w).arrivals → x ∈ s.arrivals := by
    intro s w hx
    rcases List.mem_append.1 hx with hw | hx
    · exact absurd (Option.mem_toList.1 hw) (hwait w)
    · exact hx
  cases moves_of_next h with
  | accept _ hr => exact hread hr hx
  | refuse _ hr => exact hread hr hx
  | wait => exact Source.mem_arrivals_readLine hx hchunk
  | giveUp => exact hgiveUp _ hx
  | hang => exact hgiveUp _ hx
  | _ => exact hx

/-- **The step that cancels a run** is an attempt to read that meets a cancellation in the stream,
or the report after which the receiver cancels. -/
theorem cancelled_from_of_next (h : m.next setup = some (a, m')) (hm : m.Alone)
    (hc : m'.cancelled = true) :
    m.cancelled = true ∨ .cancel ∈ m.state.reader.source.arrivals ∨
      (setup.cancelsAfter? = some (m.state.reported + 1) ∧
        m'.state.reported = m.state.reported + 1) := by
  have hread : ∀ {c : Clock} {s : Source} {taken : List UInt8},
      (c.cancelIf (s.readLine taken).cancels).cancelled = true →
      c.cancelled = true ∨ .cancel ∈ s.arrivals := by
    intro c s taken hc
    rcases Bool.or_eq_true_iff.1 hc with hc | hc
    · exact .inl hc
    · exact .inr ((Source.origin_readLine taken s).1 hc)
  cases moves_of_next h with
  | accept => exact (hread hc).imp_right .inl
  | refuse => exact (hread hc).imp_right .inl
  | wait => exact (hread hc).imp_right .inl
  | report =>
    rcases Bool.or_eq_true_iff.1 hc with hc | hc
    · exact .inl hc
    · exact .inr (.inr ⟨of_decide_eq_true hc, rfl⟩)
  | interruptWait _ hdue => exact absurd (hm.due?.symm.trans hdue) (by simp)
  | interruptWork hdue => exact absurd (hm.due?.symm.trans hdue) (by simp)
  | _ => exact .inl hc

/-- **What cancels a run on its own**: it was cancelled before, or its stream cancels it, or the
receiver of its reports does, after one that was made. -/
theorem cancelled_from (h : Leads setup m a m') (hm : m.Alone) (hc : m'.cancelled = true) :
    m.cancelled = true ∨ .cancel ∈ m.state.reader.source.arrivals ∨
      ∃ j, setup.cancelsAfter? = some j ∧ m.state.reported < j ∧ j ≤ m'.state.reported := by
  induction h with
  | refl m => exact .inl hc
  | @step m m₁ m' a b hn hl ih =>
    have hcount := reported_of_leads (.single hn)
    have hcount' := reported_of_leads hl
    rcases ih (alone_next hn hm) hc with hc₁ | hc₁ | ⟨j, hj, hlt, hle⟩
    · rcases cancelled_from_of_next hn hm hc₁ with hc₀ | hc₀ | ⟨hj, hnext⟩
      · exact .inl hc₀
      · exact .inr (.inl hc₀)
      · exact .inr (.inr ⟨_, hj, Nat.lt_succ_self _, by omega⟩)
    · exact .inr (.inl (mem_arrivals_of_next hn (by simp) (by rintro ⟨⟩ <;> simp [Wait.arrival?])
        hc₁))
    · exact .inr (.inr ⟨j, hj, by omega, hle⟩)

end Origin

/-! ### The two outcomes -/

namespace Outcome

/-- An outcome tells how the run ended. -/
structure Mirrors (outcome? : Option Outcome) (e : Ending) : Prop where
  /-- There is none just if the run does not end. -/
  eq_none_iff : outcome? = none ↔ e = .hung
  /-- The run was not interrupted. -/
  not_interrupted : outcome? ≠ some .interrupted
  /-- It completed just if it ended without an error. -/
  completed : outcome? = some .completed ↔ e = .cancelled
  /-- It failed with the very error that ended the run. -/
  input : ∀ err, outcome? = some (.failed (.input err)) ↔ e = .failed err
  /-- It failed as a task just if the receiver of a report broke down. -/
  task : (∃ text, outcome? = some (.failed (.task text))) ↔ e = .broken
  /-- The exit code is zero if it completed, and one if it failed. -/
  exitCode : ∀ o, outcome? = some o → o.exitCode = if o = .completed then 0 else 1

theorem ofEnding?_ne_interrupted (e : Ending) : ofEnding? e ≠ some .interrupted := by
  cases e <;> simp [ofEnding?]

/-- The outcome of a run that was not stopped. -/
theorem mirrors_ofEnding? {e : Ending} (h : ∀ openSpans, e ≠ .stopped openSpans) :
    Mirrors (ofEnding? e) e := by
  cases e with
  | stopped openSpans => exact absurd rfl (h openSpans)
  | _ => constructor <;> simp [ofEnding?, Outcome.exitCode]

end Outcome

namespace Supervision

section Outcomes

variable (setup : Setup) (interrupt? : Option Nat) (cancelled : Bool) (source : Source)
  (lines : Nat)

/-- A task on its own is not interrupted. -/
theorem not_interrupted_task :
    (task setup none cancelled source lines).state.clock.interrupted = false := by
  obtain ⟨a, e, hleads, -⟩ := leads_task setup none cancelled source lines
  exact (unsupervised_of_leads hleads ⟨rfl, .inl rfl⟩).1

/-- A task on its own is not stopped. -/
theorem not_stopped_task (openSpans : List Span) :
    (task setup none cancelled source lines).ending ≠ .stopped openSpans := by
  intro he
  have hint := (accountable_task setup none cancelled source lines).2.2 openSpans he
  exact absurd (hint.symm.trans (not_interrupted_task setup cancelled source lines)) (by simp)

/-- What may have cancelled a task on its own. -/
theorem cancelled_task (h : (task setup none cancelled source lines).state.clock.cancelled = true) :
    cancelled = true ∨ .cancel ∈ source.arrivals ∨
      ∃ j, setup.cancelsAfter? = some j ∧ 0 < j ∧
        j ≤ (task setup none cancelled source lines).activity.reports.length := by
  obtain ⟨a, e, hleads, -, hact⟩ := leads_task setup none cancelled source lines
  have hcount := reported_of_leads hleads
  have hreports : (task setup none cancelled source lines).activity.reports = a.reports := by
    rw [hact]
    simp [Activity.ofTrace]
  rw [hreports]
  have halone := alone_outset cancelled source lines
  rcases cancelled_from hleads halone h with hc | hc | ⟨j, hj, h0, hle⟩
  · exact .inl hc
  · exact .inr (.inl hc)
  · refine .inr (.inr ⟨j, hj, h0, ?_⟩)
    rw [← Nat.zero_add a.reports.length]
    exact hle.trans hcount.le

/-- The outcome is that the run was interrupted just if the interrupt has come. -/
theorem outcome?_eq_interrupted_iff :
    (supervise setup interrupt? cancelled source lines).outcome? = some .interrupted ↔
      (task setup interrupt? cancelled source lines).state.clock.interrupted = true := by
  rw [supervise]
  split
  · next hi => simp [hi]
  · next hi => simp [hi, Outcome.ofEnding?_ne_interrupted]

/-- **The interrupt comes first.** -/
theorem supervise_of_outlasts {t : Nat}
    (h : t = 0 ∨ (task setup none cancelled source lines).Outlasts t) :
    (supervise setup (some t) cancelled source lines).outcome? = some .interrupted ∧
      (supervise setup (some t) cancelled source lines).cancelled = true := by
  have hint := interrupted_of_not_overBefore setup cancelled source lines
    (h.imp_right Finish.Outlasts.not_overBefore)
  refine ⟨(outcome?_eq_interrupted_iff setup (some t) cancelled source lines).2 hint, ?_⟩
  rw [supervise, if_pos hint]
  exact (accountable_task setup (some t) cancelled source lines).1 hint

/-- **The run is over first**, or there is no interrupt: the supervisor has changed nothing. -/
theorem supervise_of_overBefore
    (h : ∀ t, interrupt? = some t → (task setup none cancelled source lines).OverBefore t) :
    supervise setup interrupt? cancelled source lines =
      { outcome? := Outcome.ofEnding? (task setup none cancelled source lines).ending
        cancelled := (task setup none cancelled source lines).state.clock.cancelled
        activity := (task setup none cancelled source lines).activity } := by
  have hquiet := not_interrupted_task setup cancelled source lines
  cases interrupt? with
  | none =>
    rw [supervise, if_neg (by simp [hquiet])]
    rfl
  | some t =>
    have hover := h t rfl
    have hstart : (startClock (some t) cancelled).interrupted = false := by
      cases t with
      | zero => exact absurd hover.2 (Nat.not_lt_zero _)
      | succ t => rfl
    rw [supervise, task_of_overBefore setup cancelled source lines hover]
    dsimp only
    rw [if_neg (by simp [State.expecting, Clock.expecting, hquiet]), hstart]
    rfl

/-- An interrupt that is due at once leaves no report. -/
theorem reports_supervise_zero :
    (supervise setup (some 0) cancelled source lines).activity.reports = [] := by
  rw [supervise, task_zero]
  rfl

end Outcomes

/-- **The outcome of a supervised run.** Let `r` be what its task comes to on its own. If the
interrupt is due at once, or `r` outlasts it, then the outcome is that the run was interrupted, the
exit code is zero and the context is cancelled. If `r` is over before, or there is no interrupt,
then the supervisor cancels nothing and adds nothing, and the outcome mirrors the ending of `r`; a
run that ends without an error is cancelled, and its context was cancelled before, or by the stream,
or by the receiver of a report that was made. An interrupt that is due at once leaves no report. -/
theorem outcome_of_race (setup : Setup) (interrupt? : Option Nat) (cancelled : Bool)
    (source : Source) (lines : Nat) :
    let r := task setup none cancelled source lines
    let s := supervise setup interrupt? cancelled source lines
    (∀ t, interrupt? = some t → t = 0 ∨ r.Outlasts t →
      s.outcome? = some .interrupted ∧ s.outcome?.map Outcome.exitCode = some 0 ∧
        s.cancelled = true) ∧
    ((∀ t, interrupt? = some t → r.OverBefore t) →
      Outcome.Mirrors s.outcome? r.ending ∧
      s.activity = r.activity ∧ s.cancelled = r.state.clock.cancelled ∧
      (r.ending = .cancelled → s.cancelled = true) ∧
      (s.cancelled = true → cancelled = true ∨ .cancel ∈ source.arrivals ∨
        ∃ j, setup.cancelsAfter? = some j ∧ 0 < j ∧ j ≤ s.activity.reports.length)) ∧
    (interrupt? = some 0 → s.activity.reports = []) := by
  intro r s
  refine ⟨?_, ?_, ?_⟩
  · rintro t rfl ht
    obtain ⟨hout, hcan⟩ := supervise_of_outlasts setup cancelled source lines ht
    exact ⟨hout, congrArg (Option.map Outcome.exitCode) hout, hcan⟩
  · intro h
    have hs : s = _ := supervise_of_overBefore setup interrupt? cancelled source lines h
    rw [hs]
    exact ⟨Outcome.mirrors_ofEnding? (not_stopped_task setup cancelled source lines), rfl, rfl,
      cancelled_of_task_ended setup none cancelled source lines,
      cancelled_task setup cancelled source lines⟩
  · rintro rfl
    exact reports_supervise_zero setup cancelled source lines

/-- A run of one request whose computation takes a second, with an interrupt in the course of it and
with one that comes too late. -/
theorem outcome_of_race_second :
    let setup : Setup := { workDelayUs := 1000000 }
    let source : Source := { arrivals := [.bytes [55, 10]] }
    (task setup none false source 0).Outlasts 10 ∧
    (task setup none false source 0).OverBefore 2000 ∧
    (supervise setup (some 10) false source).outcome? = some .interrupted ∧
    (supervise setup (some 2000) false source).outcome? = some (.failed (.input .closed)) := by
  intro setup source
  have hlong : (task setup none false source 0).Outlasts 10 := .inr (by decide +kernel)
  have hshort : (task setup none false source 0).OverBefore 2000 :=
    ⟨by decide +kernel, by decide +kernel⟩
  have hending : (task setup none false source 0).ending = .failed .closed := by decide +kernel
  refine ⟨hlong, hshort, ?_, ?_⟩
  · exact ((outcome_of_race setup (some 10) false source 0).1 10 rfl (.inr hlong)).1
  · have hover : ∀ t, some 2000 = some t → (task setup none false source 0).OverBefore t := by
      rintro t ⟨⟩
      exact hshort
    exact (((outcome_of_race setup (some 2000) false source 0).2.1 hover).1.input .closed).2 hending

end Supervision

end TracedFibonacci
