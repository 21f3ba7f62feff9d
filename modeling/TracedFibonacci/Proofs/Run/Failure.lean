import TracedFibonacci.Proofs.Run.Settlement

/-!
# Runs on input that ends

A run goes on until an error of its input ends it, or a cancellation does. If the input ends and
nobody cancels the run, the error is what remains (`supervise_of_ends`): sooner or later a request
is not there, or is none.

## Why the run does not hang

A run hangs only at a wait that never ends. Such a wait comes from the stream, and an attempt to
read puts none into it, so a run whose stream has none does not meet one (`awake_of_leads`). Faults,
other waits and chunks without bytes make no difference to that.
-/

namespace TracedFibonacci

/-- The arrivals of input that ends. Reads may wait and fail on the way, and nothing else happens at
them. -/
structure Stream.Ends (as : List Arrival) : Prop where
  /-- Every wait ends. -/
  no_stall : .stall ∉ as
  /-- No read cancels the run. -/
  no_cancel : .cancel ∉ as

/-- No wait of the run is one that never ends. -/
structure Moment.Awake (m : Moment) : Prop where
  /-- None is to come. -/
  no_stall : .stall ∉ m.state.reader.source.arrivals
  /-- The run is not in one. -/
  not_forever : ∀ k t, m.stage ≠ .suspended k t .forever
  /-- It was not ended by one. -/
  not_hung : m.stage ≠ .ended .hung

section Steps

variable {setup : Setup} {m m' : Moment} {a : Activity}

theorem Source.not_stall_readLine {s : Source} {taken : List UInt8} (h : .stall ∉ s.arrivals) :
    .stall ∉ (s.readLine taken).source.arrivals :=
  fun hm ↦ h (mem_arrivals_readLine hm (by simp))

/-- **Each step keeps a run awake**, as long as nothing comes from outside. -/
theorem awake_next (h : m.next setup = some (a, m')) (halone : m.Alone) (hm : m.Awake) :
    m'.Awake := by
  have hstall := hm.no_stall
  cases moves_of_next h with
  | accept _ hr =>
    refine ⟨?_, by simp, by simp⟩
    exact Reader.source_of_conclude hr ▸ Source.not_stall_readLine hstall
  | refuse _ hr =>
    refine ⟨?_, by simp, by simp⟩
    exact Reader.source_of_conclude hr ▸ Source.not_stall_readLine hstall
  | @wait k taken t w st ht =>
    refine ⟨Source.not_stall_readLine hstall, fun k' t' hstage ↦ ?_, by simp⟩
    obtain ⟨-, -, rfl⟩ := Stage.suspended.inj hstage
    exact hstall ((Source.origin_readLine _ _).2.2.1 t ht)
  | @giveUp k taken w st =>
    have hw : w ≠ .forever := by
      rintro rfl
      exact hm.not_forever k taken rfl
    refine ⟨?_, by simp, by simp⟩
    cases w <;> simp_all [Source.giveUp, Wait.arrival?]
  | interruptWait _ hdue => exact absurd (halone.due?.symm.trans hdue) (by simp)
  | interruptWork hdue => exact absurd (halone.due?.symm.trans hdue) (by simp)
  | hang => exact absurd rfl (hm.not_forever _ _)
  | _ => exact ⟨hstall, by simp, by simp⟩

/-- The steps of a run keep it awake. -/
theorem awake_of_leads (h : Leads setup m a m') (halone : m.Alone) (hm : m.Awake) : m'.Awake := by
  induction h with
  | refl m => exact hm
  | step hn _ ih => exact ih (alone_next hn halone) (awake_next hn halone hm)

end Steps

namespace Supervision

variable (setup : Setup) (source : Source) (lines : Nat)

theorem task_not_hung (h : .stall ∉ source.arrivals) (cancelled : Bool) :
    (task setup none cancelled source lines).ending ≠ .hung := by
  obtain ⟨a, e, hleads, hending, -⟩ := leads_task setup none cancelled source lines
  have hbegin : (outset none cancelled source lines).Awake :=
    ⟨h, by simp [outset], by simp [outset]⟩
  rw [hending, Ne, Ending.leave_eq_hung_iff]
  rintro rfl
  exact (awake_of_leads hleads (alone_outset cancelled source lines) hbegin).not_hung rfl

/-- A run that nobody cancels does not end cancelled. -/
theorem task_not_cancelled (hcancels : setup.cancelsAfter? = none) (h : .cancel ∉ source.arrivals) :
    (task setup none false source lines).ending ≠ .cancelled := by
  intro he
  rcases cancelled_task setup false source lines
    (cancelled_of_task_ended setup none false source lines he) with hc | hc | ⟨j, hj, -⟩
  · contradiction
  · exact h hc
  · rw [hcancels] at hj
    contradiction

theorem task_not_broken (hbreaks : setup.breaksAt? = none) :
    (task setup none false source lines).ending ≠ .broken := by
  intro he
  have hj := breaksAt?_of_task_broken setup none false source lines he
  rw [hbreaks] at hj
  contradiction

/-- **A run on input that ends fails with an error of its input.** -/
theorem supervise_of_ends (hcancels : setup.cancelsAfter? = none) (hbreaks : setup.breaksAt? = none)
    (h : Stream.Ends source.arrivals) :
    ∃ e, (task setup none false source lines).ending = .failed e ∧
      (supervise setup none false source lines).outcome? = some (.failed (.input e)) := by
  have houtcome : (supervise setup none false source lines).outcome? =
      Outcome.ofEnding? (task setup none false source lines).ending := by
    rw [supervise_of_overBefore setup none false source lines (by simp)]
  cases he : (task setup none false source lines).ending with
  | failed e => exact ⟨e, rfl, by rw [houtcome, he]; rfl⟩
  | cancelled => exact absurd he (task_not_cancelled setup source lines hcancels h.no_cancel)
  | broken => exact absurd he (task_not_broken setup source lines hbreaks)
  | stopped openSpans => exact absurd he (not_stopped_task setup false source lines openSpans)
  | hung => exact absurd he (task_not_hung setup source lines h.no_stall false)

/-- **A run that nobody cancels does not complete**, with an interrupt or without. -/
theorem outcome?_ne_completed (hcancels : setup.cancelsAfter? = none)
    (h : .cancel ∉ source.arrivals) (interrupt? : Option Nat) :
    (supervise setup interrupt? false source lines).outcome? ≠ some .completed := by
  by_cases hover : ∀ t, interrupt? = some t → (task setup none false source lines).OverBefore t
  · rw [supervise_of_overBefore setup interrupt? false source lines hover]
    have hne : (task setup none false source lines).ending ≠ .cancelled :=
      task_not_cancelled setup source lines hcancels h
    cases he : (task setup none false source lines).ending with
    | cancelled => exact absurd he hne
    | _ => simp [Outcome.ofEnding?]
  · obtain ⟨t, rfl, ht⟩ : ∃ t, interrupt? = some t ∧
        ¬(task setup none false source lines).OverBefore t := by
      simpa using hover
    have hinterrupted : (supervise setup (some t) false source lines).outcome? =
        some .interrupted :=
      (outcome?_eq_interrupted_iff setup (some t) false source lines).2
        (interrupted_of_not_overBefore setup false source lines (.inr ht))
    simp [hinterrupted]

end Supervision

end TracedFibonacci
