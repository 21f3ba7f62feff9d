import TracedFibonacci.Proofs.Request.Message
import TracedFibonacci.Proofs.Run.Race

/-!
# How a run words what it tells

Whoever writes to the stream cannot write into the log. A report consists of numbers, and the error
that ends a run shows the offending line in plain text, whatever bytes the line holds; so each is
one line and gives no orders to a terminal (`Run.told_in_one_line`).

A fault of the stream is worded elsewhere, and nothing is known about its text. What has to be shown
is therefore that a run whose stream has no fault ends with none: a step puts no fault into the
stream (`mem_arrivals_of_next`), and an attempt to read meets only those that are there.
-/

namespace TracedFibonacci

open Text

/-- **A report is plain.** -/
theorem Report.isPlain_line (r : Report) : IsPlain r.line := by
  have hasked : IsPlain ("Fibonacci(" ++ Numeral.decimal r.n.toNat ++ ")") :=
    ((isPlain_of_isGraphic (by decide)).append (isPlain_decimal _)).append
      (isPlain_of_isGraphic (by decide))
  have hmessage (e : Overflow) : IsPlain e.message :=
    ((isPlain_of_isGraphic (by decide)).append (isPlain_decimal _)).append
      (isPlain_of_isGraphic (by decide))
  rw [line]
  split
  · exact (hasked.append (isPlain_of_isGraphic (by decide))).append (isPlain_decimal _)
  · exact (hasked.append (isPlain_of_isGraphic (by decide))).append (hmessage _)

/-- The stream of the run has no fault, and the error that ended the run is told in plain text. -/
structure Moment.Legible (m : Moment) : Prop where
  /-- No read will fail. -/
  no_fault : ∀ f, .fault f ∉ m.state.reader.source.arrivals
  /-- The error is plain. -/
  isPlain : ∀ e, m.stage = .ended (.failed e) → IsPlain e.message

section Steps

variable {setup : Setup} {m m' : Moment} {a : Activity}

theorem Source.Ended.eq_fault_of_outcome? {e : Source.Ended} {f : Fault}
    (h : e.outcome? = some (.fault f)) : e = .fault f := by
  cases e with
  | line | waiting => simp [outcome?] at h
  | fault f' => rw [Source.Outcome.fault.inj (Option.some.inj h)]

/-- What a step finds instead of a request is told in plain text. -/
theorem isPlain_of_next {e : RequestError} (h : m.next setup = some (a, m')) (hm : m.Legible)
    (he : m'.stage = .ended (.failed e)) : IsPlain e.message := by
  cases moves_of_next h with
  | @refuse k taken st o e' r ho hr =>
    obtain rfl : e' = e := by simpa using he
    refine Reader.isPlain_of_conclude (fun f hf ↦ hm.no_fault f ?_) hr
    have hended := Source.Ended.eq_fault_of_outcome? (hf ▸ ho)
    exact (Source.origin_readLine taken st.reader.source).2.1 f hended
  | _ => simp at he

/-- **Each step keeps a run legible.** -/
theorem legible_next (h : m.next setup = some (a, m')) (hm : m.Legible) : m'.Legible where
  no_fault f hf := by
    have hwait : ∀ w : Wait, w.arrival? ≠ some (.fault f) := fun w ↦ by cases w <;> nofun
    exact hm.no_fault f (mem_arrivals_of_next h nofun hwait hf)
  isPlain _ := isPlain_of_next h hm

/-- The steps of a run keep it legible. -/
theorem legible_of_leads (h : Leads setup m a m') (hm : m.Legible) : m'.Legible := by
  induction h with
  | refl m => exact hm
  | step hn _ ih => exact ih (legible_next hn hm)

end Steps

theorem Ending.leave_eq_failed_iff {e : Ending} {s : Span} {err : RequestError} :
    (e.leave s).1 = .failed err ↔ e = .failed err := by
  cases e <;> simp [leave]

namespace Run

/-- **What a run tells is told in one line**, without control characters, whatever bytes come down
its stream, as long as the stream itself does not fail. This holds of every report, and of the error
of its input that ends the run, by itself and as the error of the run. -/
theorem told_in_one_line (setup : Setup) {st : State}
    (h : ∀ f, .fault f ∉ st.reader.source.arrivals) :
    (∀ r ∈ (start setup st).activity.reports, OneLine r.line) ∧
    ∀ e, (start setup st).ending = .failed e →
      OneLine e.message ∧ OneLine (RunError.input e).message := by
  refine ⟨fun r _ ↦ r.isPlain_line.oneLine, fun e he ↦ ?_⟩
  have hbegin : Moment.Legible ⟨.between 0, st⟩ := ⟨h, by simp⟩
  have hend := legible_of_leads (leads_loop setup 0 st) hbegin
  have hplain := hend.isPlain e (congrArg _ (Ending.leave_eq_failed_iff.1 he))
  exact ⟨hplain.oneLine, hplain.oneLine⟩

/-- A request whose answer overflows, and behind it a line that would clear the screen and begin new
lines in two ways. -/
theorem told_in_one_line_hostile :
    let setup : Setup := { policy := .checked }
    let st : State := { reader := { source := {
      arrivals := [.bytes [57, 52, 10], .pause, .bytes [27, 91, 50, 74, 13, 226],
        .bytes [128, 168, 10]] } } }
    let e : RequestError := .malformed 2 "\x1b[2J\r\u2028"
    (start setup st).ending = .failed e ∧
    (start setup st).activity.reports.length = 1 ∧
    (∀ r ∈ (start setup st).activity.reports, OneLine r.line) ∧ OneLine e.message := by
  intro setup st e
  have hending : (start setup st).ending = .failed e := by decide +kernel
  obtain ⟨hreports, herror⟩ := @told_in_one_line setup st (by simp [st])
  exact ⟨hending, by decide +kernel, hreports, (herror e hending).1⟩

end Run

end TracedFibonacci
