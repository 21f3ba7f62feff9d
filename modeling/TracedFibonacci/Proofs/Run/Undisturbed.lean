import TracedFibonacci.Proofs.Request.Splitting
import TracedFibonacci.Proofs.Run.Intake

/-!
# Runs that nobody cancels

When nothing cancels a run it ends with an error, and the runs of a session share the input among
them without losing any of it: each reports on the requests up to the first piece that is no
request, fails with the error of that piece, and leaves the next run right behind it. `share` says
so for one run over the readings of the pieces, and `shares` for any number.

## Two halves

* That a run takes its share is a fact about what it takes from the input (`share_of_takes`), and
  holds of any run that fails.
* That a run fails is a fact about its clock: an iteration that starts undisturbed leaves
  everything undisturbed and reports or fails (`Iteration.undisturbed_run`), so by induction a run
  can only end with a failure (`Run.undisturbed_start`).
-/

namespace TracedFibonacci

open Request Source

/-- The receiver of the reports neither cancels a run nor breaks down. -/
structure Setup.Undisturbing (setup : Setup) : Prop where
  /-- No report cancels the run. -/
  cancelsAfter? : setup.cancelsAfter? = none
  /-- No report breaks the run. -/
  breaksAt? : setup.breaksAt? = none

/-- Nothing has cancelled the run, and nothing is going to. -/
structure Clock.Undisturbed (c : Clock) : Prop where
  /-- The run is not cancelled. -/
  cancelled : c.cancelled = false
  /-- No cancellation is due. -/
  due? : c.due? = none

/-- A run from here is not cancelled by its context nor by its stream. -/
structure State.Undisturbed (st : State) : Prop where
  /-- The stream has no faults, no endless waits and no cancellations. -/
  calm : st.reader.source.Calm
  /-- The clock has none either. -/
  clock : st.clock.Undisturbed

/-- The reports and the ending of a step that was a run. -/
def StepOutcome.ran? (o : StepOutcome) : Option (List Report × Ending) :=
  match o.result with
  | .ran e => some (o.activity.reports, e)
  | _ => none

/-- The runs of a session, each with its reports and its ending. -/
def Session.ran (setup : Setup) (st : State) (ss : List Step) : List (List Report × Ending) :=
  (steps setup st ss).1.filterMap StepOutcome.ran?

/-- What a reader is going to make of the pieces of its input. -/
def Reader.readings (r : Reader) : List (Except RequestError UInt64) :=
  Request.readings r.lines (pieces r.source.bytes)

/-! ### A share of the input -/

namespace Session

/-- What a run makes of some readings: the requests up to the first error, that error, and the
readings behind it. The end of the readings is an error too. -/
def share : List (Except RequestError UInt64) →
    List UInt64 × RequestError × List (Except RequestError UInt64)
  | [] => ([], .closed, [])
  | .error e :: xs => ([], e, xs)
  | .ok n :: xs => (n :: (share xs).1, (share xs).2)

/-- What so many runs make of some readings, one after the other. -/
def shares : Nat → List (Except RequestError UInt64) → List (List UInt64 × RequestError)
  | 0, _ => []
  | k + 1, xs => ((share xs).1, (share xs).2.1) :: shares k (share xs).2.2

/-- The error in a reading. -/
def refusal? : Except RequestError UInt64 → Option RequestError
  | .ok _ => none
  | .error e => some e

/-- A share takes the first error with it. -/
theorem filterMap_refusal?_share (xs : List (Except RequestError UInt64)) :
    (xs.filterMap refusal?).head?.getD .closed = (share xs).2.1 ∧
      (share xs).2.2.filterMap refusal? = (xs.filterMap refusal?).tail := by
  induction xs with
  | nil => exact ⟨rfl, rfl⟩
  | cons x xs ih =>
    cases x with
    | error e => exact ⟨rfl, rfl⟩
    | ok n => exact ih

/-- What a share leaves has the other requests, and one error less. -/
theorem filterMap_toOption_share (xs : List (Except RequestError UInt64)) :
    (share xs).1 ++ (share xs).2.2.filterMap Except.toOption = xs.filterMap Except.toOption := by
  induction xs with
  | nil => rfl
  | cons x xs ih =>
    cases x with
    | error e => rfl
    | ok n =>
      rw [share, List.cons_append, ih]
      rfl

/-- **Each error ends one run**, in order, and after the last of them a run finds the input
closed. -/
theorem refusals_shares (k : Nat) (xs : List (Except RequestError UInt64)) :
    (shares k xs).map (·.2) =
      (xs.filterMap refusal? ++ List.replicate k RequestError.closed).take k := by
  induction k generalizing xs with
  | zero => rfl
  | succ k ih =>
    obtain ⟨hfirst, hrest⟩ := filterMap_refusal?_share xs
    rw [shares, List.map_cons, ih, hrest, ← hfirst]
    cases xs.filterMap refusal? with
    | nil => simp [List.replicate_succ]
    | cons e es =>
      -- one end of the input more does not change what comes before it
      have hmin : min (k - es.length) k = min (k - es.length) (k + 1) := by omega
      rw [List.head?_cons, Option.getD_some, List.tail_cons, List.cons_append, List.take_succ_cons,
        List.take_append, List.take_append, List.take_replicate, List.take_replicate, hmin]

/-- Without an error there is nothing behind a share. -/
theorem share_rest_eq_nil {xs : List (Except RequestError UInt64)}
    (h : xs.filterMap refusal? = []) : (share xs).2.2 = [] := by
  induction xs with
  | nil => rfl
  | cons x xs ih =>
    cases x with
    | error e => contradiction
    | ok n => exact ih h

theorem requests_shares_nil (k : Nat) : (shares k []).flatMap (·.1) = [] := by
  induction k with
  | zero => rfl
  | succ k ih => exact ih

/-- **No request is lost**, once there are more runs than errors. -/
theorem requests_shares {k : Nat} {xs : List (Except RequestError UInt64)}
    (h : (xs.filterMap refusal?).length < k) :
    (shares k xs).flatMap (·.1) = xs.filterMap Except.toOption := by
  induction k generalizing xs with
  | zero => omega
  | succ k ih =>
    obtain ⟨-, hrest⟩ := filterMap_refusal?_share xs
    rw [shares, List.flatMap_cons, ← filterMap_toOption_share xs]
    congr 1
    cases hes : xs.filterMap refusal? with
    | nil => rw [share_rest_eq_nil hes, requests_shares_nil, List.filterMap_nil]
    | cons e es =>
      refine ih ?_
      rw [hes, List.length_cons] at h
      rw [hrest, hes, List.tail_cons]
      omega

end Session

/-- A run that fails has taken its share of what was there to be read. -/
theorem Run.share_of_takes {policy : OverflowPolicy} {p q : Position} {rs : List Report}
    {e : RequestError} (h : Takes policy p rs (.failed e) q) :
    ∃ ns, rs = ns.map (.on policy) ∧
      Session.share (readings p.lines (pieces p.bytes)) =
        (ns, e, readings q.lines (pieces q.bytes)) := by
  generalize hx : Ending.failed e = x at h
  induction h with
  | idle p => contradiction
  | last hi =>
    cases hi with
    | givenUp ht he => rcases he with rfl | rfl <;> contradiction
    | @refused lines lines' bs e' hr =>
      obtain rfl : e = e' := Ending.failed.inj hx
      refine ⟨[], rfl, ?_⟩
      rcases eq_or_ne bs [] with rfl | hbs
      · obtain ⟨rfl, rfl⟩ : RequestError.closed = e ∧ lines = lines' := by
          simpa [Reader.receive] using hr
        rfl
      · rw [pieces_of_ne_nil hbs, readings_cons (cut_ne_nil hbs), hr]
        rfl
    | unanswered hr he => rcases he with rfl | ⟨_, rfl⟩ <;> contradiction
  | more hi _ ih =>
    cases hi with
    | @answered lines lines' bs n hr =>
      obtain ⟨ns, rfl, hshare⟩ := ih hx
      have hbs : bs ≠ [] := by
        rintro rfl
        simp [Reader.receive] at hr
      refine ⟨n :: ns, rfl, ?_⟩
      dsimp only at hshare ⊢
      rw [pieces_of_ne_nil hbs, readings_cons (cut_ne_nil hbs), hr, Session.share, hshare]

/-! ### Nothing disturbs a run -/

/-- Waiting for a line ends with one. -/
theorem Clock.undisturbed_await (taken : List UInt8) {c : Clock} {s : Source} (hc : c.Undisturbed)
    (hs : s.Calm) :
    (∃ bs, (await c taken s).polled = .ended (.line bs)) ∧
      (await c taken s).clock.Undisturbed ∧ (await c taken s).source.Calm := by
  -- no attempt meets a cancellation
  have hcalm : ∀ {t : List UInt8} {s : Source} {c : Clock}, s.Calm → c.Undisturbed →
      (c.cancelIf (s.readLine t).cancels).Undisturbed := fun {t s c} hs hc ↦ by
    have : (s.readLine t).cancels = false := by
      by_contra h
      exact hs.no_cancel ((origin_readLine t s).1 (by simpa using h))
    exact ⟨by rw [cancelIf, this, hc.cancelled]; rfl, hc.due?⟩
  fun_induction await c taken s with
  | case1 c taken s a c' bs h => exact ⟨⟨bs, rfl⟩, hcalm hs hc, hs.readLine taken⟩
  | case2 c taken s a c' f h => exact absurd ((origin_readLine taken s).2.1 f h) (hs.no_fault f)
  | case3 c taken s a c' t w h _ hcan =>
    exact absurd hcan (by simpa using (hcalm (t := taken) hs hc).cancelled)
  | case4 c taken s a c' t hcan h _ _ ih => exact ih (hcalm hs hc) (hs.readLine taken)
  | case5 c taken s a c' t hcan ms h t' hdue _ _ =>
    rw [dueBy?, (hcalm (t := taken) hs hc).due?] at hdue
    contradiction
  | case6 c taken s a c' t hcan ms h hdue _ _ ih =>
    exact ih ⟨(hcalm (t := taken) hs hc).cancelled, (hcalm (t := taken) hs hc).due?⟩
      (hs.readLine taken)
  | case7 c taken s a c' t hcan h t' hdue _ _ =>
    exact absurd ((origin_readLine taken s).2.2.1 t h) hs.no_stall
  | case8 c taken s a c' t hcan h hdue _ _ =>
    exact absurd ((origin_readLine taken s).2.2.1 t h) hs.no_stall

/-- A computation is done in its own time. -/
theorem Clock.undisturbed_work {c : Clock} (hc : c.Undisturbed) (ms : Nat) :
    ∃ c', c.work ms = .done c' ∧ c'.Undisturbed := by
  rw [work]
  split
  · exact ⟨c, rfl, hc⟩
  · rw [dueBy?, hc.due?]
    exact ⟨c.advanceTo (c.now + ms), rfl, hc.cancelled, hc.due?⟩

namespace Iteration

/-- A request is answered by a report. -/
theorem undisturbed_answer {setup : Setup} (hsetup : setup.Undisturbing) (k : Nat) (n : UInt64)
    {st : State} (hst : st.Undisturbed) :
    (answer setup k n st).state.Undisturbed ∧ (answer setup k n st).conclusion = .reported := by
  obtain ⟨c, hwork, hc⟩ := Clock.undisturbed_work hst.clock setup.workMs
  unfold answer report
  rw [hwork]
  simp only [hsetup.breaksAt?, hsetup.cancelsAfter?, Stretch.after]
  refine ⟨⟨hst.calm, ?_, hc.due?⟩, rfl⟩
  simpa [Clock.cancelIf] using hc.cancelled

/-- **An iteration that is not disturbed reports or fails.** -/
theorem undisturbed_run {setup : Setup} (hsetup : setup.Undisturbing) (k : Nat) {st : State}
    (hst : st.Undisturbed) :
    (run setup k st).state.Undisturbed ∧
      ((run setup k st).conclusion = .reported ∨
        ∃ e, (run setup k st).conclusion = .ended (.failed e)) := by
  obtain ⟨⟨bs, hp⟩, hc, hs⟩ := Clock.undisturbed_await [] hst.clock hst.calm
  rw [run, body]
  simp only [hp]
  cases hr : (st.reader.conclude (.line bs) (st.clock.await [] st.reader.source).source).1 with
  | error e => exact ⟨⟨hs, hc⟩, .inr ⟨e, rfl⟩⟩
  | ok n =>
    have hread : State.Undisturbed { st with
        clock := (st.clock.await [] st.reader.source).clock
        reader :=
          (st.reader.conclude (.line bs) (st.clock.await [] st.reader.source).source).2 } :=
      ⟨hs, hc⟩
    obtain ⟨hst', hconc⟩ := undisturbed_answer hsetup k n hread
    simp only [Stretch.after, hconc]
    exact ⟨hst', .inl trivial⟩

end Iteration

namespace Run

theorem undisturbed_loop {setup : Setup} (hsetup : setup.Undisturbing) {k : Nat} {st : State}
    (hst : st.Undisturbed) :
    (loop setup k st).state.Undisturbed ∧ ∃ e, (loop setup k st).ending = .failed e := by
  fun_induction loop setup k st with
  | case1 k st hc => exact absurd hc (by simpa using hst.clock.cancelled)
  | case2 k st hc r h _ ih => exact ih (Iteration.undisturbed_run hsetup (k + 1) hst).1
  | case3 k st hc r h =>
    have := (Iteration.undisturbed_run hsetup (k + 1) hst).2
    simp only [r] at h
    simp [h] at this
  | case4 k st hc r e _ h =>
    obtain ⟨hst', hcon⟩ := Iteration.undisturbed_run hsetup (k + 1) hst
    simp only [r] at h
    rw [h] at hcon
    obtain ⟨e', he⟩ := hcon.resolve_left (by simp)
    exact ⟨hst', e', by simpa using he⟩

/-- **A run that is not disturbed fails.** -/
theorem undisturbed_start {setup : Setup} (hsetup : setup.Undisturbing) {st : State}
    (hst : st.Undisturbed) :
    (start setup st).state.Undisturbed ∧ ∃ e, (start setup st).ending = .failed e := by
  obtain ⟨hst', e, he⟩ := undisturbed_loop hsetup (k := 0) hst
  refine ⟨hst', e, ?_⟩
  rw [start]
  dsimp only
  rw [he]
  rfl

end Run

/-! ### Sharing the input -/

namespace Session

/-- One run after the other takes its share. -/
theorem ran_eq_shares {setup : Setup} (hsetup : setup.Undisturbing) {st : State}
    (hst : st.Undisturbed) {ss : List Step} (hss : ∀ s ∈ ss, s = .run ∨ s = .newContext) :
    ran setup st ss = (shares (ss.count .run) st.reader.readings).map fun share ↦
      (share.1.map (.on setup.policy), .failed share.2) := by
  induction ss generalizing st with
  | nil => rfl
  | cons s ss ih =>
    have hss' : ∀ s ∈ ss, s = .run ∨ s = .newContext := fun s hs ↦ hss s (.tail _ hs)
    rcases hss s (.head _) with rfl | rfl
    · obtain ⟨hst', e, he⟩ := Run.undisturbed_start hsetup hst
      obtain ⟨-, ht⟩ := Run.takes_start setup hst.calm.toSound
      rw [he] at ht
      obtain ⟨ns, hns, hshare⟩ := Run.share_of_takes ht
      have hran : ran setup st (.run :: ss) =
          ((Run.start setup st).activity.reports, .failed e) ::
            ran setup (Run.start setup st).state ss := by
        rw [← he]
        rfl
      replace hshare : share st.reader.readings =
          (ns, e, (Run.start setup st).state.reader.readings) := hshare
      rw [hran, ih hst' hss', List.count_cons_self, shares, List.map_cons, hns, hshare]
    · have hst' : (step setup st .newContext).2.Undisturbed := ⟨hst.calm, rfl, rfl⟩
      have hran : ran setup st (.newContext :: ss) =
          ran setup (step setup st .newContext).2 ss := rfl
      rw [hran, ih hst' hss', List.count_cons_of_ne (by decide)]
      rfl

/-- **Uncancelled runs share the input among them.** Each takes the pieces through the first that is
no request, reports on the others in order, and fails with the error of that piece; the next run
goes on right behind it. So the errors end one run each, and after the last of them every run finds
the input closed; and once there are more runs than errors, there is one report for each request of
the input, in order. What a piece is read as depends on its bytes and on the number of lines before
it alone. -/
theorem runs_share_input {setup : Setup} (hsetup : setup.Undisturbing) {st : State}
    (hst : st.Undisturbed) {ss : List Step} (hss : ∀ s ∈ ss, s = .run ∨ s = .newContext) :
    ran setup st ss = (shares (ss.count .run) st.reader.readings).map (fun share ↦
      (share.1.map (.on setup.policy), .failed share.2)) ∧
    (ran setup st ss).map (·.2) = ((st.reader.readings.filterMap refusal? ++
      List.replicate (ss.count .run) RequestError.closed).take (ss.count .run)).map .failed ∧
    ((st.reader.readings.filterMap refusal?).length < ss.count .run →
      (ran setup st ss).flatMap (·.1) =
        (st.reader.readings.filterMap Except.toOption).map (.on setup.policy)) ∧
    ∀ i p, (pieces st.reader.source.bytes)[i]? = some p →
      ∃ x after, st.reader.readings[i]? = some x ∧
        Replies (st.reader.lines + ((pieces st.reader.source.bytes).take i).countP isText)
          (some p) (x, after) := by
  rw [ran_eq_shares hsetup hst hss]
  refine ⟨rfl, ?_, fun h ↦ ?_, fun i p hp ↦ ?_⟩
  · rw [← refusals_shares, List.map_map, List.map_map]
    rfl
  · rw [← requests_shares h, List.flatMap_map, List.map_flatMap]
  · have hi : i < (pieces st.reader.source.bytes).length := (List.getElem?_eq_some_iff.1 hp).1
    refine ⟨_, _, ?_, hp ▸ replies_answer st.reader.lines st.reader.source.bytes i⟩
    rw [Reader.readings, Request.readings, List.getElem?_map, List.getElem?_range hi]
    rfl

/-- Three runs over five pieces: an overflow is a report and ends nothing, a line that is not text
ends the first run, and a number without a newline the second. -/
theorem runs_share_input_thrice :
    let st : State := { reader := { source := {
      capacity := 3
      arrivals := [.bytes [55, 10, 57], .pause, .bytes [52, 13], .delay 2, .bytes [10, 0xFF, 10],
        .bytes [56, 10, 57]] } } }
    ran { policy := .checked, workDelayUs := 5 } st [.run, .newContext, .run, .run] =
      [([.on .checked 7, .on .checked 94],
          .failed (.unreadable ⟨.invalidData,
            some "invalid utf-8 sequence of 1 bytes from index 0"⟩)),
        ([.on .checked 8], .failed (.missingNewline 4 "9")),
        ([], .failed .closed)] := by
  intro st
  have hst : st.Undisturbed :=
    ⟨⟨⟨⟨⟨by decide, by decide⟩, by simp [st]⟩, by decide⟩, by decide⟩, rfl, rfl⟩
  have hshares : shares 3 st.reader.readings =
      [([7, 94], .unreadable ⟨.invalidData,
          some "invalid utf-8 sequence of 1 bytes from index 0"⟩),
        ([8], .missingNewline 4 "9"), ([], .closed)] := by
    decide +kernel
  rw [(runs_share_input ⟨rfl, rfl⟩ hst (by decide)).1]
  exact congrArg (List.map _) hshares

end Session

end TracedFibonacci
