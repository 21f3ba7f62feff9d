import TracedFibonacci.Proofs.Request.Delivery
import TracedFibonacci.Run.Session

/-!
# What a run takes from its input

Seen from the input, an iteration is one of four things: it takes a line and reports on it, it takes
a piece that is no request and fails, it takes a request and does not come to report on it, or it is
given up in the middle of a line. `Iteration.Takes` lists these, and `Run.Takes` is a row of them.
Neither knows of time, of traces or of how a cancellation came about.

## What it rests on

* `Clock.bytes_await`: waiting for a line takes one piece or the beginning of one. It is an
  induction over the waits, each of which leaves the bytes it took in hand.
* `Iteration.takes_body` adds the computation and the report, which leave the reader alone.
* `Run.takes_start` is the induction over the iterations of a run.
-/

namespace TracedFibonacci

open Request Source

/-- Where a reader stands. -/
@[ext]
structure Position where
  /-- How many lines it has read whole and as text. -/
  lines : Nat
  /-- The bytes that are still to be read. -/
  bytes : List UInt8
  deriving Repr, DecidableEq

/-- Where the reader of a run stands. -/
def State.position (st : State) : Position := ⟨st.reader.lines, st.reader.source.bytes⟩

/-- What an iteration may take from its input, with the reports it makes and how it ends. -/
inductive Iteration.Takes (policy : OverflowPolicy) :
    Position → List Report → Conclusion → Position → Prop
  /-- It is given up, or waits for ever, and what it took of a line is lost. -/
  | givenUp {lines : Nat} {t bs : List UInt8} {e : Ending} :
    newline ∉ t → (e = .cancelled ∨ e = .hung) →
      Takes policy ⟨lines, t ++ bs⟩ [] (.ended e) ⟨lines, bs⟩
  /-- It takes a piece that is no request, or finds none. -/
  | refused {lines lines' : Nat} {bs : List UInt8} {e : RequestError} :
    Reader.receive lines (cut bs).1 = (.error e, lines') →
      Takes policy ⟨lines, bs⟩ [] (.ended (.failed e)) ⟨lines', (cut bs).2⟩
  /-- It takes a request, and is ended from outside before it can report. -/
  | unanswered {lines lines' : Nat} {bs : List UInt8} {n : UInt64} {e : Ending} :
    Reader.receive lines (cut bs).1 = (.ok n, lines') →
      (e = .broken ∨ ∃ openSpans, e = .stopped openSpans) →
        Takes policy ⟨lines, bs⟩ [] (.ended e) ⟨lines', (cut bs).2⟩
  /-- It takes a request and reports on it. -/
  | answered {lines lines' : Nat} {bs : List UInt8} {n : UInt64} :
    Reader.receive lines (cut bs).1 = (.ok n, lines') →
      Takes policy ⟨lines, bs⟩ [.on policy n] .reported ⟨lines', (cut bs).2⟩

/-- What a run may take from its input, with the reports it makes and how it ends. -/
inductive Run.Takes (policy : OverflowPolicy) :
    Position → List Report → Ending → Position → Prop
  /-- It finds itself cancelled. -/
  | idle (p : Position) : Takes policy p [] .cancelled p
  /-- It ends with an iteration. -/
  | last {p q : Position} {rs : List Report} {e : Ending} :
    Iteration.Takes policy p rs (.ended e) q → Takes policy p rs e q
  /-- It goes on after an iteration. -/
  | more {p q q' : Position} {rs rs' : List Report} {e : Ending} :
    Iteration.Takes policy p rs .reported q → Takes policy q rs' e q' →
      Takes policy p (rs ++ rs') e q'

/-! ### Waiting for a line -/

namespace Clock

/-- **Waiting for a line takes one piece**, or the beginning of one when it is given up. -/
theorem bytes_await {c : Clock} {taken : List UInt8} {s : Source} (hs : s.Sound)
    (ht : newline ∉ taken) :
    (await c taken s).source.Sound ∧
    match (await c taken s).polled with
    | .ended (.line bs) => cut (taken ++ s.bytes) = (bs, (await c taken s).source.bytes)
    | .ended (.fault _) => False
    | .abandoned | .hung =>
      ∃ t, newline ∉ t ∧ t ++ (await c taken s).source.bytes = taken ++ s.bytes := by
  have hb := bytes_readLine hs.toRegular ht
  fun_induction await c taken s with
  | case1 c taken s a c' bs h =>
    simp only [a, h] at hb
    exact ⟨hs.readLine taken, hb⟩
  | case2 c taken s a c' f h =>
    exact absurd ((origin_readLine taken s).2.1 f h) (hs.no_fault f)
  | case3 c taken s a c' t w h _ hc =>
    simp only [a, h] at hb
    exact ⟨(hs.readLine taken).giveUp w, t, hb⟩
  | case4 c taken s a c' t hc h _ _ ih =>
    simp only [a, h] at hb
    obtain ⟨ht', hsum⟩ := hb
    rw [giveUp_turn] at hsum
    rw [← hsum]
    exact ih (hs.readLine taken) ht' (bytes_readLine (hs.readLine taken).toRegular ht')
  | case5 c taken s a c' t hc ms h t' hdue _ _ =>
    simp only [a, h] at hb
    exact ⟨(hs.readLine taken).giveUp _, t, hb⟩
  | case6 c taken s a c' t hc ms h hdue _ _ ih =>
    simp only [a, h] at hb
    obtain ⟨ht', hsum⟩ := hb
    rw [bytes_giveUp_sleep] at hsum
    rw [← hsum]
    exact ih (hs.readLine taken) ht' (bytes_readLine (hs.readLine taken).toRegular ht')
  | case7 c taken s a c' t hc h t' hdue _ _ =>
    simp only [a, h] at hb
    exact ⟨(hs.readLine taken).giveUp _, t, hb⟩
  | case8 c taken s a c' t hc h hdue _ _ =>
    simp only [a, h] at hb
    exact ⟨(hs.readLine taken).giveUp _, t, hb⟩

end Clock

/-! ### One iteration -/

namespace Iteration

theorem Takes.leave {policy : OverflowPolicy} {p q : Position} {rs : List Report} {e : Ending}
    (h : Takes policy p rs (.ended e) q) (s : Span) :
    Takes policy p rs (.ended (e.leave s).1) q := by
  cases h with
  | givenUp ht he =>
    refine .givenUp ht ?_
    rcases he with rfl | rfl
    · exact .inl rfl
    · exact .inr rfl
  | refused hr => exact .refused hr
  | unanswered hr he =>
    refine .unanswered hr ?_
    rcases he with rfl | ⟨openSpans, rfl⟩
    · exact .inl rfl
    · exact .inr ⟨_, rfl⟩

/-- A request is answered by the one report on it, or by none when the run is ended. -/
theorem reports_answer (setup : Setup) (k : Nat) (n : UInt64) (st : State) :
    ((answer setup k n st).conclusion = .reported ∧
      (answer setup k n st).activity.reports = [.on setup.policy n]) ∨
    ∃ e, (answer setup k n st).conclusion = .ended e ∧
      (e = .broken ∨ ∃ openSpans, e = .stopped openSpans) ∧
      (answer setup k n st).activity.reports = [] := by
  rw [answer]
  split
  · exact .inr ⟨_, rfl, .inr ⟨_, rfl⟩, rfl⟩
  · next c _ =>
    rw [report]
    by_cases hb : setup.breaksAt? = some (st.reported + 1)
    · refine .inr ⟨.broken, ?_, .inl rfl, ?_⟩ <;> simp [hb, Stretch.after, Activity.ofTrace]
    · refine .inl ⟨?_, ?_⟩ <;> simp [hb, Stretch.after]

/-- What an iteration takes that comes to a request. -/
theorem takes_answer (setup : Setup) (k : Nat) {n : UInt64} {st : State} {lines : Nat}
    {bs : List UInt8} (hrec : Reader.receive lines (cut bs).1 = (.ok n, st.reader.lines))
    (hrest : (cut bs).2 = st.reader.source.bytes) :
    Takes setup.policy ⟨lines, bs⟩ (answer setup k n st).activity.reports
      (answer setup k n st).conclusion (answer setup k n st).state.position := by
  rw [State.position, reader_answer, ← hrest]
  rcases reports_answer setup k n st with ⟨hc, hrep⟩ | ⟨e, hc, he, hrep⟩
  · rw [hc, hrep]
    exact .answered hrec
  · rw [hc, hrep]
    exact .unanswered hrec he

theorem takes_body (setup : Setup) (k : Nat) {st : State} (hs : st.reader.source.Sound) :
    (body setup k st).state.reader.source.Sound ∧
    Takes setup.policy st.position (body setup k st).activity.reports
      (body setup k st).conclusion (body setup k st).state.position := by
  obtain ⟨hsound, hb⟩ := Clock.bytes_await (c := st.clock) hs (List.not_mem_nil (a := newline))
  rw [List.nil_append] at hb
  rw [body]
  dsimp only
  cases hp : (st.clock.await [] st.reader.source).polled with
  | hung =>
    rw [hp] at hb
    obtain ⟨t, ht, hsum⟩ := hb
    refine ⟨hsound, ?_⟩
    rw [State.position, ← hsum]
    exact .givenUp ht (.inr rfl)
  | abandoned =>
    rw [hp] at hb
    obtain ⟨t, ht, hsum⟩ := hb
    refine ⟨hsound, ?_⟩
    rw [State.position, ← hsum]
    exact .givenUp ht (.inl rfl)
  | ended o =>
    cases o with
    | fault f =>
      rw [hp] at hb
      exact hb.elim
    | line bs =>
      rw [hp] at hb
      dsimp only at hb
      have hline : (cut st.reader.source.bytes).1 = bs := by rw [hb]
      have hrest : (cut st.reader.source.bytes).2 =
          (st.clock.await [] st.reader.source).source.bytes := by rw [hb]
      dsimp only [Reader.conclude]
      cases hr : (Reader.receive st.reader.lines bs).1 with
      | error e =>
        refine ⟨hsound, ?_⟩
        rw [State.position, State.position]
        dsimp only
        rw [← hrest]
        exact .refused (by rw [hline, ← hr])
      | ok n =>
        have hrec : Reader.receive st.reader.lines (cut st.reader.source.bytes).1 =
            (.ok n, (Reader.receive st.reader.lines bs).2) := by rw [hline, ← hr]
        dsimp only [Stretch.after]
        rw [Activity.reports_append]
        refine ⟨?_, takes_answer setup k hrec hrest⟩
        rw [reader_answer]
        exact hsound

/-- **What one iteration takes**, whatever becomes of it. -/
theorem takes_run (setup : Setup) (k : Nat) {st : State} (hs : st.reader.source.Sound) :
    (run setup k st).state.reader.source.Sound ∧
    Takes setup.policy st.position (run setup k st).activity.reports
      (run setup k st).conclusion (run setup k st).state.position := by
  obtain ⟨hsound, ht⟩ := takes_body setup k hs
  unfold run
  dsimp only
  cases hc : (body setup k st).conclusion with
  | reported =>
    rw [hc] at ht
    refine ⟨hsound, ?_⟩
    simpa [hc, Activity.ofTrace] using ht
  | ended e =>
    rw [hc] at ht
    refine ⟨hsound, ?_⟩
    simpa [Activity.ofTrace] using ht.leave (.iteration k)

end Iteration

/-! ### A whole run -/

namespace Run

theorem Takes.leave {policy : OverflowPolicy} {p q : Position} {rs : List Report} {e : Ending}
    (h : Takes policy p rs e q) (s : Span) : Takes policy p rs (e.leave s).1 q := by
  induction h with
  | idle p => exact .idle p
  | last hi => exact .last (hi.leave s)
  | more hi _ ih => exact .more hi ih

theorem takes_loop (setup : Setup) (k : Nat) {st : State} (hs : st.reader.source.Sound) :
    (loop setup k st).state.reader.source.Sound ∧
    Takes setup.policy st.position (loop setup k st).activity.reports (loop setup k st).ending
      (loop setup k st).state.position := by
  fun_induction loop setup k st with
  | case1 k st hc => exact ⟨hs, .idle _⟩
  | case2 k st hc r h _ ih =>
    obtain ⟨hsound, ht⟩ := Iteration.takes_run setup (k + 1) hs
    rw [h] at ht
    obtain ⟨hsound', ht'⟩ := ih hsound
    exact ⟨hsound', .more ht ht'⟩
  | case3 k st hc r h =>
    obtain ⟨hsound, ht⟩ := Iteration.takes_run setup (k + 1) hs
    rw [h] at ht
    refine ⟨hsound, .last ?_⟩
    simpa [Activity.ofTrace] using ht
  | case4 k st hc r e _ h =>
    obtain ⟨hsound, ht⟩ := Iteration.takes_run setup (k + 1) hs
    rw [h] at ht
    exact ⟨hsound, .last ht⟩

/-- **What a run takes**, however it is cancelled. -/
theorem takes_start (setup : Setup) {st : State} (hs : st.reader.source.Sound) :
    (start setup st).state.reader.source.Sound ∧
    Takes setup.policy st.position (start setup st).activity.reports (start setup st).ending
      (start setup st).state.position := by
  obtain ⟨hsound, ht⟩ := takes_loop setup 0 hs
  refine ⟨hsound, ?_⟩
  simpa [start, Activity.ofTrace] using ht.leave .run

end Run

end TracedFibonacci
