import TracedFibonacci.Log.Console
import TracedFibonacci.Proofs.Log.Filter
import TracedFibonacci.Proofs.Log.Line
import TracedFibonacci.Proofs.Telemetry.Samples

/-!
# Reading a trace off the console

A console that shows all from the level of the spans upwards has a record for each event. From the
records as they are written one can tell the reports among them, whether they carry a value or an
overflow, and the samples of a metric, and so can count both. The counts are those of the trace
(`Console.reportLines_output`, `Console.sampleLines_output`).

Nothing here depends on the spans in which an event is told, nor on whether the console writes text
or JSON: two records that are written alike have one level, and one message begins the other.
Reports differ from everything else in the first letter of their message, and from one another in
the level.

## Records and lines

What is counted is records, each as a whole. That is more than somebody sees who has only the
characters: as text, a field that is written as it is can hold line ends, and a line inside of such
a record can look like one that was never logged. In JSON no record holds a line end
(`Console.newline_notMem_output`), and the records are the lines.
-/

namespace TracedFibonacci

/-! ### Events and entries -/

/-- The record for an event in full. -/
def Event.line (around : List Span) (e : Event) : Line :=
  { level := e.level, around, message := e.message, fields := e.fields }

/-- An event that is shown wherever spans are, and that is not mistaken for something else: what it
tells as a sample begins as one. -/
structure Event.Usual (e : Event) : Prop where
  /-- It is as grave as a span. -/
  level_le : e.level.verbosity ≤ Span.level.verbosity
  /-- A sample is one of a metric. -/
  sample : ∀ line, e = .sample line → Metrics.namePrefix <+: line.toList

namespace Event

/-- The report of which an event tells. -/
def report? : Event → Option Report
  | .reported r => some r
  | _ => none

/-- The sample that an event tells. -/
def sample? : Event → Option String
  | .sample line => some line
  | _ => none

end Event

/-- The event of which an entry tells. -/
def Entry.event? : Entry → Option Event
  | .logged _ e => some e
  | .opened _ | .closed _ | .reported _ => none

/-- The events of a trace. -/
def Trace.events (t : Trace) : List Event := t.filterMap Entry.event?

theorem Trace.events_cons (e : Entry) (t : Trace) :
    events (e :: t) = e.event?.toList ++ t.events := by
  rw [events, List.filterMap_cons]
  cases e.event? <;> rfl

theorem Trace.events_append (t u : Trace) : events (t ++ u) = t.events ++ u.events :=
  List.filterMap_append

theorem Trace.events_logged (around : List Span) (es : List Event) :
    events (es.map (.logged around)) = es := by
  induction es with
  | nil => rfl
  | cons e es ih => exact congrArg (e :: ·) ih

/-! ### Telling messages apart -/

theorem Report.exists_line_eq_cons (r : Report) : ∃ cs, r.line.toList = 'F' :: cs := by
  unfold Report.line
  split <;> simp

namespace Event

variable {e : Event}

/-- The first letter of a message tells whether it is that of a report. -/
theorem Usual.exists_message_eq_cons (h : e.Usual) :
    ∃ c cs, e.message.toList = c :: cs ∧ c ≠ 'a' ∧ (c = 'F' → ∃ r, e = .reported r) := by
  cases e with
  | reported r =>
    obtain ⟨cs, hcs⟩ := r.exists_line_eq_cons
    exact ⟨'F', cs, hcs, by decide, fun _ ↦ ⟨r, rfl⟩⟩
  | sample line =>
    obtain ⟨cs, hcs⟩ := h.sample line rfl
    exact ⟨'f', _, hcs.symm, by decide, fun h ↦ absurd h (by decide)⟩
  | _ => simp [message]

/-- Nothing but a sample begins as one. -/
theorem exists_eq_sample {x : List Char}
    (h : Metrics.namePrefix <+: e.message.toList ++ x) : ∃ line, e = .sample line := by
  cases e with
  | reported r =>
    obtain ⟨cs, hcs⟩ := r.exists_line_eq_cons
    simp [Metrics.namePrefix, message, hcs] at h
  | sample line => exact ⟨line, rfl⟩
  | _ => simp [Metrics.namePrefix, message] at h

end Event

namespace Console

variable {c : Console}

/-! ### What is written -/

/-- An event as the console writes it, in full and inside some spans. -/
def told (c : Console) (around : List Span) (e : Event) : String := c.write (e.line around)

/-- The console shows what comes from this program and is as grave as a span. -/
def IsOpen (c : Console) : Prop :=
  ∃ l : Level, Span.level.verbosity ≤ l.verbosity ∧ c.filter = .own (.upTo l)

/-- An open console has a record for each usual event. -/
theorem line?_logged (hc : c.IsOpen) {e : Event} (he : e.level.verbosity ≤ Span.level.verbosity)
    (openSpans around : List Span) :
    c.line? openSpans (.logged around e) = some (e.line around) := by
  obtain ⟨l, hl, hfilter⟩ := hc
  have hevent : (Threshold.upTo l).admits e.level = true := decide_eq_true (Nat.le_trans he hl)
  have hspan : (Threshold.upTo l).admits Span.level = true := decide_eq_true hl
  rw [line?, Line.ofEvent?, hfilter, Filter.showsEvent_own, if_pos hevent,
    Filter.shownSpans_own hspan]
  rfl

/-- The record for the end of a span says nothing but that. -/
theorem message_of_closed {openSpans : List Span} {s : Span} {l : Line}
    (h : c.line? openSpans (.closed s) = some l) : l.message = "close" := by
  rw [line?, Line.ofEnd?] at h
  split_ifs at h
  exact Option.some.inj h ▸ rfl

/-- Records that are written alike are alike, unless a message could be a span. -/
theorem alike_of_write_eq {l l' : Line} (h : c.write l = c.write l')
    (hl : l.message.toList.head? ≠ some 'a') (hl' : l'.message.toList.head? ≠ some 'a') :
    l.Alike l' := by
  unfold write at h
  split at h
  · exact Line.alike_of_json_eq h
  · exact Line.alike_of_text_eq h hl hl'

/-- The records that the console writes for a trace inside some open spans. -/
def written (c : Console) (openSpans : List Span) (t : Trace) : List String :=
  (c.transcript openSpans t).filterMap (·.2)

theorem written_cons (openSpans : List Span) (e : Entry) (t : Trace) :
    c.written openSpans (e :: t) =
      ((c.line? openSpans e).map c.write).toList ++ c.written (openAfter openSpans e) t := by
  rw [written, transcript, List.filterMap_cons]
  cases c.line? openSpans e <;> rfl

theorem exists_write_of_mem_written {openSpans : List Span} {t : Trace} {s : String}
    (h : s ∈ c.written openSpans t) : ∃ l, s = c.write l := by
  induction t generalizing openSpans with
  | nil => simp [written, transcript] at h
  | cons e t ih =>
    rw [written_cons, List.mem_append] at h
    rcases h with h | h
    · obtain ⟨l, -, rfl⟩ := Option.map_eq_some_iff.1 (Option.mem_toList.1 h)
      exact ⟨l, rfl⟩
    · exact ih h

/-- **In JSON each record of an output is one line.** -/
theorem newline_notMem_output (hjson : c.json = true) {t : Trace} {s : String}
    (h : s ∈ c.output t) : '\n' ∉ s.toList := by
  obtain ⟨l, rfl⟩ := exists_write_of_mem_written h
  rw [write, if_pos hjson]
  exact l.newline_notMem_json

theorem written_append (openSpans : List Span) (t u : Trace) :
    c.written openSpans (t ++ u) =
      c.written openSpans t ++ c.written (t.foldl openAfter openSpans) u := by
  induction t generalizing openSpans with
  | nil => rfl
  | cons e t ih => rw [List.cons_append, written_cons, written_cons, ih, List.append_assoc]; rfl

theorem written_logged (hc : c.IsOpen) {es : List Event}
    (hes : ∀ e ∈ es, e.level.verbosity ≤ Span.level.verbosity) (openSpans : List Span) :
    c.written openSpans (es.map (.logged [])) = es.map (c.told []) := by
  induction es with
  | nil => rfl
  | cons e es ih =>
    rw [List.forall_mem_cons] at hes
    rw [List.map_cons, written_cons, line?_logged hc hes.1]
    exact congrArg _ (ih hes.2)

/-- Events that are logged after a trace outside of all spans are written after it. -/
theorem output_append_logged (hc : c.IsOpen) {es : List Event}
    (hes : ∀ e ∈ es, e.level.verbosity ≤ Span.level.verbosity) (t : Trace) :
    c.output (t ++ es.map (.logged [])) = c.output t ++ es.map (c.told []) :=
  (written_append [] t _).trans (congrArg _ (written_logged hc hes _))

/-- **Counting records is counting events**, if the records that count are those of the events that
do, and none is that of the end of a span. -/
theorem countP_output (hc : c.IsOpen) {P : String → Prop} [DecidablePred P] {q : Event → Bool}
    (hevent : ∀ around e, e.Usual → (P (c.told around e) ↔ q e = true))
    (hend : ∀ openSpans s l, c.line? openSpans (.closed s) = some l → ¬P (c.write l))
    {t : Trace} (ht : ∀ e ∈ t.events, e.Usual) :
    (c.output t).countP P = t.events.countP q := by
  suffices hwritten : ∀ openSpans, (c.written openSpans t).countP P = t.events.countP q from
    hwritten []
  induction t with
  | nil => exact fun _ ↦ rfl
  | cons e t ih =>
    intro openSpans
    rw [Trace.events_cons, List.forall_mem_append] at ht
    rw [written_cons, Trace.events_cons, List.countP_append, List.countP_append, ih ht.2]
    congr 1
    cases e with
    | opened | reported => rfl
    | closed s =>
      cases hl : c.line? openSpans (.closed s) with
      | none => rfl
      | some l => simp [hend openSpans s l hl, Entry.event?]
    | logged around e =>
      have he : e.Usual := ht.1 e List.mem_cons_self
      have hP := hevent around e he
      rw [told] at hP
      rw [line?_logged hc he.level_le]
      simp [List.countP_cons, hP, Entry.event?]

/-! ### Reports -/

/-- A record tells of a report, with a value or with an overflow. -/
def TellsReport (c : Console) (ok : Bool) (s : String) : Prop :=
  ∃ around r, r.isOk = ok ∧ s = c.told around (.reported r)

open Classical in
/-- How many records of an output tell of a report, with a value or with an overflow. -/
noncomputable def reportLines (c : Console) (ok : Bool) (output : List String) : Nat :=
  output.countP (c.TellsReport ok ·)

/-- What is written like a report has the level of the report, and says something that begins like
it. -/
theorem head?_of_write_eq_told {l : Line} {around : List Span} {r : Report}
    (h : c.write l = c.told around (.reported r)) (hl : l.message.toList.head? ≠ some 'a')
    (hne : l.message.toList ≠ []) :
    l.level = (Event.reported r).level ∧ l.message.toList.head? = some 'F' := by
  obtain ⟨cs, hcs⟩ := r.exists_line_eq_cons
  have hr : ((Event.reported r).line around).message.toList.head? = some 'F' := by
    rw [Event.line, Event.message, hcs]
    rfl
  obtain ⟨hlevel, x, y, hmessage, -, -⟩ := alike_of_write_eq h hl (by rw [hr]; decide)
  have hhead := congrArg List.head? hmessage
  obtain ⟨ch, cs', hcs'⟩ := List.exists_cons_of_ne_nil hne
  rw [Event.line, Event.message, hcs, hcs'] at hhead
  rw [hcs']
  exact ⟨hlevel, hhead⟩

/-- **A report is told from everything else**, and one with a value from one with an overflow. -/
theorem tellsReport_told_iff {e : Event} (he : e.Usual) {around : List Span} {ok : Bool} :
    c.TellsReport ok (c.told around e) ↔ ∃ r, e = .reported r ∧ r.isOk = ok := by
  constructor
  · rintro ⟨around', r, rfl, h⟩
    obtain ⟨ch, cs, hcs, hch, hF⟩ := he.exists_message_eq_cons
    have hmessage : (e.line around).message.toList = ch :: cs := hcs
    obtain ⟨hlevel, hhead⟩ := head?_of_write_eq_told h
      (by rw [hmessage]; simpa using hch) (by rw [hmessage]; simp)
    rw [hmessage] at hhead
    obtain ⟨r', rfl⟩ := hF (Option.some.inj hhead)
    refine ⟨r', rfl, ?_⟩
    simp only [Event.line, Event.level] at hlevel
    cases hr' : r'.isOk <;> cases hr : r.isOk <;> simp_all
  · rintro ⟨r, rfl, hr⟩
    exact ⟨around, r, hr, rfl⟩

theorem not_tellsReport_of_closed {openSpans : List Span} {s : Span} {l : Line} {ok : Bool}
    (hl : c.line? openSpans (.closed s) = some l) : ¬c.TellsReport ok (c.write l) := by
  rintro ⟨around, r, -, h⟩
  have hmessage := message_of_closed hl
  obtain ⟨-, hhead⟩ := head?_of_write_eq_told h
    (by rw [hmessage]; decide) (by rw [hmessage]; decide)
  rw [hmessage] at hhead
  exact absurd hhead (by decide)

/-- **The reports on the console are those of the trace.** -/
theorem reportLines_output (hc : c.IsOpen) {t : Trace} (ht : ∀ e ∈ t.events, e.Usual) (ok : Bool) :
    c.reportLines ok (c.output t) =
      (t.events.filterMap Event.report?).countP (·.isOk == ok) := by
  classical
  rw [reportLines, List.countP_filterMap]
  refine countP_output hc (fun around e he ↦ ?_) (fun _ _ _ ↦ not_tellsReport_of_closed) ht
  rw [tellsReport_told_iff he]
  cases e <;> simp [Event.report?]

/-! ### Samples -/

/-- A record tells a sample, which is a line of the page of metrics. -/
def TellsSample (c : Console) (line s : String) : Prop :=
  ∃ around, s = c.told around (.sample line)

open Classical in
/-- How many records of an output tell a sample. -/
noncomputable def sampleLines (c : Console) (line : String) (output : List String) : Nat :=
  output.countP (c.TellsSample line ·)

/-- What is written like a sample begins like it. -/
theorem exists_append_eq_of_write_eq_told {l : Line} {around : List Span} {line : String}
    (h : c.write l = c.told around (.sample line)) (hl : l.message.toList.head? ≠ some 'a')
    (hline : Metrics.namePrefix <+: line.toList) :
    ∃ x, l.message.toList ++ x = line.toList ∧ (l.fields = [] → x = []) := by
  obtain ⟨z, hz⟩ := hline
  have hs : ((Event.sample line).line around).message.toList.head? ≠ some 'a' := by
    rw [Event.line, Event.message, ← hz]
    simp [Metrics.namePrefix]
  obtain ⟨-, x, y, hmessage, hx, hy⟩ := alike_of_write_eq h hl hs
  refine ⟨x, ?_, hx⟩
  rw [hmessage, hy rfl, List.append_nil]
  rfl

/-- **A sample is told from everything else.** -/
theorem tellsSample_told_iff {e : Event} (he : e.Usual) {around : List Span} {line : String}
    (hline : Metrics.namePrefix <+: line.toList) :
    c.TellsSample line (c.told around e) ↔ e = .sample line := by
  constructor
  · rintro ⟨around', h⟩
    obtain ⟨ch, cs, hcs, hch, -⟩ := he.exists_message_eq_cons
    obtain ⟨x, hx, hfields⟩ := exists_append_eq_of_write_eq_told h
      (by rw [Event.line, hcs]; simpa using hch) hline
    obtain ⟨line', rfl⟩ : ∃ line', e = .sample line' := Event.exists_eq_sample (hx ▸ hline)
    rw [hfields rfl, List.append_nil] at hx
    exact congrArg _ (String.toList_inj.1 hx)
  · rintro rfl
    exact ⟨around, rfl⟩

theorem not_tellsSample_of_closed {openSpans : List Span} {s : Span} {l : Line} {line : String}
    (hl : c.line? openSpans (.closed s) = some l) (hline : Metrics.namePrefix <+: line.toList) :
    ¬c.TellsSample line (c.write l) := by
  rintro ⟨around, h⟩
  have hmessage := message_of_closed hl
  obtain ⟨x, hx, -⟩ := exists_append_eq_of_write_eq_told h (by rw [hmessage]; decide) hline
  rw [← hx, hmessage] at hline
  simp [Metrics.namePrefix] at hline

/-- **The samples on the console are those of the trace.** -/
theorem sampleLines_output (hc : c.IsOpen) {t : Trace} (ht : ∀ e ∈ t.events, e.Usual)
    {line : String} (hline : Metrics.namePrefix <+: line.toList) :
    c.sampleLines line (c.output t) = (t.events.filterMap Event.sample?).count line := by
  classical
  rw [sampleLines, List.count_eq_countP, List.countP_filterMap]
  refine countP_output hc (fun around e he ↦ ?_)
    (fun _ _ _ hl ↦ not_tellsSample_of_closed hl hline) ht
  rw [tellsSample_told_iff he hline]
  cases e <;> simp [Event.sample?]

end Console

end TracedFibonacci
