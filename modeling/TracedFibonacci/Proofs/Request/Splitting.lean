import TracedFibonacci.Request.Reader
import TracedFibonacci.Proofs.Request.Delivery
import TracedFibonacci.Proofs.Text.Utf8

/-!
# A reader as a splitter of bytes

A reader polled over and over gives the same answers as one who has the whole byte string from the
start and cuts it after each newline. `Request.answer` is that one: its answer number `i` depends on
piece number `i` and on how many of the pieces before it are text, and on nothing else.

## Two steps

* `complete_eq` takes the waits out of one poll: a source that flows completes exactly one piece.
  It is an induction over the attempts, with the bytes in hand as the part that changes.
* `polls_eq` goes from one poll to any number. A poll leaves the reader with the remaining pieces
  and the new count of lines, so the answers behind it are those of the splitter one further on
  (`answer_cons_succ`).
-/

namespace TracedFibonacci

open Request Text Source

namespace Source

/-- **One poll takes one piece**, through every wait. -/
theorem complete_eq {taken : List UInt8} {s : Source} (hs : s.Flowing) (ht : newline ∉ taken) :
    ∃ s' : Source, complete taken s = (some (.line (cut (taken ++ s.bytes)).1), s') ∧
      s'.bytes = (cut (taken ++ s.bytes)).2 ∧ s'.Flowing := by
  have hb := bytes_readLine hs.toRegular ht
  fun_induction complete taken s with
  | case1 taken s bs h =>
    rw [h] at hb
    dsimp only at hb
    rw [hb]
    exact ⟨_, rfl, rfl, hs.readLine taken⟩
  | case2 taken s f h =>
    exact absurd ((origin_readLine taken s).2.1 f h) (hs.no_fault f)
  | case3 taken s t h =>
    exact absurd ((origin_readLine taken s).2.2.1 t h) hs.no_stall
  | case4 taken s t w hw h _ ih =>
    rw [h] at hb
    obtain ⟨ht', hsum⟩ := hb
    -- a wait that ends is no byte
    have hgive : ((readLine taken s).source.giveUp w).bytes = (readLine taken s).source.bytes := by
      cases w with
      | turn => rfl
      | sleep ms => rfl
      | forever => exact (hw rfl).elim
    rw [hgive] at hsum
    rw [← hsum]
    exact ih (hs.readLine taken) ht' (bytes_readLine (hs.readLine taken).toRegular ht')

end Source

/-- The answers to so many polls, each with the number of lines read by then. -/
def Reader.polls : Nat → Reader → List (Option (Except RequestError UInt64) × Nat)
  | 0, _ => []
  | n + 1, r => (r.poll.1, r.poll.2.lines) :: polls n r.poll.2

/-- The number of the line that an error tells of. -/
def RequestError.line? : RequestError → Option Nat
  | .malformed line _ | .outOfRange line _ | .missingNewline line _ => some line
  | .closed | .unreadable _ => none

namespace Request

/-- Whether a piece is text. -/
def isText (p : List UInt8) : Bool := (Utf8.decode p).isOk

/-- The answer of a splitter that has the pieces `ps` before it and `lines` lines behind it, to its
call number `i`, and the number of lines read after it. -/
def answer (lines : Nat) (ps : List (List UInt8)) (i : Nat) : Except RequestError UInt64 × Nat :=
  Reader.receive (lines + (ps.take i).countP isText) (ps[i]?.getD [])

/-- What a splitter with the pieces `ps` before it makes of each of them. -/
def readings (lines : Nat) (ps : List (List UInt8)) : List (Except RequestError UInt64) :=
  (List.range ps.length).map fun i ↦ (answer lines ps i).1

/-- What a splitter may answer when the lines before its next piece are so many. A piece that is
not text is answered by an error whose text is left open. -/
inductive Replies (before : Nat) :
    Option (List UInt8) → Except RequestError UInt64 × Nat → Prop
  /-- There is no further piece. -/
  | closed : Replies before none (.error .closed, before)
  /-- The piece is not text, and counts as no line. -/
  | unreadable (p : List UInt8) (text? : Option String) :
    (∀ raw, Utf8.encode raw ≠ p) →
      Replies before (some p) (.error (.unreadable ⟨.invalidData, text?⟩), before)
  /-- The piece is text, and is read as the line after those before it. -/
  | line (raw : String) :
    Replies before (some (Utf8.encode raw)) (parse (before + 1) raw, before + 1)

/-! ### What a piece comes to -/

theorem isText_iff {p : List UInt8} : isText p = true ↔ ∃ raw, Utf8.encode raw = p := by
  rw [isText]
  cases h : Utf8.decode p with
  | ok raw => exact ⟨fun _ ↦ ⟨raw, Utf8.decode_eq_ok_iff.1 h⟩, fun _ ↦ rfl⟩
  | error f =>
    refine ⟨fun hf ↦ absurd hf (by simp [Except.isOk, Except.toBool]), fun ⟨raw, hraw⟩ ↦ ?_⟩
    rw [Utf8.decode_eq_ok_iff.2 hraw] at h
    contradiction

theorem receive_encode {lines : Nat} {raw : String} (h : Utf8.encode raw ≠ []) :
    Reader.receive lines (Utf8.encode raw) = (parse (lines + 1) raw, lines + 1) := by
  rw [Reader.receive, if_neg (by simpa using h), Utf8.decode_eq_ok_iff.2 rfl]

theorem receive_of_forall {lines : Nat} {p : List UInt8} (hp : p ≠ [])
    (h : ∀ raw, Utf8.encode raw ≠ p) :
    ∃ text?, Reader.receive lines p = (.error (.unreadable ⟨.invalidData, text?⟩), lines) := by
  obtain ⟨f, hf⟩ := Utf8.exists_fault_of_forall h
  rw [Reader.receive, if_neg (by simpa using hp), hf]
  exact ⟨_, rfl⟩

/-- A piece raises the number of lines by one when it is text. -/
theorem receive_snd {lines : Nat} {p : List UInt8} (hp : p ≠ []) :
    (Reader.receive lines p).2 = lines + if isText p then 1 else 0 := by
  rw [Reader.receive, if_neg (by simpa using hp), isText]
  cases Utf8.decode p <;> rfl

/-- An error that tells of a line tells of the one that was read. -/
theorem line?_of_parse {line : Nat} {raw : String} {e : RequestError}
    (h : parse line raw = .error e) : e.line? = some line := by
  rw [parse] at h
  split at h
  · cases h; rfl
  · split at h
    · cases h; rfl
    · split at h
      · contradiction
      · cases h; rfl

/-! ### The answers of a splitter -/

theorem answer_nil (lines i : Nat) : answer lines [] i = (.error .closed, lines) := by
  simp [answer, Reader.receive]

theorem answer_zero (lines : Nat) (p : List UInt8) (ps : List (List UInt8)) :
    answer lines (p :: ps) 0 = Reader.receive lines p := by
  simp [answer]

/-- After its first piece, a splitter goes on with the rest of them. -/
theorem answer_cons_succ {lines : Nat} {p : List UInt8} (hp : p ≠ []) (ps : List (List UInt8))
    (i : Nat) :
    answer lines (p :: ps) (i + 1) = answer (Reader.receive lines p).2 ps i := by
  rw [receive_snd hp, answer, answer, List.take_succ_cons, List.countP_cons,
    List.getElem?_cons_succ]
  congr 1
  omega

theorem readings_cons {lines : Nat} {p : List UInt8} (hp : p ≠ []) (ps : List (List UInt8)) :
    readings lines (p :: ps) =
      (Reader.receive lines p).1 :: readings (Reader.receive lines p).2 ps := by
  rw [readings, List.length_cons, List.range_succ_eq_map, List.map_cons, List.map_map, answer_zero]
  simp [readings, answer_cons_succ hp, Function.comp_def]

/-- What a splitter receives of its next piece is what it may answer. -/
theorem replies_receive (before : Nat) {p : List UInt8} (hp : p ≠ []) :
    Replies before (some p) (Reader.receive before p) := by
  by_cases h : ∃ raw, Utf8.encode raw = p
  · obtain ⟨raw, rfl⟩ := h
    rw [receive_encode hp]
    exact .line raw
  · rw [not_exists] at h
    obtain ⟨text?, ht⟩ := receive_of_forall hp h
    rw [ht]
    exact .unreadable p text? h

theorem replies_answer (lines : Nat) (bs : List UInt8) (i : Nat) :
    Replies (lines + ((pieces bs).take i).countP isText) (pieces bs)[i]?
      (answer lines (pieces bs) i) := by
  rw [answer]
  cases h : (pieces bs)[i]? with
  | none => exact .closed
  | some p => exact replies_receive _ (ne_nil_of_mem_pieces (List.mem_of_getElem? h))

/-- An error that tells of a line tells of the next line. -/
theorem line?_of_receive {before : Nat} {p : List UInt8} {e : RequestError} {line : Nat}
    (h : (Reader.receive before p).1 = .error e) (hline : e.line? = some line) :
    line = before + 1 := by
  rcases eq_or_ne p [] with rfl | hp
  · obtain rfl : RequestError.closed = e := by simpa [Reader.receive] using h
    contradiction
  · have hr := replies_receive before hp
    generalize Reader.receive before p = x at h hr
    cases hr with
    | unreadable _ text? hraw =>
      obtain rfl : RequestError.unreadable ⟨.invalidData, text?⟩ = e := by simpa using h
      contradiction
    | line raw =>
      rw [line?_of_parse h] at hline
      exact (Option.some.inj hline).symm

/-- As long as every piece is text, lines are counted by their newlines. -/
theorem line?_of_answer {lines : Nat} {bs : List UInt8} {i : Nat} {e : RequestError} {line : Nat}
    (htext : ∀ p ∈ (pieces bs).take i, isText p = true)
    (h : (answer lines (pieces bs) i).1 = .error e) (hline : e.line? = some line) :
    line = lines + ((pieces bs).take i).flatten.count newline + 1 := by
  rw [answer] at h
  rw [line?_of_receive h hline, List.countP_eq_length.2 htext]
  have hi : i < (pieces bs).length := by
    by_contra hi
    rw [List.getElem?_eq_none (by omega)] at h
    obtain rfl : RequestError.closed = e := by simpa [Reader.receive] using h
    contradiction
  rw [count_newline_take_pieces hi, List.length_take_of_le (Nat.le_of_lt hi)]

/-! ### Any number of polls -/

theorem poll_eq {r : Reader} (hs : r.source.Flowing) :
    ∃ r' : Reader, r.poll = (some (Reader.receive r.lines (cut r.source.bytes).1).1, r') ∧
      r'.lines = (Reader.receive r.lines (cut r.source.bytes).1).2 ∧
      r'.source.bytes = (cut r.source.bytes).2 ∧ r'.source.Flowing := by
  obtain ⟨s', hc, hb, hs'⟩ := complete_eq hs (List.not_mem_nil (a := newline))
  rw [List.nil_append] at hc hb
  refine ⟨⟨s', (Reader.receive r.lines (cut r.source.bytes).1).2⟩, ?_, rfl, hb, hs'⟩
  rw [Reader.poll, hc]
  rfl

/-- Any number of polls, from any reader whose source flows. -/
theorem polls_eq {r : Reader} (hs : r.source.Flowing) (n : Nat) :
    r.polls n = (List.range n).map fun i ↦
      (some (answer r.lines (pieces r.source.bytes) i).1,
        (answer r.lines (pieces r.source.bytes) i).2) := by
  induction n generalizing r with
  | zero => rfl
  | succ n ih =>
    obtain ⟨r', hpoll, hlines, hbytes, hs'⟩ := poll_eq hs
    rw [Reader.polls, hpoll, ih hs', List.range_succ_eq_map, List.map_cons, List.map_map]
    dsimp only
    rcases eq_or_ne r.source.bytes [] with hb | hb
    · rw [hb] at hlines hbytes ⊢
      simp [hlines, hbytes, answer_nil, Reader.receive, Function.comp_def, List.map_const']
    · have hp := cut_ne_nil hb
      rw [hlines, hbytes, pieces_of_ne_nil hb, answer_zero]
      simp [answer_cons_succ hp, Function.comp_def]

/-- **A reader over a stream in chunks refines a splitter of the whole byte string.** Its answers
are one for each piece in order, and then the end of the stream for ever. A piece that is no text is
consumed without being counted; and while there was none, the line that an error tells of is the one
after as many newlines as stand before its piece. -/
theorem polls_refine_splitter {r : Reader} (hs : r.source.Flowing) (n : Nat) :
    r.polls n = (List.range n).map (fun i ↦
      (some (answer r.lines (pieces r.source.bytes) i).1,
        (answer r.lines (pieces r.source.bytes) i).2)) ∧
    (∀ i, Replies (r.lines + ((pieces r.source.bytes).take i).countP isText)
      (pieces r.source.bytes)[i]? (answer r.lines (pieces r.source.bytes) i)) ∧
    ∀ i e line, (∀ p ∈ (pieces r.source.bytes).take i, ∃ raw, Utf8.encode raw = p) →
      (answer r.lines (pieces r.source.bytes) i).1 = .error e → e.line? = some line →
        line = r.lines + ((pieces r.source.bytes).take i).flatten.count newline + 1 :=
  ⟨polls_eq hs n, replies_answer r.lines _, fun _ _ _ htext h hline ↦
    line?_of_answer (fun p hp ↦ isText_iff.2 (htext p hp)) h hline⟩

/-- A carriage return apart from its newline, a character torn in two between waits, a line that is
not text, and a last line without a newline, through a buffer of two bytes. -/
theorem polls_refine_splitter_torn :
    let r : Reader := ⟨{
      capacity := 2
      arrivals := [.bytes [55, 13], .pause, .bytes [10, 0xC3], .delay 3, .bytes [0xA9, 10, 0xFF],
        .pause, .bytes [10, 56]] }, 0⟩
    r.source.Flowing ∧
      r.polls 5 = [
        (some (.ok 7), 1),
        (some (.error (.malformed 2 "é")), 2),
        (some (.error (.unreadable ⟨.invalidData,
          some "invalid utf-8 sequence of 1 bytes from index 0"⟩)), 2),
        (some (.error (.missingNewline 3 "8")), 3),
        (some (.error .closed), 3)] := by
  intro r
  have hs : r.source.Flowing := ⟨⟨⟨by decide, by decide⟩, by simp [r]⟩, by decide⟩
  refine ⟨hs, ?_⟩
  rw [(polls_refine_splitter hs 5).1]
  decide +kernel

end Request

end TracedFibonacci
