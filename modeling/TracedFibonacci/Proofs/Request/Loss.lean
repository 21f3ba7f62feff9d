import TracedFibonacci.Proofs.Request.Events
import TracedFibonacci.Proofs.Request.Splitting
import TracedFibonacci.Run.Clock

/-!
# What an unfinished poll costs

A poll can be dropped at any of its waits, and a fault can end it. Either way it gives no line, and
what it had taken of one is lost. That is all that is lost: the beginning of one line
(`unfinished_poll_costs`).

## Why nothing else is lost, and nothing comes back

* A poll that has not ended has met no newline, neither in the buffer nor in the stream. So what it
  took is within one line (`takes_ask`).
* It has used up the buffer, and it begins with nothing in hand, however the one before it has
  ended. So whoever goes on with the reader has what a reader has who starts there: the number of
  lines, and the events to come. That these two decide everything is `Alike.call`.
* Each call takes its bytes from behind those of the call before it, and what it answers is made of
  its own bytes (`spent_calls`).

A call that is never dropped is a poll (`Reader.calls_replicate`), and one that is dropped as soon
as it waits is one attempt (`Reader.call_at_once`). Where a run gives up waiting, it has dropped a
call at one of its waits (`Clock.exists_ask_of_abandoned`).
-/

namespace TracedFibonacci

open Request Source

/-- Where a poll is dropped, if it gets there. -/
structure Drop where
  /-- So many waits are over. -/
  waits : Nat
  /-- The next one has lasted for so many milliseconds. -/
  elapsed : Nat
  deriving Repr, DecidableEq

/-- What is left of a wait after so many milliseconds. -/
def Wait.after (elapsed : Nat) : Wait → Wait
  | .turn => .turn
  | .sleep ms => .sleep (ms - elapsed)
  | .forever => .forever

namespace Source

/-- Goes on with the line that begins with `taken`, through every wait or until it is dropped. -/
def ask (drop? : Option Drop) (taken : List UInt8) (s : Source) : Option Outcome × Source :=
  match h : (readLine taken s).ended with
  | .line bs => (some (.line bs), (readLine taken s).source)
  | .fault f => (some (.fault f), (readLine taken s).source)
  | .waiting _ .forever => (none, (readLine taken s).source.giveUp .forever)
  | .waiting taken' w =>
    have := size_lt_of_waiting h
    match drop? with
    | none => ask none taken' (readLine taken s).source
    | some ⟨0, elapsed⟩ => (none, (readLine taken s).source.giveUp (w.after elapsed))
    | some ⟨waits + 1, elapsed⟩ => ask (some ⟨waits, elapsed⟩) taken' (readLine taken s).source
termination_by s.size

variable {drop? : Option Drop} {taken t bs : List UInt8} {s s' : Source} {w : Wait}

/-! ### The parts of a poll -/

theorem ask_of_line (h : (readLine taken s).ended = .line bs) :
    ask drop? taken s = (some (.line bs), (readLine taken s).source) := by
  rw [ask]
  split <;> simp_all

theorem ask_of_fault {f : Fault} (h : (readLine taken s).ended = .fault f) :
    ask drop? taken s = (some (.fault f), (readLine taken s).source) := by
  rw [ask]
  split <;> simp_all

theorem ask_of_forever (h : (readLine taken s).ended = .waiting t .forever) :
    ask drop? taken s = (none, (readLine taken s).source.giveUp .forever) := by
  rw [ask]
  split <;> simp_all

/-- A wait that ends is sat out, or the poll is dropped in the course of it. -/
theorem ask_of_waiting (h : (readLine taken s).ended = .waiting t w) (hw : w ≠ .forever) :
    ask drop? taken s =
      match drop? with
      | none => ask none t (readLine taken s).source
      | some ⟨0, elapsed⟩ => (none, (readLine taken s).source.giveUp (w.after elapsed))
      | some ⟨waits + 1, elapsed⟩ => ask (some ⟨waits, elapsed⟩) t (readLine taken s).source := by
  rw [ask]
  split <;> simp_all

/-- A poll that is dropped at its first wait, before any of it is over. -/
theorem ask_at_once (h : (readLine taken s).ended = .waiting t w) :
    ask (some ⟨0, 0⟩) taken s = (none, (readLine taken s).source.giveUp w) := by
  cases w with
  | turn => exact ask_of_waiting h (by simp)
  | sleep ms => exact ask_of_waiting h (by simp)
  | forever => exact ask_of_forever h

/-- A poll that is not dropped. -/
theorem ask_none (taken : List UInt8) (s : Source) : ask none taken s = complete taken s := by
  fun_induction complete taken s with
  | case1 taken s bs h => exact ask_of_line h
  | case2 taken s f h => exact ask_of_fault h
  | case3 taken s t h => exact ask_of_forever h
  | case4 taken s t w hw h _ ih => rw [ask_of_waiting h hw, ih]

/-! ### What is alike stays alike -/

theorem events_giveUp (h : s.buffer = []) (w : Wait) :
    (s.giveUp w).events = w.events ++ s.events := by
  rw [events, events, giveUp, h, Stream.events_append, Wait.events]
  rfl

/-- An attempt that has to wait has used up the buffer. -/
theorem buffer_of_waiting (h : (readLine taken s).ended = .waiting t w) :
    newline ∉ s.buffer ∧ (readLine taken s).source.buffer = [] :=
  buffer_readLine fun bs hbs ↦ by simp [h] at hbs

theorem Alike.giveUp_readLine (h : s.Alike s') (hw : (s.readLine taken).ended = .waiting t w)
    (w' : Wait) :
    ((s.readLine taken).source.giveUp w').Alike ((s'.readLine taken).source.giveUp w') := by
  obtain ⟨hended, hpos, hpos', hevents⟩ := h.readLine taken
  refine ⟨hpos, hpos', ?_⟩
  rw [events_giveUp (buffer_of_waiting hw).2, events_giveUp (buffer_of_waiting (hended ▸ hw)).2,
    hevents]

/-- **Sources that are alike answer alike** whoever asks them, and stay alike. -/
theorem Alike.ask (h : s.Alike s') (drop? : Option Drop) (taken : List UInt8) :
    (s.ask drop? taken).1 = (s'.ask drop? taken).1 ∧
      (s.ask drop? taken).2.Alike (s'.ask drop? taken).2 := by
  fun_induction Source.ask drop? taken s generalizing s' with
  | case1 drop? taken s bs hs =>
    obtain ⟨hended, halike⟩ := h.readLine taken
    rw [ask_of_line (hended ▸ hs)]
    exact ⟨rfl, halike⟩
  | case2 drop? taken s f hs =>
    obtain ⟨hended, halike⟩ := h.readLine taken
    rw [ask_of_fault (hended ▸ hs)]
    exact ⟨rfl, halike⟩
  | case3 drop? taken s t hs =>
    rw [ask_of_forever ((h.readLine taken).1 ▸ hs)]
    exact ⟨rfl, h.giveUp_readLine hs .forever⟩
  | case4 taken s t w hw hs _ ih =>
    obtain ⟨hended, halike⟩ := h.readLine taken
    rw [ask_of_waiting (s := s') (hended ▸ hs) hw]
    exact ih halike
  | case5 taken s t w hw hs _ elapsed =>
    rw [ask_of_waiting ((h.readLine taken).1 ▸ hs) hw]
    exact ⟨rfl, h.giveUp_readLine hs (w.after elapsed)⟩
  | case6 taken s t w hw hs _ waits elapsed ih =>
    obtain ⟨hended, halike⟩ := h.readLine taken
    rw [ask_of_waiting (s := s') (hended ▸ hs) hw]
    exact ih halike

/-! ### What a poll takes -/

theorem bytes_giveUp (h : s.buffer = []) (w : Wait) :
    (s.giveUp w).bytes = Stream.Event.bytes (.wait w :: s.events) := by
  rw [bytes_eq_events, events_giveUp h]
  cases w with
  | turn => rfl
  | sleep ms =>
    rw [Wait.events, Wait.arrival?, Option.toList, Stream.events_cons, Arrival.events]
    split <;> rfl
  | forever => rfl

/-- However long a wait has lasted, giving it up costs no byte. -/
theorem bytes_giveUp_after (h : s.buffer = []) (w : Wait) (elapsed : Nat) :
    (s.giveUp (w.after elapsed)).bytes = (s.giveUp w).bytes := by
  rw [bytes_giveUp h, bytes_giveUp h]
  cases w <;> rfl

/-- A wait that ends hides no byte. -/
theorem bytes_giveUp_of_ne (h : s.buffer = []) (hw : w ≠ .forever) :
    (s.giveUp w).bytes = s.bytes := by
  rw [bytes_giveUp h, bytes_eq_events]
  cases w with
  | turn => rfl
  | sleep ms => rfl
  | forever => exact absurd rfl hw

/-- What an attempt takes: no newline but the one that ends the line, and unless it completes one,
all that is in the buffer. -/
theorem takes_readLine (hcap : 0 < s.capacity) (taken : List UInt8) :
    match (readLine taken s).ended with
    | .line bs => ∃ t, bs = taken ++ t ∧ t ++ (readLine taken s).source.bytes = s.bytes ∧
        cut t = (t, [])
    | .fault _ => ∃ t, newline ∉ t ∧ s.buffer <+: t ∧
        t ++ (readLine taken s).source.bytes = s.bytes
    | .waiting t' w => ∃ t, t' = taken ++ t ∧ newline ∉ t ∧ s.buffer <+: t ∧
        t ++ ((readLine taken s).source.giveUp w).bytes = s.bytes := by
  have hread := read_events hcap taken
  -- Unless the attempt completes a line, it goes through the buffer first.
  have hbuffer : newline ∉ s.buffer →
      Stream.Event.read (taken ++ s.buffer) (Stream.events s.arrivals) =
        Stream.Event.read taken s.events :=
    fun h ↦ (Stream.Event.read_map_of_notMem h).symm
  have hbytes : s.bytes = s.buffer ++ Stream.Event.bytes (Stream.events s.arrivals) := by
    rw [bytes, Stream.bytes_events]
  cases hended : (readLine taken s).ended with
  | line bs =>
    have htakes := Stream.Event.takes_read taken s.events
    rw [hread, hended] at htakes
    simpa only [bytes_eq_events] using htakes
  | fault f =>
    have htakes := Stream.Event.takes_read (taken ++ s.buffer) (Stream.events s.arrivals)
    have hne : ∀ bs, (readLine taken s).ended ≠ .line bs := by simp [hended]
    have hn := (buffer_readLine hne).1
    rw [hbuffer hn, hread, hended] at htakes
    obtain ⟨t, ht, hsum⟩ := htakes
    refine ⟨s.buffer ++ t, by simp [hn, ht], List.prefix_append .., ?_⟩
    rw [hbytes, ← hsum, List.append_assoc, bytes_eq_events]
  | waiting t' w =>
    have htakes := Stream.Event.takes_read (taken ++ s.buffer) (Stream.events s.arrivals)
    obtain ⟨hn, hempty⟩ := buffer_of_waiting hended
    rw [hbuffer hn, hread, hended] at htakes
    obtain ⟨t, rfl, ht, hsum⟩ := htakes
    refine ⟨s.buffer ++ t, by simp, by simp [hn, ht], List.prefix_append .., ?_⟩
    rw [hbytes, ← hsum, List.append_assoc, bytes_giveUp hempty]

theorem capacity_ask (drop? : Option Drop) (taken : List UInt8) (s : Source) :
    (ask drop? taken s).2.capacity = s.capacity := by
  fun_induction ask drop? taken s with
  | case1 => exact capacity_readLine ..
  | case2 => exact capacity_readLine ..
  | case3 => exact capacity_readLine ..
  | case4 taken s t w hw hs _ ih => rw [ih, capacity_readLine]
  | case5 => exact capacity_readLine ..
  | case6 taken s t w hw hs _ waits elapsed ih => rw [ih, capacity_readLine]

/-- What a poll has taken when it ends so, begun with `taken` in hand. -/
structure Takes (taken : List UInt8) (s : Source) (x : Option Outcome × Source) : Prop where
  /-- It completes a line with bytes that have no newline but the last one. -/
  line : ∀ bs, x.1 = some (.line bs) →
    ∃ t, bs = taken ++ t ∧ t ++ x.2.bytes = s.bytes ∧ cut t = (t, [])
  /-- Or it has taken all that was in the buffer, and no newline. -/
  unfinished : (∀ bs, x.1 ≠ some (.line bs)) →
    x.2.buffer = [] ∧ ∃ t, newline ∉ t ∧ s.buffer <+: t ∧ t ++ x.2.bytes = s.bytes

/-- What a poll takes behind a wait goes behind what it has taken before. -/
theorem Takes.of_waiting {x : Option Outcome × Source} (hcap : 0 < s.capacity)
    (h : (readLine taken s).ended = .waiting t w) (hw : w ≠ .forever)
    (hx : Takes t (readLine taken s).source x) : Takes taken s x := by
  have htakes := takes_readLine (s := s) hcap taken
  rw [h] at htakes
  obtain ⟨before, rfl, hbefore, hprefix, hsum⟩ := htakes
  rw [bytes_giveUp_of_ne (buffer_of_waiting h).2 hw] at hsum
  constructor
  · intro bs hbs
    obtain ⟨t, rfl, hrest, hcut⟩ := hx.line bs hbs
    refine ⟨before ++ t, List.append_assoc .., ?_, ?_⟩
    · rw [List.append_assoc, hrest, hsum]
    · rw [cut_append_of_notMem hbefore, hcut]
  · intro hne
    obtain ⟨hempty, t, ht, -, hrest⟩ := hx.unfinished hne
    refine ⟨hempty, before ++ t, by simp [hbefore, ht], hprefix.trans (List.prefix_append ..), ?_⟩
    rw [List.append_assoc, hrest, hsum]

/-- **What a poll takes** has no newline but the one that ends its line. -/
theorem takes_ask (hcap : 0 < s.capacity) (drop? : Option Drop) (taken : List UInt8) :
    Takes taken s (ask drop? taken s) := by
  have htakes := takes_readLine (s := s) hcap taken
  fun_induction ask drop? taken s with
  | case1 drop? taken s bs h =>
    rw [h] at htakes
    refine ⟨fun bs' hbs ↦ ?_, fun hne ↦ absurd rfl (hne bs)⟩
    cases hbs
    exact htakes
  | case2 drop? taken s f h =>
    rw [h] at htakes
    exact ⟨by simp, fun _ ↦ ⟨(buffer_readLine (by simp [h])).2, htakes⟩⟩
  | case3 drop? taken s t h =>
    rw [h] at htakes
    obtain ⟨t', -, htakes⟩ := htakes
    exact ⟨by simp, fun _ ↦ ⟨(buffer_of_waiting h).2, t', htakes⟩⟩
  | case4 taken s t w hw h _ ih =>
    have hcap' := (capacity_readLine taken s).symm ▸ hcap
    exact .of_waiting hcap h hw (ih hcap' (takes_readLine hcap' t))
  | case5 taken s t w hw h _ elapsed =>
    rw [h] at htakes
    obtain ⟨t', -, htakes⟩ := htakes
    rw [← bytes_giveUp_after (buffer_of_waiting h).2 w elapsed] at htakes
    exact ⟨by simp, fun _ ↦ ⟨(buffer_of_waiting h).2, t', htakes⟩⟩
  | case6 taken s t w hw h _ waits elapsed ih =>
    have hcap' := (capacity_readLine taken s).symm ▸ hcap
    exact .of_waiting hcap h hw (ih hcap' (takes_readLine hcap' t))

end Source

/-! ### Readers -/

namespace Reader

variable {r r' : Reader} {drop? : Option Drop}

/-- Asks for the next request, through every wait or until it is dropped. -/
def call (drop? : Option Drop) (r : Reader) : Option (Except RequestError UInt64) × Reader :=
  match r.source.ask drop? [] with
  | (some o, s) => ((r.conclude o s).1, (r.conclude o s).2)
  | (none, s) => (none, { r with source := s })

/-- The answers to some calls, each with the number of lines read by then. -/
def calls : List (Option Drop) → Reader → List (Option (Except RequestError UInt64) × Nat)
  | [], _ => []
  | drop? :: rest, r => ((r.call drop?).1, (r.call drop?).2.lines) :: calls rest (r.call drop?).2

/-- The call is dropped while it waits, or fails as a read of the stream does. -/
def Unfinished (drop? : Option Drop) (r : Reader) : Prop :=
  (r.source.ask drop? []).1 = none ∨ ∃ f, (r.source.ask drop? []).1 = some (.fault f)

instance (drop? : Option Drop) (r : Reader) : Decidable (r.Unfinished drop?) :=
  match h : (r.source.ask drop? []).1 with
  | none => .isTrue (.inl h)
  | some (.fault f) => .isTrue (.inr ⟨f, h⟩)
  | some (.line bs) => .isFalse (by simp [Unfinished, h])

theorem call_none (r : Reader) : r.call none = r.poll := by
  rcases h : r.source.complete [] with ⟨_ | o, s⟩ <;> simp [call, poll, ask_none, h]

theorem calls_replicate (n : Nat) (r : Reader) : r.calls (List.replicate n none) = r.polls n := by
  induction n generalizing r with
  | zero => rfl
  | succ n ih => rw [List.replicate_succ, calls, polls, ih, call_none]

theorem call_at_once (r : Reader) : r.call (some ⟨0, 0⟩) = r.pollOnce := by
  rw [call, pollOnce]
  cases h : (r.source.readLine []).ended with
  | line bs => rw [ask_of_line h]
  | fault f => rw [ask_of_fault h]
  | waiting t w => rw [ask_at_once h]

/-! ### Readers that are alike -/

/-- Two readers that have read so many lines, from which the same is still to come. -/
structure Alike (r r' : Reader) : Prop where
  /-- The numbers of lines are the same. -/
  lines_eq : r.lines = r'.lines
  /-- The sources are alike. -/
  source : r.source.Alike r'.source

/-- **Readers that are alike answer alike**, and stay alike. -/
theorem Alike.call (h : r.Alike r') (drop? : Option Drop) :
    (r.call drop?).1 = (r'.call drop?).1 ∧ (r.call drop?).2.Alike (r'.call drop?).2 := by
  obtain ⟨houtcome, halike⟩ := h.source.ask drop? []
  have hlines := h.lines_eq
  rw [Reader.call, Reader.call]
  generalize r.source.ask drop? [] = x at houtcome halike ⊢
  generalize r'.source.ask drop? [] = y at houtcome halike ⊢
  obtain ⟨outcome, s⟩ := x
  obtain ⟨outcome', s'⟩ := y
  obtain rfl : outcome = outcome' := houtcome
  match outcome with
  | none => exact ⟨rfl, hlines, halike⟩
  | some (.fault f) => exact ⟨rfl, hlines, halike⟩
  | some (.line bs) =>
    simp only [conclude, hlines]
    exact ⟨trivial, rfl, halike⟩

theorem Alike.calls (h : r.Alike r') (ds : List (Option Drop)) : r.calls ds = r'.calls ds := by
  induction ds generalizing r r' with
  | nil => rfl
  | cons drop? ds ih =>
    obtain ⟨hanswer, halike⟩ := h.call drop?
    rw [Reader.calls, Reader.calls, hanswer, halike.lines_eq, ih halike]

/-! ### What each call takes -/

/-- What a call makes of the bytes it takes, when so many lines were read before: a line of them, or
nothing. It answers with the number of lines read by then. -/
inductive Spends (lines : Nat) :
    List UInt8 → Option (Except RequestError UInt64) × Nat → Prop
  /-- It answers what they come to, without a newline but at their end. -/
  | line {t : List UInt8} (h : cut t = (t, [])) :
      Spends lines t (some (receive lines t).1, (receive lines t).2)
  /-- It fails as a read of the stream does, within a line. -/
  | fault {t : List UInt8} (f : Fault) (h : newline ∉ t) :
      Spends lines t (some (.error (.unreadable f)), lines)
  /-- It is dropped within a line. -/
  | dropped {t : List UInt8} (h : newline ∉ t) : Spends lines t (none, lines)

/-- What each of some calls makes of the bytes it takes. -/
inductive Spent : Nat → List (List UInt8) →
    List (Option (Except RequestError UInt64) × Nat) → Prop
  /-- There is no call. -/
  | nil {lines : Nat} : Spent lines [] []
  /-- The calls behind a call find the lines that it has left. -/
  | cons {lines : Nat} {t : List UInt8} {x : Option (Except RequestError UInt64) × Nat}
      {ts : List (List UInt8)} {xs : List (Option (Except RequestError UInt64) × Nat)}
      (head : Spends lines t x) (tail : Spent x.2 ts xs) : Spent lines (t :: ts) (x :: xs)

theorem capacity_call (drop? : Option Drop) (r : Reader) :
    (r.call drop?).2.source.capacity = r.source.capacity := by
  have hcap := capacity_ask drop? [] r.source
  rw [call]
  generalize r.source.ask drop? [] = x at hcap ⊢
  rcases x with ⟨_ | ⟨bs⟩ | f, s⟩ <;> exact hcap

/-- A call takes some bytes and leaves the rest in order. -/
theorem spends_call (hcap : 0 < r.source.capacity) (drop? : Option Drop) :
    ∃ t, Spends r.lines t ((r.call drop?).1, (r.call drop?).2.lines) ∧
      t ++ (r.call drop?).2.source.bytes = r.source.bytes := by
  have htakes := takes_ask hcap drop? []
  rw [call]
  generalize r.source.ask drop? [] = x at htakes ⊢
  rcases x with ⟨_ | ⟨bs⟩ | f, s⟩
  · obtain ⟨-, t, ht, -, hsum⟩ := htakes.unfinished (by simp)
    exact ⟨t, .dropped ht, hsum⟩
  · obtain ⟨_, rfl, hsum, hcut⟩ := htakes.line bs rfl
    exact ⟨_, .line hcut, hsum⟩
  · obtain ⟨-, t, ht, -, hsum⟩ := htakes.unfinished (by simp)
    exact ⟨t, .fault f ht, hsum⟩

/-- **Each of some calls answers from its own bytes**, and these stand behind those of the calls
before it. -/
theorem spent_calls (hcap : 0 < r.source.capacity) (ds : List (Option Drop)) :
    ∃ ts, Spent r.lines ts (r.calls ds) ∧ ts.flatten <+: r.source.bytes := by
  induction ds generalizing r with
  | nil => exact ⟨[], .nil, List.nil_prefix⟩
  | cons drop? ds ih =>
    obtain ⟨t, ht, hsum⟩ := spends_call hcap drop?
    obtain ⟨ts, hts, hprefix⟩ := ih (r := (r.call drop?).2) ((capacity_call drop? r).symm ▸ hcap)
    refine ⟨t :: ts, .cons ht hts, ?_⟩
    rw [List.flatten_cons, ← hsum]
    exact (List.prefix_append_right_inj t).mpr hprefix

/-! ### Unfinished polls -/

/-- What an unfinished poll leaves: the number of lines, an empty buffer, and what is behind the
beginning of a line. -/
theorem Unfinished.leaves (h : r.Unfinished drop?) (hcap : 0 < r.source.capacity) :
    (r.call drop?).2.lines = r.lines ∧ (r.call drop?).2.source.buffer = [] ∧
      ∃ t, newline ∉ t ∧ r.source.buffer <+: t ∧
        t ++ (r.call drop?).2.source.bytes = r.source.bytes := by
  have htakes := takes_ask hcap drop? []
  rw [Unfinished] at h
  rw [call]
  generalize r.source.ask drop? [] = x at h htakes ⊢
  rcases x with ⟨_ | ⟨bs⟩ | f, s⟩
  · exact ⟨rfl, htakes.unfinished (by simp)⟩
  · simp at h
  · exact ⟨rfl, htakes.unfinished (by simp)⟩

/-- **An unfinished poll costs the beginning of one line and nothing else.** If a poll is dropped
while it waits, or fails as a read of the stream does, then

* the number of lines is what it was;
* the bytes it took are the first of those that were unread, with all that was in the buffer. There
  is no newline among them, so the first piece of what was unread loses its beginning at most,
  and the pieces behind it are what they were;
* any calls from then on, polls or polls that are dropped in their turn, are answered as they are by
  a fresh reader with this number of lines, however the stream behind those bytes is cut into chunks
  for it. If that stream flows, polls are answered as by a splitter of the bytes that are left;
* each of these calls answers from bytes of its own, which stand behind the lost ones and behind
  those of the calls before it. -/
theorem unfinished_poll_costs (hcap : 0 < r.source.capacity) (h : r.Unfinished drop?) :
    (r.call drop?).2.lines = r.lines ∧
    (∃ t, newline ∉ t ∧ r.source.buffer <+: t ∧
      t ++ (r.call drop?).2.source.bytes = r.source.bytes ∧
      cut r.source.bytes = (t ++ (cut (r.call drop?).2.source.bytes).1,
        (cut (r.call drop?).2.source.bytes).2)) ∧
    (∀ fresh : Reader, fresh.lines = r.lines → 0 < fresh.source.capacity →
      fresh.source.buffer = [] →
      Stream.events fresh.source.arrivals = Stream.events (r.call drop?).2.source.arrivals →
      ∀ ds, (r.call drop?).2.calls ds = fresh.calls ds) ∧
    ((r.call drop?).2.source.Flowing → ∀ n, (r.call drop?).2.polls n = (List.range n).map fun i ↦
      (some (answer r.lines (pieces (r.call drop?).2.source.bytes) i).1,
        (answer r.lines (pieces (r.call drop?).2.source.bytes) i).2)) ∧
    ∀ ds, ∃ ts, Spent r.lines ts ((r.call drop?).2.calls ds) ∧
      ts.flatten <+: (r.call drop?).2.source.bytes := by
  obtain ⟨hlines, hempty, t, ht, hprefix, hsum⟩ := h.leaves hcap
  have hcap' : 0 < (r.call drop?).2.source.capacity := (capacity_call drop? r).symm ▸ hcap
  refine ⟨hlines, ⟨t, ht, hprefix, hsum, ?_⟩, fun fresh hfresh hpos hnothing hevents ds ↦ ?_,
    fun hflow n ↦ ?_, fun ds ↦ ?_⟩
  · rw [← hsum, cut_append_of_notMem ht]
  · refine Alike.calls ⟨hlines.trans hfresh.symm, hcap', hpos, ?_⟩ ds
    rw [Source.events, Source.events, hempty, hnothing, hevents]
  · rw [polls_eq hflow, hlines]
  · rw [← hlines]
    exact spent_calls hcap' ds

/-- The poll is dropped in the middle of its second wait, with a byte from the buffer and two from
the stream in hand, and the next one is ended by a fault. -/
theorem unfinished_poll_costs_twice :
    let r : Reader := ⟨{
      capacity := 2
      buffer := [49]
      arrivals := [.bytes [50], .pause, .bytes [51], .delay 5, .bytes [52], .fault ⟨.other, none⟩,
        .bytes [53, 10]] }, 3⟩
    let fresh : Reader := ⟨{
      arrivals := [.delay 3, .bytes [52], .fault ⟨.other, none⟩, .bytes [53], .bytes [10]] }, 3⟩
    0 < r.source.capacity ∧ r.Unfinished (some ⟨1, 2⟩) ∧
      (r.call (some ⟨1, 2⟩)).2.calls [none, none] = fresh.calls [none, none] ∧
      fresh.calls [none, none] =
        [(some (.error (.unreadable ⟨.other, none⟩)), 3), (some (.ok 5), 4)] := by
  intro r fresh
  have hcap : 0 < r.source.capacity := by decide
  have h : r.Unfinished (some ⟨1, 2⟩) := by decide +kernel
  refine ⟨hcap, h, ?_, by decide +kernel⟩
  obtain ⟨-, -, hfresh, -⟩ := unfinished_poll_costs hcap h
  exact hfresh fresh rfl (by decide) rfl (by decide +kernel) [none, none]

end Reader

/-! ### Where a run drops its poll -/

/-- **A run that gives up waiting for a line has dropped its poll** at one of its waits. -/
theorem Clock.exists_ask_of_abandoned {c : Clock} {taken : List UInt8} {s : Source}
    (hdue : ∀ t, c.due? = some t → c.now ≤ t) (h : (c.await taken s).polled = .abandoned) :
    ∃ d, s.ask (some d) taken = (none, (c.await taken s).source) := by
  fun_induction Clock.await c taken s with
  | case1 => simp at h
  | case2 => simp at h
  | case3 c taken s a c' t w he _ hcan => exact ⟨⟨0, 0⟩, ask_at_once he⟩
  | case4 c taken s a c' t hcan he _ _ ih =>
    obtain ⟨⟨waits, elapsed⟩, hd⟩ := ih hdue h
    exact ⟨⟨waits + 1, elapsed⟩, (ask_of_waiting he (by simp)).trans hd⟩
  | case5 c taken s a c' t hcan ms he u hu _ _ =>
    -- The wait has lasted from now to the cancellation.
    have hnow : c.now ≤ u := hdue u (Option.filter_eq_some_iff.mp hu).1
    refine ⟨⟨0, u - c.now⟩, (ask_of_waiting he (by simp)).trans ?_⟩
    have hrest : ms - (u - c.now) = c.now + ms - u := by omega
    exact congrArg (fun k ↦ (none, a.source.giveUp (.sleep k))) hrest
  | case6 c taken s a c' t hcan ms he hu _ _ ih =>
    -- What is due comes after this wait, or it would have ended it.
    have hlater : ∀ u, c.due? = some u → c.now + ms ≤ u := fun u hu' ↦ by
      have hlt : c.now + ms < u := by simpa [dueBy?, cancelIf, c', hu'] using hu
      exact Nat.le_of_lt hlt
    obtain ⟨⟨waits, elapsed⟩, hd⟩ := ih hlater h
    exact ⟨⟨waits + 1, elapsed⟩, (ask_of_waiting he (by simp)).trans hd⟩
  | case7 c taken s a c' t hcan he u hu _ _ => exact ⟨⟨0, 0⟩, ask_of_forever he⟩
  | case8 => simp at h

end TracedFibonacci
