import TracedFibonacci.Request.Reader
import TracedFibonacci.Proofs.Request.Delivery

/-!
# Sources byte by byte

How many bytes come in one chunk, how many of them go through the buffer at a time, and how many are
in the buffer already, makes no difference to whoever asks a source for a line. What makes one is
the course of events: this byte, then that byte, then a wait, then a fault. `Source.events` is that
course.

## One attempt, without chunks and buffers

`Stream.Event.read` is an attempt to complete a line, on a list of events. It has no buffer and no
capacity in it and is a plain recursion on the list. An attempt on a source does what it does
(`read_events`): a newline in the buffer ends the attempt before the stream is looked at, and a
chunk that is served in parts is served byte by byte. The only thing it takes is a buffer that has
room.

So two sources with the same events are alike (`Source.Alike`), and stay alike.
-/

namespace TracedFibonacci

open Request Source

/-! ### Events -/

/-- What can happen to someone who takes a stream byte by byte. -/
inductive Stream.Event where
  /-- This byte comes. -/
  | byte (b : UInt8)
  /-- A read gives nothing, as it does at the end of the stream. -/
  | stop
  /-- A read fails. -/
  | fault (f : Fault)
  /-- A read has to wait. -/
  | wait (w : Wait)
  /-- The run in progress is cancelled. -/
  | cancel
  deriving Repr, DecidableEq

/-- The events of an arrival. An interrupted read is repeated at once, and a wait of no length is
none. -/
def Arrival.events : Arrival → List Stream.Event
  | .bytes bs => if bs = [] then [.stop] else bs.map .byte
  | .fault f => if f.kind = .interrupted then [] else [.fault f]
  | .pause => [.wait .turn]
  | .stall => [.wait .forever]
  | .cancel => [.cancel]
  | .delay ms => if ms = 0 then [] else [.wait (.sleep ms)]

/-- The events of a stream. -/
def Stream.events (as : List Arrival) : List Stream.Event := as.flatMap Arrival.events

/-- The events that are still to come from a source. -/
def Source.events (s : Source) : List Stream.Event := s.buffer.map .byte ++ Stream.events s.arrivals

/-- The events of a wait that is given up. -/
def Wait.events (w : Wait) : List Stream.Event := Stream.events w.arrival?.toList

namespace Stream.Event

/-- The bytes that come before a wait that never ends. -/
def bytes : List Stream.Event → List UInt8
  | [] => []
  | .byte b :: es => b :: bytes es
  | .wait .forever :: _ => []
  | .stop :: es | .fault _ :: es | .wait _ :: es | .cancel :: es => bytes es

/-- Goes on with the line that begins with `taken`: whether the run is cancelled in the course of
it, how it ends, and the events that are left. -/
def read (taken : List UInt8) : List Stream.Event → Bool × Ended × List Stream.Event
  | [] => (false, .line taken, [])
  | .byte b :: es =>
    if b = newline then (false, .line (taken ++ [b]), es) else read (taken ++ [b]) es
  | .stop :: es => (false, .line taken, es)
  | .fault f :: es => (false, .fault f, es)
  | .wait w :: es => (false, .waiting taken w, es)
  | .cancel :: es => (true, (read taken es).2)

variable {taken : List UInt8} {es : List Stream.Event}

/-! ### Bytes without events between them -/

@[simp] theorem bytes_map_append (bs : List UInt8) (es : List Stream.Event) :
    bytes (bs.map .byte ++ es) = bs ++ bytes es := by
  induction bs with
  | nil => rfl
  | cons b bs ih => rw [List.map_cons, List.cons_append, bytes, ih, List.cons_append]

theorem read_map_of_notMem {bs : List UInt8} (h : newline ∉ bs) :
    read taken (bs.map .byte ++ es) = read (taken ++ bs) es := by
  induction bs generalizing taken with
  | nil => rw [List.map_nil, List.nil_append, List.append_nil]
  | cons b bs ih =>
    simp only [List.mem_cons, not_or] at h
    rw [List.map_cons, List.cons_append, read, if_neg (Ne.symm h.1), ih h.2, List.append_assoc,
      List.singleton_append]

theorem read_map_of_mem {bs : List UInt8} (h : newline ∈ bs) :
    read taken (bs.map .byte ++ es) =
      (false, .line (taken ++ (cut bs).1), (cut bs).2.map .byte ++ es) := by
  induction bs generalizing taken with
  | nil => simp at h
  | cons b bs ih =>
    rw [List.map_cons, List.cons_append, read, cut]
    split
    · rfl
    · next hb =>
      rw [ih ((List.mem_cons.1 h).resolve_left (Ne.symm hb)), List.append_assoc,
        List.singleton_append]

/-! ### What an attempt takes -/

/-- What an attempt takes of the bytes: no newline but the one that ends the line. -/
theorem takes_read (taken : List UInt8) (es : List Stream.Event) :
    match (read taken es).2 with
    | (.line bs, rest) => ∃ t, bs = taken ++ t ∧ t ++ bytes rest = bytes es ∧ cut t = (t, [])
    | (.fault _, rest) => ∃ t, newline ∉ t ∧ t ++ bytes rest = bytes es
    | (.waiting t' w, rest) =>
      ∃ t, t' = taken ++ t ∧ newline ∉ t ∧ t ++ bytes (.wait w :: rest) = bytes es := by
  fun_induction read taken es with
  | case1 taken => exact ⟨[], (List.append_nil taken).symm, rfl, rfl⟩
  | case2 taken es => exact ⟨[newline], rfl, rfl, rfl⟩
  | case3 taken b es hb ih =>
    -- The byte goes in front of what the rest of the attempt takes.
    have hmem : ∀ t, newline ∉ t → newline ∉ b :: t := fun t ht ↦ by simp [Ne.symm hb, ht]
    revert ih
    rcases read (taken ++ [b]) es with ⟨c, ended, rest⟩
    cases ended with
    | line bs =>
      rintro ⟨t, rfl, hsum, hcut⟩
      refine ⟨b :: t, by simp, by rw [List.cons_append, hsum, bytes], ?_⟩
      rw [cut, if_neg hb, hcut]
    | fault f =>
      rintro ⟨t, ht, hsum⟩
      exact ⟨b :: t, hmem t ht, by rw [List.cons_append, hsum, bytes]⟩
    | waiting t' w =>
      rintro ⟨t, rfl, ht, hsum⟩
      exact ⟨b :: t, by simp, hmem t ht, by rw [List.cons_append, hsum, bytes]⟩
  | case4 taken es => exact ⟨[], (List.append_nil taken).symm, rfl, rfl⟩
  | case5 taken f es => exact ⟨[], List.not_mem_nil, rfl⟩
  | case6 taken w es => exact ⟨[], (List.append_nil taken).symm, List.not_mem_nil, rfl⟩
  | case7 taken es ih => exact ih

end Stream.Event

/-! ### Attempts on a source -/

section Attempts

variable {taken : List UInt8} {s s' : Source}

namespace Stream

theorem events_cons (a : Arrival) (as : List Arrival) :
    events (a :: as) = a.events ++ events as := List.flatMap_cons

theorem events_append (as bs : List Arrival) : events (as ++ bs) = events as ++ events bs :=
  List.flatMap_append

theorem bytes_events (as : List Arrival) : Stream.Event.bytes (events as) = bytes as := by
  induction as with
  | nil => rfl
  | cons a as ih =>
    rw [events_cons]
    cases a with
    | bytes bs =>
      rw [Arrival.events, bytes, ← ih]
      split
      · next h => rw [h]; rfl
      · rw [Stream.Event.bytes_map_append]
    | fault f =>
      rw [Arrival.events, bytes, ← ih]
      split <;> rfl
    | pause => exact ih
    | stall => rfl
    | cancel => exact ih
    | delay ms =>
      rw [Arrival.events, bytes, ← ih]
      split <;> rfl

/-- A chunk that is served in parts is served byte by byte. -/
theorem read_serve {capacity : Nat} (hcap : 0 < capacity) (taken : List UInt8)
    (as : List Arrival) :
    Stream.Event.read taken (events as) =
      match serve capacity as with
      | (c, .bytes [], rest) => (c, .line taken, events rest)
      | (c, .bytes (b :: bs), rest) =>
        (c || (Stream.Event.read taken ((b :: bs).map .byte ++ events rest)).1,
          (Stream.Event.read taken ((b :: bs).map .byte ++ events rest)).2)
      | (c, .fault f, rest) => (c, .fault f, events rest)
      | (c, .waiting w, rest) => (c, .waiting taken w, events rest) := by
  fun_induction serve capacity as with
  | case1 => rfl
  | case2 bs rest =>
    have hempty : bs.take capacity = [] ↔ bs = [] := by
      simp [List.take_eq_nil_iff, Nat.ne_of_gt hcap]
    rw [events_cons, Arrival.events]
    split
    · next h =>
      subst h
      rw [List.take_nil]
      rfl
    · next h =>
      obtain ⟨b, bs', hb⟩ := List.exists_cons_of_ne_nil (mt hempty.mp h)
      have hrest : bs.map .byte ++ events rest = (b :: bs').map .byte ++
          events (if bs.length ≤ capacity then rest else .bytes (bs.drop capacity) :: rest) := by
        rw [← hb]
        split
        · next hle => rw [List.take_of_length_le hle]
        · next hgt =>
          have hdrop : bs.drop capacity ≠ [] := by simpa using hgt
          rw [events_cons, Arrival.events, if_neg hdrop, ← List.append_assoc, ← List.map_append,
            List.take_append_drop]
      rw [hb, hrest]
      simp
  | case3 f rest hf ih => rw [events_cons, Arrival.events, if_pos hf]; exact ih
  | case4 f rest hf => rw [events_cons, Arrival.events, if_neg hf]; rfl
  | case5 rest => rfl
  | case6 rest => rfl
  | case7 rest ih =>
    have hcancel : Stream.Event.read taken (events (.cancel :: rest)) =
        (true, (Stream.Event.read taken (events rest)).2) := rfl
    rw [hcancel, ih]
    rcases serve capacity rest with ⟨c, served, rest'⟩
    rcases served with (_ | _) | _ | _ <;> rfl
  | case8 rest ih => exact ih
  | case9 ms rest => rfl

end Stream

namespace Source

theorem bytes_eq_events (s : Source) : s.bytes = Stream.Event.bytes s.events := by
  rw [events, Stream.Event.bytes_map_append, Stream.bytes_events, bytes]

/-- **An attempt on a source is an attempt on its events.** -/
theorem read_events (hcap : 0 < s.capacity) (taken : List UInt8) :
    Stream.Event.read taken s.events =
      ((readLine taken s).cancels, (readLine taken s).ended, (readLine taken s).source.events) := by
  fun_induction readLine taken s with
  | case1 taken s line rest h =>
    obtain ⟨hn, hcut⟩ := splitLine?_eq_some h
    rw [events, Stream.Event.read_map_of_mem hn, hcut]
    rfl
  | case2 taken s h t c rest hserve =>
    rw [events, Stream.Event.read_map_of_notMem (splitLine?_eq_none h), Stream.read_serve hcap,
      hserve]
    rfl
  | case3 taken s h t c b bs rest hserve _ more ih =>
    rw [events, Stream.Event.read_map_of_notMem (splitLine?_eq_none h), Stream.read_serve hcap,
      hserve]
    have hmore : Stream.Event.read (taken ++ s.buffer) ((b :: bs).map .byte ++ Stream.events rest) =
        (more.cancels, more.ended, more.source.events) := ih hcap
    dsimp only
    rw [hmore]
  | case4 taken s h c f rest hserve =>
    rw [events, Stream.Event.read_map_of_notMem (splitLine?_eq_none h), Stream.read_serve hcap,
      hserve]
    rfl
  | case5 taken s h t c w rest hserve =>
    rw [events, Stream.Event.read_map_of_notMem (splitLine?_eq_none h), Stream.read_serve hcap,
      hserve]
    rfl

/-- An attempt that does not complete a line uses up the buffer, in which there was no newline. -/
theorem buffer_readLine (h : ∀ bs, (readLine taken s).ended ≠ .line bs) :
    newline ∉ s.buffer ∧ (readLine taken s).source.buffer = [] := by
  fun_induction readLine taken s with
  | case1 => exact absurd rfl (h _)
  | case2 => exact absurd rfl (h _)
  | case3 taken s hnone t c b bs rest hserve _ more ih =>
    exact ⟨splitLine?_eq_none hnone, (ih h).2⟩
  | case4 taken s hnone => exact ⟨splitLine?_eq_none hnone, rfl⟩
  | case5 taken s hnone => exact ⟨splitLine?_eq_none hnone, rfl⟩

/-- Two sources from which the same is still to come, with a buffer that has room. -/
structure Alike (s s' : Source) : Prop where
  /-- The one buffer has room. -/
  capacity_pos : 0 < s.capacity
  /-- The other one, too. -/
  capacity_pos' : 0 < s'.capacity
  /-- The events are the same. -/
  events_eq : s.events = s'.events

/-- **Sources that are alike answer an attempt alike**, and stay alike. -/
theorem Alike.readLine (h : s.Alike s') (taken : List UInt8) :
    (s.readLine taken).ended = (s'.readLine taken).ended ∧
      (s.readLine taken).source.Alike (s'.readLine taken).source := by
  have hread := read_events h.capacity_pos taken
  rw [h.events_eq, read_events h.capacity_pos' taken, Prod.mk.injEq, Prod.mk.injEq] at hread
  obtain ⟨-, hended, hevents⟩ := hread
  refine ⟨hended.symm, ?_, ?_, hevents.symm⟩
  · exact (capacity_readLine taken s).symm ▸ h.capacity_pos
  · exact (capacity_readLine taken s').symm ▸ h.capacity_pos'

end Source

end Attempts

end TracedFibonacci
