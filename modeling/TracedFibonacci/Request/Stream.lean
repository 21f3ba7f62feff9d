import TracedFibonacci.Request.Fault

/-!
# Streams of bytes in virtual time

A stream is what will happen at successive reads: bytes arrive, a read fails, or it has to wait. The
bytes come in pieces that have nothing to do with lines, a reader holds a buffer of a fixed capacity
in front of the stream, and between two pieces anything may happen, so this is where one line can
be torn apart.

## A read in one go

`Stream.serve` is one read of the stream into the empty buffer, and `Source.readLine` is one
attempt to complete a line: it goes on until the line is there, the stream fails, or there is
nothing to do but wait. Waiting does not keep what was taken so far: the bytes of the unfinished
line belong to the attempt, and whoever gives up the attempt loses them.

## Sizes

`Source.size` counts what a source still has to offer. No attempt makes it larger, and one that ends
with a wait, or with a line that holds more than what had been taken before, makes it smaller
(`Source.size_readLine`). Loops over a source end for that reason: one that attempts a line until
it is there passes a wait each time (`Source.size_lt_of_waiting`), and a run has taken a whole line
whenever it goes on.
-/

namespace TracedFibonacci

/-- What happens at a read of a stream. -/
inductive Arrival where
  /-- These bytes can be read. An arrival without bytes ends that read as the end of the stream
  does. -/
  | bytes (bs : List UInt8)
  /-- The read fails, once. -/
  | fault (f : Fault)
  /-- The read has to wait, and is ready again at once. -/
  | pause
  /-- The read waits for ever. -/
  | stall
  /-- The run in progress is cancelled, and the read goes on with the next arrival. -/
  | cancel
  /-- The read waits for so many milliseconds. -/
  | delay (ms : Nat)
  deriving Repr, DecidableEq

/-- How long a read has to wait. -/
inductive Wait where
  /-- It is ready again at once. -/
  | turn
  /-- For so many milliseconds. -/
  | sleep (ms : Nat)
  /-- For ever. -/
  | forever
  deriving Repr, DecidableEq

/-- The arrival that makes a read wait so. -/
def Wait.arrival? : Wait → Option Arrival
  | .turn => none
  | .sleep ms => some (.delay ms)
  | .forever => some .stall

namespace Stream

/-- What one read of a stream gives. -/
inductive Served where
  /-- These bytes; none at the end of the stream. -/
  | bytes (bs : List UInt8)
  /-- A fault. -/
  | fault (f : Fault)
  /-- Nothing before this wait is over. -/
  | waiting (w : Wait)
  deriving Repr, DecidableEq

/-- One read of at most `capacity` bytes: whether it cancels the run on its way, what it gives, and
the arrivals that are left. An interrupted read is repeated at once. -/
def serve (capacity : Nat) : List Arrival → Bool × Served × List Arrival
  | [] => (false, .bytes [], [])
  | .bytes bs :: rest =>
    (false, .bytes (bs.take capacity),
      if bs.length ≤ capacity then rest else .bytes (bs.drop capacity) :: rest)
  | .fault f :: rest =>
    if f.kind = .interrupted then serve capacity rest else (false, .fault f, rest)
  | .pause :: rest => (false, .waiting .turn, rest)
  | .stall :: rest => (false, .waiting .forever, rest)
  | .cancel :: rest => (true, (serve capacity rest).2)
  | .delay 0 :: rest => serve capacity rest
  | .delay (ms + 1) :: rest => (false, .waiting (.sleep (ms + 1)), rest)

/-- How much there is to a list of arrivals: one for each, and one for each byte. -/
def weight : List Arrival → Nat
  | [] => 0
  | .bytes bs :: rest => bs.length + 1 + weight rest
  | _ :: rest => 1 + weight rest

/-- How much of a stream's weight a read accounts for. -/
def Served.weight : Served → Nat
  | .bytes bs => bs.length
  | .fault _ => 1
  | .waiting _ => 1

/-- What a read gives, it takes from the stream. -/
theorem weight_serve (capacity : Nat) (as : List Arrival) :
    (serve capacity as).2.1.weight + weight (serve capacity as).2.2 ≤ weight as := by
  fun_induction serve capacity as with
  | case1 => simp [Served.weight]
  | case2 bs rest =>
    simp only [weight, Served.weight, List.length_take]
    split
    · omega
    · simp only [weight, List.length_drop]; omega
  | case3 f rest hf ih => simp only [weight]; omega
  | case4 f rest hf => simp only [weight, Served.weight]; omega
  | case5 rest => simp only [weight, Served.weight]; omega
  | case6 rest => simp only [weight, Served.weight]; omega
  | case7 rest ih => simp only [weight]; omega
  | case8 rest ih => simp only [weight]; omega
  | case9 ms rest => simp only [weight, Served.weight]; omega

/-- Reading some bytes takes them from the stream. -/
theorem weight_lt_of_serve {capacity : Nat} {as rest : List Arrival} {c : Bool} {b : UInt8}
    {bs : List UInt8} (h : serve capacity as = (c, .bytes (b :: bs), rest)) :
    weight rest < weight as := by
  have := weight_serve capacity as
  simp only [h, Served.weight, List.length_cons] at this
  omega

end Stream

/-- A stream with a reader's buffer in front of it. -/
structure Source where
  /-- How many bytes the buffer takes. -/
  capacity : Nat := 8192
  /-- The bytes that were read and not used yet. -/
  buffer : List UInt8 := []
  /-- What is still to come. -/
  arrivals : List Arrival
  deriving Repr, DecidableEq

namespace Source

/-- The newline. -/
def newline : UInt8 := 10

/-- The bytes through the first newline, and the bytes after it. -/
def splitLine? (bs : List UInt8) : Option (List UInt8 × List UInt8) :=
  match bs.dropWhile (· != newline) with
  | [] => none
  | nl :: rest => some (bs.takeWhile (· != newline) ++ [nl], rest)

theorem append_of_splitLine? {bs line rest : List UInt8} (h : splitLine? bs = some (line, rest)) :
    line ++ rest = bs := by
  unfold splitLine? at h
  split at h
  · contradiction
  · next nl tl hd =>
    obtain ⟨rfl, rfl⟩ := by simpa using h
    rw [List.append_assoc, List.singleton_append, ← hd, List.takeWhile_append_dropWhile]

theorem ne_nil_of_splitLine? {bs line rest : List UInt8} (h : splitLine? bs = some (line, rest)) :
    line ≠ [] := by
  unfold splitLine? at h
  split at h
  · contradiction
  · obtain ⟨rfl, rfl⟩ := by simpa using h
    simp

/-- How much a source has to offer. -/
def size (s : Source) : Nat := s.buffer.length + Stream.weight s.arrivals

/-- How an attempt to complete a line ends. -/
inductive Ended where
  /-- With a line, its newline included; without one at the end of the stream, where nothing at all
  may be left. -/
  | line (bs : List UInt8)
  /-- With a fault; what was taken is lost. -/
  | fault (f : Fault)
  /-- For now, before this wait is over; `taken` is the beginning of the line. -/
  | waiting (taken : List UInt8) (w : Wait)
  deriving Repr, DecidableEq

/-- An attempt to complete a line. -/
structure Attempt where
  /-- Whether the run was cancelled in the course of it. -/
  cancels : Bool
  /-- How it ended. -/
  ended : Ended
  /-- The source it leaves. -/
  source : Source
  deriving Repr, DecidableEq

/-- Goes on with the line that begins with `taken`. -/
def readLine (taken : List UInt8) (s : Source) : Attempt :=
  match splitLine? s.buffer with
  | some (line, rest) => ⟨false, .line (taken ++ line), { s with buffer := rest }⟩
  | none =>
    let taken := taken ++ s.buffer
    match h : Stream.serve s.capacity s.arrivals with
    -- the end of the stream ends the line too
    | (c, .bytes [], rest) => ⟨c, .line taken, { s with buffer := [], arrivals := rest }⟩
    | (c, .bytes (b :: bs), rest) =>
      have := Stream.weight_lt_of_serve h
      let more := readLine taken { s with buffer := b :: bs, arrivals := rest }
      { more with cancels := c || more.cancels }
    -- nobody has the bytes in `taken` after a fault
    | (c, .fault f, rest) => ⟨c, .fault f, { s with buffer := [], arrivals := rest }⟩
    | (c, .waiting w, rest) => ⟨c, .waiting taken w, { s with buffer := [], arrivals := rest }⟩
termination_by Stream.weight s.arrivals

/-- What an attempt takes: a wait, or a line with anything in it beyond what had been taken before,
makes the source smaller, and nothing makes it larger. -/
theorem size_readLine (taken : List UInt8) (s : Source) :
    (readLine taken s).source.size ≤ s.size ∧
    (∀ bs, (readLine taken s).ended = .line bs → bs ≠ taken →
      (readLine taken s).source.size < s.size) ∧
    (∀ t w, (readLine taken s).ended = .waiting t w →
      (readLine taken s).source.size < s.size) := by
  fun_induction readLine taken s with
  | case1 taken s line rest h =>
    have hlen := congrArg List.length (append_of_splitLine? h)
    have hne := List.length_pos_iff.2 (ne_nil_of_splitLine? h)
    simp only [List.length_append] at hlen
    refine ⟨?_, ?_, ?_⟩
    · simp only [size]; omega
    · intro bs _ _; simp only [size]; omega
    · intro t w h'; contradiction
  | case2 taken₀ s h taken c rest hs =>
    have hw := Stream.weight_serve s.capacity s.arrivals
    simp only [hs, Stream.Served.weight, List.length_nil] at hw
    refine ⟨?_, ?_, ?_⟩
    · simp only [size, List.length_nil]; omega
    -- the line is more than what had been taken, so the rest of it was in the buffer
    · intro bs hbs hne
      have hb : s.buffer ≠ [] := by
        rintro hb
        simp only [Ended.line.injEq] at hbs
        exact hne (by simp [← hbs, taken, hb])
      have := List.length_pos_iff.2 hb
      simp only [size, List.length_nil]; omega
    · intro t w h'; contradiction
  | case3 taken₀ s h taken c b bs rest hs hlt more ih =>
    have hw := Stream.weight_serve s.capacity s.arrivals
    simp only [hs, Stream.Served.weight] at hw
    simp only [size, more] at ih ⊢
    obtain ⟨h1, h2, h3⟩ := ih
    refine ⟨by omega, ?_, ?_⟩
    · intro cs hcs hne
      -- an empty buffer adds nothing to `taken`, and a full one is used up
      by_cases hb : s.buffer = []
      · have : taken = taken₀ := by simp [taken, hb]
        have := h2 cs hcs (by rwa [this])
        omega
      · have := List.length_pos_iff.2 hb
        omega
    · intro t w hw'
      have := h3 t w hw'
      omega
  | case4 taken₀ s h c f rest hs =>
    have hw := Stream.weight_serve s.capacity s.arrivals
    simp only [hs, Stream.Served.weight] at hw
    refine ⟨?_, ?_, ?_⟩
    · simp only [size, List.length_nil]; omega
    · intro bs hbs; contradiction
    · intro t w h'; contradiction
  | case5 taken₀ s h taken c w rest hs =>
    have hw := Stream.weight_serve s.capacity s.arrivals
    simp only [hs, Stream.Served.weight] at hw
    refine ⟨?_, ?_, ?_⟩
    · simp only [size, List.length_nil]; omega
    · intro bs hbs; contradiction
    · intro t w' h'; simp only [size, List.length_nil]; omega

/-- A wait takes something from the source. -/
theorem size_lt_of_waiting {taken t : List UInt8} {w : Wait} {s : Source}
    (h : (readLine taken s).ended = .waiting t w) : (readLine taken s).source.size < s.size :=
  (size_readLine taken s).2.2 t w h

/-- The source that an attempt leaves when it is given up during a wait: a wait that is not over
goes on. -/
def giveUp (s : Source) (w : Wait) : Source :=
  { s with arrivals := w.arrival?.toList ++ s.arrivals }

end Source

end TracedFibonacci
