import TracedFibonacci.Request.Line
import TracedFibonacci.Request.Stream

/-!
# The reader of requests

A reader takes one line after the other from a source and counts the lines it has read whole and as
text. The number of a line in an error is that count, so a line that was not text has no number, and
neither has the end of the stream.

## Two ways to ask

`Reader.poll` waits as often as it has to. `Reader.pollOnce` gives up at the first wait, and what it
had taken of the unfinished line is lost with it.
-/

namespace TracedFibonacci

/-- A source together with the number of lines read from it. -/
structure Reader where
  /-- Where the lines come from. -/
  source : Source
  /-- How many lines were read whole and as text. -/
  lines : Nat := 0
  deriving Repr, DecidableEq

namespace Source

/-- How asking for a line ends when there is no wait left. -/
inductive Outcome where
  /-- With a line, or with what was left at the end of the stream. -/
  | line (bs : List UInt8)
  /-- With a fault. -/
  | fault (f : Fault)
  deriving Repr, DecidableEq

/-- Goes on with the line that begins with `taken`, through every wait. There is no outcome when a
wait never ends. -/
def complete (taken : List UInt8) (s : Source) : Option Outcome × Source :=
  match h : (readLine taken s).ended with
  | .line bs => (some (.line bs), (readLine taken s).source)
  | .fault f => (some (.fault f), (readLine taken s).source)
  | .waiting _ .forever => (none, (readLine taken s).source.giveUp .forever)
  | .waiting taken' _ =>
    have := size_lt_of_waiting h
    complete taken' (readLine taken s).source
termination_by s.size

end Source

namespace Reader

/-- The request that a line makes, and the number of lines read with it. Nothing at all is the end
of the stream. -/
def receive (lines : Nat) (bs : List UInt8) : Except RequestError UInt64 × Nat :=
  if bs.isEmpty then (.error .closed, lines)
  else
    match Text.Utf8.decode bs with
    | .error f => (.error (Request.notText f), lines)
    | .ok raw => (Request.parse (lines + 1) raw, lines + 1)

/-- The reader after an outcome of asking its source for a line. -/
def conclude (r : Reader) (o : Source.Outcome) (s : Source) : Except RequestError UInt64 × Reader :=
  match o with
  | .fault f => (.error (.unreadable f), { r with source := s })
  | .line bs => ((receive r.lines bs).1, ⟨s, (receive r.lines bs).2⟩)

/-- Asks for the next request, through every wait. -/
def poll (r : Reader) : Option (Except RequestError UInt64) × Reader :=
  match r.source.complete [] with
  | (some o, s) => ((r.conclude o s).1, (r.conclude o s).2)
  | (none, s) => (none, { r with source := s })

/-- Asks for the next request and gives up at the first wait. -/
def pollOnce (r : Reader) : Option (Except RequestError UInt64) × Reader :=
  let a := r.source.readLine []
  match a.ended with
  | .line bs => ((r.conclude (.line bs) a.source).1, (r.conclude (.line bs) a.source).2)
  | .fault f => ((r.conclude (.fault f) a.source).1, (r.conclude (.fault f) a.source).2)
  | .waiting _ w => (none, { r with source := a.source.giveUp w })

end Reader

end TracedFibonacci
