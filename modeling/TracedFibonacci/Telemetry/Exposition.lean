import TracedFibonacci.Log.Event
import TracedFibonacci.Metrics
import TracedFibonacci.Net.SocketAddress

/-!
# Where metrics go

On the console, the metrics are told in the log when the program ends. With a collector, they can be
fetched from an address while the program runs, and at the end the log tells that this is over.
Either way flushing only tells of the counts and leaves them as they are.

## The page of the metrics

Metrics are written on a page, a block of lines to each metric that has a sample: a comment that
tells its type, its samples, and a blank line. The log tells the lines of that page, one event to a
line, without the comments and the blank lines.

Of the summary of the durations two sorts of lines are left out here: the one for each quantile,
with a label `quantile` behind the name of the summary, and the one for the sum of the durations,
with `_sum` behind that name. Their values are measured times. What is left is the line with
`_count`, whose value is how many computations were timed. So a page here is a function of the
counts. It is sorted, where the order would otherwise be that of a hash table.
-/

namespace TracedFibonacci

namespace Metrics

/-- What a page tells of one metric. -/
structure Block where
  /-- The name of the metric. -/
  name : String
  /-- What type of metric it is. -/
  type : String
  /-- Its samples. -/
  samples : List String
  deriving Repr, DecidableEq

/-- The lines of a block. A metric without samples has none. -/
def Block.lines (b : Block) : List String :=
  if b.samples.isEmpty then []
  else ("# TYPE " ++ b.name ++ " " ++ b.type) :: b.samples ++ [""]

/-- Every metric with its samples, sorted. The summary of the durations has only its `_count` here;
its quantiles and its `_sum` depend on time and are left out. -/
def blocks (m : Metrics) : List Block :=
  [ { name := "fib_compute_duration_seconds", type := "summary"
      samples := (sample? "fib_compute_duration_seconds_count" m.durations).toList },
    { name := "fib_input_errors_total", type := "counter"
      samples := RequestError.Kind.all.filterMap fun k ↦
        sample? (labelled "fib_input_errors_total" "kind" k.label) (m.errors k) },
    { name := "fib_requests_total", type := "counter"
      samples := (sample? "fib_requests_total" m.requests).toList },
    { name := "fib_results_total", type := "counter"
      samples := (sample? (labelled "fib_results_total" "outcome" "error") m.overflowed).toList ++
        (sample? (labelled "fib_results_total" "outcome" "ok") m.ok).toList } ]

/-- The lines of the page. -/
def page (m : Metrics) : List String := m.blocks.flatMap Block.lines

/-- Whether a line of the page is neither blank nor a comment. -/
def isTold (line : String) : Bool := !line.isEmpty && line.toList.head? != some '#'

end Metrics

/-- Where metrics go. -/
inductive Exposition where
  /-- Into the log, at the end. -/
  | log
  /-- To whoever fetches them from this address. -/
  | listener (address : Net.SocketAddress)
  deriving Repr, DecidableEq

/-- What the log tells when some counts are flushed. -/
def Exposition.flush (m : Metrics) : Exposition → List Event
  | log => (m.page.filter Metrics.isTold).map .sample
  | listener address => [.listenerStopped address.text]

namespace Metrics

/-- What can be done with counts. -/
inductive Use where
  /-- Something is counted. -/
  | record (mark : Mark)
  /-- The counts are flushed. -/
  | flush (how : Exposition)
  deriving Repr, DecidableEq

/-- What the log tells of one use, and the counts afterwards. -/
def use (m : Metrics) : Use → List Event × Metrics
  | .record mark => ([], m.record mark)
  | .flush how => (how.flush m, m)

/-- What the log tells of each of some uses, and the counts at the end. -/
def useAll (m : Metrics) : List Use → List (List Event) × Metrics
  | [] => ([], m)
  | u :: us =>
    let (events, after) := m.use u
    let (more, last) := useAll after us
    (events :: more, last)

end Metrics

end TracedFibonacci
