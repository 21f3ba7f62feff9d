import TracedFibonacci.Request.Error

/-!
# Metrics

Counts of what the program did: requests read, results reported, computations timed, and the errors
that ended a run, each kind apart. Counts only ever grow by one, so what remains of any sequence of
recordings is how often each of them occurs.

A sample is one line of the exposition. A count that was never increased has no sample. Of the
durations only the number is counted, and how long they took is not: lines that tell it are no
samples here.
-/

namespace TracedFibonacci

/-- What is counted. -/
structure Metrics where
  /-- Requests read. -/
  requests : Nat := 0
  /-- Results reported with a value. -/
  ok : Nat := 0
  /-- Results reported with an overflow. -/
  overflowed : Nat := 0
  /-- Computations timed. -/
  durations : Nat := 0
  /-- Errors that ended a run, by kind. -/
  errors : RequestError.Kind → Nat := fun _ ↦ 0

namespace Metrics

/-- What can be recorded. -/
inductive Mark where
  /-- A request was read. -/
  | request
  /-- A result was reported, with a value or with an overflow. -/
  | result (ok : Bool)
  /-- A computation was timed. -/
  | duration
  /-- An error ended a run. -/
  | error (k : RequestError.Kind)
  deriving Repr, DecidableEq

/-- The counts after one recording. -/
def record (m : Metrics) : Mark → Metrics
  | .request => { m with requests := m.requests + 1 }
  | .result true => { m with ok := m.ok + 1 }
  | .result false => { m with overflowed := m.overflowed + 1 }
  | .duration => { m with durations := m.durations + 1 }
  | .error k => { m with errors := fun j ↦ if j = k then m.errors j + 1 else m.errors j }

/-- The counts after a sequence of recordings. -/
def recordAll (m : Metrics) (marks : List Mark) : Metrics := marks.foldl record m

/-- One line of the exposition, for a count that was ever increased. -/
def sample? (name : String) (count : Nat) : Option String :=
  if count = 0 then none else some (name ++ " " ++ Text.Numeral.decimal count)

/-- A name with one label. -/
def labelled (name key value : String) : String :=
  name ++ "\x7b" ++ key ++ "=\"" ++ value ++ "\"\x7d"

/-- The samples, sorted. Of the summary of the durations this is the line of its `_count`, without
those of its quantiles and of its `_sum`, which depend on time. -/
def samples (m : Metrics) : List String :=
  [sample? "fib_compute_duration_seconds_count" m.durations] ++
    RequestError.Kind.all.map (fun k ↦
      sample? (labelled "fib_input_errors_total" "kind" k.label) (m.errors k)) ++
    [sample? "fib_requests_total" m.requests,
      sample? (labelled "fib_results_total" "outcome" "error") m.overflowed,
      sample? (labelled "fib_results_total" "outcome" "ok") m.ok]
  |>.filterMap id

theorem recordAll_nil (m : Metrics) : m.recordAll [] = m := rfl

end Metrics

end TracedFibonacci
