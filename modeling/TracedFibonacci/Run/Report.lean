import TracedFibonacci.Fibonacci
import TracedFibonacci.Request.Error

/-!
# Reports and the end of a run

Each request read is answered by one report, which carries a value or an overflow; an overflow is
the answer to that request and does not end the run. What ends a run is an error of the next request
or a failure of the task that it runs in.
-/

namespace TracedFibonacci

open Text

/-- The answer to a request. -/
structure Report where
  /-- The index that was asked for. -/
  n : UInt64
  /-- The number, or its overflow. -/
  outcome : Except Overflow UInt64

namespace Report

/-- The report on the request `n` under a policy. -/
def on (p : OverflowPolicy) (n : UInt64) : Report := ⟨n, p.compute n⟩

/-- Whether the report carries a value. -/
def isOk (r : Report) : Bool :=
  match r.outcome with
  | .ok _ => true
  | .error _ => false

/-- A report as one line. -/
def line (r : Report) : String :=
  let asked := "Fibonacci(" ++ Numeral.decimal r.n.toNat ++ ")"
  match r.outcome with
  | .ok v => asked ++ " = " ++ Numeral.decimal v.toNat
  | .error e => asked ++ ": " ++ e.message

end Report

/-- Why a run failed. -/
inductive RunError where
  /-- There was no further request. -/
  | input (e : RequestError)
  /-- The task of the run broke down; `text` tells how. -/
  | task (text : String)
  deriving Repr, DecidableEq

namespace RunError

/-- The error of the request, where that is the reason. -/
def asInput? : RunError → Option RequestError
  | .input e => some e
  | .task _ => none

/-- How a message tells of a failed run. -/
def message : RunError → String
  | .input e => e.message
  | .task text => "run loop task failed: " ++ text

end RunError

end TracedFibonacci
