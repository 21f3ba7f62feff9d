import TracedFibonacci.Text.Numeral

/-!
# Fibonacci numbers in sixty-four bits

A request asks for the `n`-th Fibonacci number, and the answer has to fit a 64-bit word. From
`n = 94` on the number itself does not fit, and an `OverflowPolicy` says what becomes of it: reduce
it modulo `2 ^ 64`, or report that it overflows.

## Three definitions of the same sequence

* `fib` is the sequence over the natural numbers. Nothing is computed with it.
* `wrapped` is `fib` modulo `2 ^ 64`. It doubles its way up through the binary digits of `n`, so a
  large `n` costs no more than sixty-four steps.
* `fib?` climbs the sequence by additions that must not overflow, and stops at the first one that
  does. It never forms a term past the one asked for, so an overflow just behind the answer does
  not spoil it.
-/

namespace TracedFibonacci

/-- The Fibonacci sequence over the natural numbers. -/
def fib : Nat → Nat
  | 0 => 0
  | 1 => 1
  | n + 2 => fib n + fib (n + 1)

/-- The pair of `fib n` and `fib (n + 1)`, modulo `2 ^ 64`, by
`fib (2 k) = fib k * (2 * fib (k + 1) - fib k)` and
`fib (2 k + 1) = fib k ^ 2 + fib (k + 1) ^ 2`. -/
def wrappedPair (n : Nat) : UInt64 × UInt64 :=
  if n = 0 then (0, 1) else
    let (a, b) := wrappedPair (n / 2)
    let even := a * (b + b - a)
    let odd := a * a + b * b
    if n % 2 = 0 then (even, odd) else (odd, even + odd)
termination_by n
decreasing_by omega

/-- The `n`-th Fibonacci number modulo `2 ^ 64`. -/
def wrapped (n : UInt64) : UInt64 := (wrappedPair n.toNat).1

/-- The sum of two words when it fits a word. -/
def addWithin? (a b : UInt64) : Option UInt64 :=
  if a.toNat + b.toNat < UInt64.size then some (a + b) else none

/-- The term `steps` places after `a` in the sequence that goes on `a, b, a + b, …`, when every term
up to it fits a word. -/
def climb : (steps : Nat) → (a b : UInt64) → Option UInt64
  | 0, a, _ => some a
  | 1, _, b => some b
  | steps + 2, a, b => (addWithin? a b).bind (climb (steps + 1) b)

/-- The `n`-th Fibonacci number when it fits a word. -/
def fib? (n : UInt64) : Option UInt64 := climb n.toNat 0 1

/-- The `n`-th Fibonacci number does not fit a word. -/
structure Overflow where
  /-- The index that was asked for. -/
  n : UInt64
  deriving Repr, DecidableEq

/-- How a message tells of an overflow. -/
def Overflow.message (e : Overflow) : String :=
  "result overflows u64 (n = " ++ Text.Numeral.decimal e.n.toNat ++ ")"

/-- What becomes of a number that does not fit a word. -/
inductive OverflowPolicy where
  /-- It is reduced modulo `2 ^ 64`. -/
  | wrapping
  /-- It is an error of the request that asked for it. -/
  | checked
  deriving Repr, DecidableEq, Inhabited

namespace OverflowPolicy

/-- The answer to the request `n`. -/
def compute (p : OverflowPolicy) (n : UInt64) : Except Overflow UInt64 :=
  match p with
  | .wrapping => .ok (wrapped n)
  | .checked =>
    match fib? n with
    | some v => .ok v
    | none => .error ⟨n⟩

/-- Every policy, in the order in which they are listed to a user. -/
def all : List OverflowPolicy := [.wrapping, .checked]

/-- The name of a policy in a configuration file and on the command line. -/
def name : OverflowPolicy → String
  | .wrapping => "wrapping"
  | .checked => "checked"

/-- The name of a policy in the log. -/
def title : OverflowPolicy → String
  | .wrapping => "Wrapping"
  | .checked => "Checked"

/-- What a policy does, for the long form of the help text. -/
def summary : OverflowPolicy → String
  | .wrapping => "Wrap around silently"
  | .checked => "Report an overflow error for the request"

/-- The policy of the given name, in exactly this spelling. -/
def ofName? (s : String) : Option OverflowPolicy := all.find? (·.name == s)

/-- The policy of the given name, whatever the case of its ASCII letters. -/
def ofNameAnyCase? (s : String) : Option OverflowPolicy :=
  all.find? (·.name == String.ofList (s.toList.map Char.toLower))

theorem ofName?_name (p : OverflowPolicy) : ofName? p.name = some p := by cases p <;> rfl

/-- Without a checked policy there is no overflow to report. -/
theorem compute_wrapping (n : UInt64) : compute .wrapping n = .ok (wrapped n) := rfl

end OverflowPolicy

end TracedFibonacci
