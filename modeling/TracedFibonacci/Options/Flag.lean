import TracedFibonacci.Options.Options
import TracedFibonacci.Text.Numeral

/-!
# Flags

The flags of the command line, with what they are called, what they take and what they are for. A
flag that takes a value checks it at once when it is set, and can be set once.
-/

namespace TracedFibonacci

open Text

/-- A flag that takes a value. -/
inductive ValueFlag where
  | config
  | endpoint
  | serviceName
  | overflow
  | workDelayUs
  | logLevel
  deriving Repr, DecidableEq

namespace ValueFlag

/-- Every flag that takes a value, in the order in which they are listed to a user. -/
def all : List ValueFlag :=
  [.config, .endpoint, .serviceName, .overflow, .workDelayUs, .logLevel]

/-- The name of a flag. -/
def name : ValueFlag → String
  | .config => "config"
  | .endpoint => "endpoint"
  | .serviceName => "service-name"
  | .overflow => "overflow"
  | .workDelayUs => "work-delay-us"
  | .logLevel => "log-level"

/-- The one-letter name of a flag. -/
def letter? : ValueFlag → Option Char
  | .config => some 'c'
  | _ => none

/-- What the value of a flag is called. -/
def valueName : ValueFlag → String
  | .config => "CONFIG"
  | .endpoint => "ENDPOINT"
  | .serviceName => "SERVICE_NAME"
  | .overflow => "OVERFLOW"
  | .workDelayUs => "WORK_DELAY_US"
  | .logLevel => "LOG_LEVEL"

/-- What a flag is for. -/
def summary : ValueFlag → String
  | .config => "TOML configuration file"
  | .endpoint => "Collector endpoint (selects the remote exporter profile)"
  | .serviceName => "Service name attached to traces"
  | .overflow => "Overflow behavior for large inputs"
  | .workDelayUs => "Simulated work per computation, in microseconds"
  | .logLevel => "Log level (trace, debug, info, warn, error)"

/-- How a flag is written with its value. -/
def usage (f : ValueFlag) : String := "--" ++ f.name ++ " <" ++ f.valueName ++ ">"

end ValueFlag

/-- A flag that takes no value. -/
inductive Switch where
  | json
  | help
  | version
  deriving Repr, DecidableEq

namespace Switch

/-- Every flag that takes no value, in the order in which they are listed to a user. -/
def all : List Switch := [.json, .help, .version]

/-- The name of a flag. -/
def name : Switch → String
  | .json => "json"
  | .help => "help"
  | .version => "version"

/-- The one-letter name of a flag. -/
def letter? : Switch → Option Char
  | .json => none
  | .help => some 'h'
  | .version => some 'V'

/-- What a flag is for; the short help points to the long one, and the other way round. -/
def summary (long : Bool) : Switch → String
  | .json => "Emit logs as JSON lines"
  | .help =>
    if long then "Print help (see a summary with '-h')" else "Print help (see more with '--help')"
  | .version => "Print version"

/-- How a flag is written. -/
def usage (s : Switch) : String := "--" ++ s.name

end Switch

/-- A flag. -/
inductive Flag where
  | takesValue (f : ValueFlag)
  | switch (s : Switch)
  deriving Repr, DecidableEq

namespace Flag

/-- Every flag. -/
def all : List Flag := ValueFlag.all.map takesValue ++ Switch.all.map switch

/-- The name of a flag. -/
def name : Flag → String
  | takesValue f => f.name
  | switch s => s.name

/-- The one-letter name of a flag. -/
def letter? : Flag → Option Char
  | takesValue f => f.letter?
  | switch s => s.letter?

/-- How a flag is written. -/
def usage : Flag → String
  | takesValue f => f.usage
  | switch s => s.usage

/-- The flag of the given name, in exactly this spelling. -/
def ofName? (s : String) : Option Flag := all.find? (·.name == s)

/-- The flag of the given letter. -/
def ofLetter? (c : Char) : Option Flag := all.find? (·.letter? == some c)

theorem ofName?_name (f : Flag) : ofName? f.name = some f := by
  rcases f with f | s
  · cases f <;> rfl
  · cases s <;> rfl

end Flag

/-- Why a text is no word. -/
inductive WordFault where
  /-- It has no digits. -/
  | empty
  /-- It has something other than digits. -/
  | invalidDigit
  /-- It is too large. -/
  | tooLarge
  deriving Repr, DecidableEq

/-- How a message tells why a text is no word. -/
def WordFault.message : WordFault → String
  | empty => "cannot parse integer from empty string"
  | invalidDigit => "invalid digit found in string"
  | tooLarge => "number too large to fit in target type"

/-- Why the command line was refused, or was no call to start. -/
inductive Refusal where
  /-- There is no such flag, or a value stands where no flag takes it. -/
  | unexpected (argument : String)
  /-- A flag that takes no value was given one. -/
  | unexpectedValue (s : Switch) (value : String)
  /-- A flag has no value. -/
  | missingValue (f : ValueFlag)
  /-- A value is not one of those to choose from. -/
  | invalidChoice (f : ValueFlag) (value : String)
  /-- A value is no word. -/
  | invalidWord (f : ValueFlag) (value : String) (fault : WordFault)
  /-- A flag was given more than once. -/
  | repeated (f : Flag)
  /-- The user asked for help, in its long or its short form. -/
  | help (long : Bool)
  /-- The user asked for the version. -/
  | version
  deriving Repr, DecidableEq

namespace ValueFlag

/-- Reads a word in decimal digits, which a plus sign may precede. Of two faults the one further
left counts. -/
def readWord (cs : List Char) : Except WordFault UInt64 :=
  let ds :=
    match cs with
    | '+' :: d :: ds => d :: ds
    | _ => cs
  if ds.isEmpty then .error .empty
  else
    let value : Except WordFault Nat := ds.foldlM (fun (v : Nat) c ↦
      match Numeral.digitValue? 10 c with
      | none => .error .invalidDigit
      | some d => if v * 10 + d < UInt64.size then .ok (v * 10 + d) else .error .tooLarge) 0
    value.map UInt64.ofNat

/-- A value for an option, unless there is one already. -/
def once {α : Type} (f : ValueFlag) (old? : Option α) (new : Except Refusal α) :
    Except Refusal (Option α) :=
  if old?.isSome then .error (.repeated (.takesValue f)) else new.map some

/-- Sets a flag to a value. -/
def set (f : ValueFlag) (value : String) (o : Options) : Except Refusal Options :=
  match f with
  | .config => do
    let path := if value.isEmpty then .error (.missingValue f) else .ok value
    return { o with config? := ← once f o.config? path }
  | .endpoint => do return { o with endpoint? := ← once f o.endpoint? (.ok value) }
  | .serviceName => do return { o with serviceName? := ← once f o.serviceName? (.ok value) }
  | .overflow => do
    let policy :=
      match OverflowPolicy.ofName? value with
      | some p => .ok p
      | none => .error (if value.isEmpty then .missingValue f else .invalidChoice f value)
    return { o with overflow? := ← once f o.overflow? policy }
  | .workDelayUs => do
    let delay := (readWord value.toList).mapError (.invalidWord f value)
    return { o with workDelayUs? := ← once f o.workDelayUs? delay }
  | .logLevel => do return { o with logLevel? := ← once f o.logLevel? (.ok value) }

end ValueFlag

namespace Switch

/-- Sets a flag that takes no value. `long` tells whether its full name was used. -/
def set (s : Switch) (long : Bool) (o : Options) : Except Refusal Options :=
  match s with
  | .json => if o.json then .error (.repeated (.switch s)) else .ok { o with json := true }
  | .help => .error (.help long)
  | .version => .error .version

end Switch

end TracedFibonacci
