import TracedFibonacci.Options.Flag

/-!
# The command line

Arguments are taken from left to right. A flag is written with two hyphens and its name, or with
one hyphen and its letter; its value follows an equals sign, stands directly behind the letter, or
is the next argument. What begins with a hyphen is never the next argument of a flag, a single
hyphen apart; after two hyphens alone nothing is a flag.

A value that is an argument of its own is set only when the next flag comes, or at the end. So an
argument that is not expected anywhere is refused before a bad value in front of it.
-/

namespace TracedFibonacci

namespace CommandLine

/-- What was read so far. -/
structure State where
  /-- The options that are set. -/
  options : Options := {}
  /-- A flag that is not set yet, with its value if that was read. -/
  pending? : Option (ValueFlag × Option String) := none
  deriving Repr, DecidableEq

namespace State

/-- Sets the flag that is not set yet. -/
def settled (st : State) : Except Refusal Options :=
  match st.pending? with
  | none => .ok st.options
  | some (f, none) => .error (.missingValue f)
  | some (f, some value) => f.set value st.options

/-- After a flag with its value. -/
def withValue (st : State) (f : ValueFlag) (value : String) : Except Refusal State := do
  return { options := ← f.set value (← st.settled) }

/-- After a flag whose value is still to come. -/
def awaiting (st : State) (f : ValueFlag) : Except Refusal State := do
  return { options := ← st.settled, pending? := some (f, none) }

/-- After a flag that takes no value. -/
def switched (st : State) (s : Switch) (long : Bool) : Except Refusal State := do
  return { options := ← s.set long (← st.settled) }

/-- After an argument that is no flag. -/
def plain (st : State) (argument : String) : Except Refusal State :=
  match st.pending? with
  | some (f, none) => .ok { st with pending? := some (f, some argument) }
  -- the value is there already, or no flag waits for one
  | _ => .error (.unexpected argument)

/-- After a flag with its full name, which may be followed by an equals sign and a value. -/
def long (st : State) (body : List Char) : Except Refusal State :=
  let name := String.ofList (body.takeWhile (· != '='))
  let value? :=
    match body.dropWhile (· != '=') with
    | [] => none
    | _ :: value => some (String.ofList value)
  match Flag.ofName? name, value? with
  | none, _ => .error (.unexpected ("--" ++ name))
  | some (.takesValue f), some value => st.withValue f value
  | some (.takesValue f), none => st.awaiting f
  | some (.switch s), some value => .error (.unexpectedValue s value)
  | some (.switch s), none => st.switched s true

/-- After flags with their letters, of which the last may be followed by a value. -/
def short (st : State) : List Char → Except Refusal State
  | [] => .ok st
  | c :: rest =>
    match Flag.ofLetter? c with
    | none => .error (.unexpected ("-" ++ String.singleton c))
    | some (.switch s) => do short (← st.switched s false) rest
    | some (.takesValue f) =>
      match rest with
      | [] => st.awaiting f
      | '=' :: value => st.withValue f (String.ofList value)
      | value => st.withValue f (String.ofList value)

/-- After an argument. -/
def argument (st : State) (a : String) : Except Refusal State :=
  match a.toList with
  | '-' :: '-' :: body => st.long body
  -- a hyphen alone falls through: it can be a value
  | '-' :: c :: rest => st.short (c :: rest)
  | _ => st.plain a

end State

/-- Goes on with more arguments. -/
def readFrom (st : State) : List String → Except Refusal Options
  | [] => st.settled
  | a :: rest =>
    if a = "--" then
      match rest with
      | [] => st.settled
      -- not even a flag that waits for its value takes what follows two hyphens
      | b :: _ => .error (.unexpected b)
    else (st.argument a).bind fun st ↦ readFrom st rest

/-- The options that some arguments mean. -/
def read (args : List String) : Except Refusal Options := readFrom {} args

end CommandLine

end TracedFibonacci
