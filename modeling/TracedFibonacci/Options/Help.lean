import TracedFibonacci.Options.Flag
import TracedFibonacci.Text.Terminal

/-!
# Help, and what is said of a refused command line

Asking for help or for the version is no mistake: the answer is a text, and the exit code tells of
success. Help comes in a short form, one line to a flag, and in a long form with more room.

A refused command line is told in one sentence. It repeats what the user wrote, as far as that can
be shown on a terminal.
-/

namespace TracedFibonacci

open Text

/-- The name of the program. -/
def programName : String := "fib-observer"

/-- The version of the program. -/
def programVersion : String := "0.1.0"

/-- What the program is. -/
def programSummary : String := "Traced Fibonacci request loop over stdin"

namespace Flag

/-- How help names a flag: with its letter, or the room for one, and its value. -/
def heading (f : Flag) : String :=
  (match f.letter? with
    | some c => "-" ++ String.singleton c ++ ", "
    | none => "    ") ++ f.usage

/-- What a flag is for, in the long or the short form of help. -/
def summary (long : Bool) : Flag → String
  | takesValue f => f.summary
  | switch s => s.summary long

/-- The values to choose from, where a flag takes one of a few. -/
def choices : Flag → List OverflowPolicy
  | takesValue .overflow => OverflowPolicy.all
  | _ => []

end Flag

namespace Help

/-- A text with blanks behind it up to a width. -/
def padded (width : Nat) (s : String) : String :=
  s ++ String.ofList (List.replicate (width - s.length) ' ')

/-- Where the explanations begin in the short form. -/
def column : Nat := 37

/-- A flag in the short form. -/
def shortLine (f : Flag) : String :=
  let choices :=
    if f.choices.isEmpty then ""
    else " [possible values: " ++ String.intercalate ", " (f.choices.map (·.name)) ++ "]"
  "  " ++ padded column f.heading ++ f.summary false ++ choices

/-- The width of the longest name to choose from, with its colon. -/
def choiceWidth (ps : List OverflowPolicy) : Nat :=
  ps.foldl (fun w p ↦ max w (p.name.length + 2)) 0

/-- A flag in the long form. -/
def longLines (f : Flag) : List String :=
  let indented := "          "
  let choices :=
    if f.choices.isEmpty then []
    else ["", indented ++ "Possible values:"] ++ f.choices.map fun p ↦
      indented ++ "- " ++ padded (choiceWidth f.choices) (p.name ++ ":") ++ p.summary
  ["  " ++ f.heading, indented ++ f.summary true] ++ choices

/-- What help says before it comes to the flags. -/
def opening : List String :=
  [programSummary, "", "Usage: " ++ programName ++ " [OPTIONS]", "", "Options:"]

/-- The lines of help, in its long or its short form. -/
def lines (long : Bool) : List String :=
  opening ++
    if long then List.intercalate [""] (Flag.all.map longLines) else Flag.all.map shortLine

end Help

namespace Refusal

/-- What is said of a refused command line. -/
def message : Refusal → String
  | unexpected argument => "error: unexpected argument '" ++ shown argument ++ "' found"
  | unexpectedValue s value =>
    "error: unexpected value '" ++ shown value ++ "' for '" ++ s.usage ++
      "' found; no more were expected"
  | missingValue f =>
    "error: a value is required for '" ++ f.usage ++ "' but none was supplied"
  | invalidChoice f value => "error: invalid value '" ++ shown value ++ "' for '" ++ f.usage ++ "'"
  | invalidWord f value fault =>
    "error: invalid value '" ++ shown value ++ "' for '" ++ f.usage ++ "': " ++ fault.message
  | repeated f => "error: the argument '" ++ f.usage ++ "' cannot be used multiple times"
  | help _ => programSummary
  | version => programName ++ " " ++ programVersion

/-- The answer to a question of the user; a mistake has none. -/
def answer? : Refusal → Option (List String)
  | help long => some (Help.lines long)
  | version => some [programName ++ " " ++ programVersion]
  | _ => none

/-- The exit code of the program when it does not start for this reason. -/
def exitCode (r : Refusal) : Nat := if r.answer?.isSome then 0 else 2

end Refusal

end TracedFibonacci
