/-!
# Faults of files and streams

Reading can fail for reasons that lie outside the text that is read. A fault has a kind, and
sometimes a text of its own; without one, the description of its kind stands in.
-/

namespace TracedFibonacci

/-- The kinds of fault that reading a file or a stream can meet. -/
inductive FaultKind where
  | notFound
  | permissionDenied
  | connectionReset
  | brokenPipe
  | invalidData
  | timedOut
  | interrupted
  | unexpectedEof
  | wouldBlock
  | isADirectory
  | other
  deriving Repr, DecidableEq

namespace FaultKind

/-- Every kind. -/
def all : List FaultKind :=
  [.notFound, .permissionDenied, .connectionReset, .brokenPipe, .invalidData, .timedOut,
    .interrupted, .unexpectedEof, .wouldBlock, .isADirectory, .other]

/-- The name of a kind. -/
def name : FaultKind → String
  | .notFound => "NotFound"
  | .permissionDenied => "PermissionDenied"
  | .connectionReset => "ConnectionReset"
  | .brokenPipe => "BrokenPipe"
  | .invalidData => "InvalidData"
  | .timedOut => "TimedOut"
  | .interrupted => "Interrupted"
  | .unexpectedEof => "UnexpectedEof"
  | .wouldBlock => "WouldBlock"
  | .isADirectory => "IsADirectory"
  | .other => "Other"

/-- The kind of the given name. -/
def ofName? (s : String) : Option FaultKind := all.find? (·.name == s)

/-- What a kind is called in a message. -/
def description : FaultKind → String
  | .notFound => "entity not found"
  | .permissionDenied => "permission denied"
  | .connectionReset => "connection reset"
  | .brokenPipe => "broken pipe"
  | .invalidData => "invalid data"
  | .timedOut => "timed out"
  | .interrupted => "operation interrupted"
  | .unexpectedEof => "unexpected end of file"
  | .wouldBlock => "operation would block"
  | .isADirectory => "is a directory"
  | .other => "other error"

theorem ofName?_name (k : FaultKind) : ofName? k.name = some k := by cases k <;> rfl

end FaultKind

/-- A fault of a file or a stream. -/
structure Fault where
  /-- What kind of fault it is. -/
  kind : FaultKind
  /-- Its own text, where it has one. -/
  text? : Option String := none
  deriving Repr, DecidableEq

/-- How a message tells of a fault. -/
def Fault.message (f : Fault) : String := f.text?.getD f.kind.description

end TracedFibonacci
