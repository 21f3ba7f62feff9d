/-!
# Contexts of a run

A context can be cancelled once, and everyone who holds it can see that it is. Copies of a context
are the same context in this respect, whenever they were made: they form a family, and a family is
cancelled as a whole. Families have nothing to do with one another.

A family keeps two flags. `fired` decides which cancellation was the first, and `token` is what
waiting for a cancellation looks at; the first cancellation raises both.
-/

namespace TracedFibonacci

/-- What a family of contexts shares. -/
structure Family where
  /-- Whether it was cancelled. -/
  fired : Bool := false
  /-- Whether those who wait for a cancellation are let go. -/
  token : Bool := false
  deriving Repr, DecidableEq

namespace Family

/-- Cancels a family, and tells whether this was the first time. -/
def cancel (f : Family) : Bool × Family :=
  (!f.fired, { fired := true, token := f.token || !f.fired })

end Family

/-- Contexts, each a member of a family. -/
structure Contexts where
  /-- The families, in the order in which they were started. -/
  families : List Family := []
  /-- The family of each context, in the order in which the contexts were made. -/
  members : List Nat := []
  deriving Repr, DecidableEq

namespace Contexts

/-- What can be done with contexts. A context is named by its place in the order of making. -/
inductive Op where
  /-- Makes a context that starts a family. -/
  | new
  /-- Makes a copy of a context. -/
  | clone (i : Nat)
  /-- Cancels a context. -/
  | cancel (i : Nat)
  /-- Looks whether a context is cancelled. -/
  | isCancelled (i : Nat)
  /-- Looks whether waiting for the cancellation of a context is over at once. -/
  | wait (i : Nat)
  /-- Waits for the cancellation of one context, cancels another, and looks at the wait again. -/
  | waitThenCancel (i j : Nat)
  deriving Repr, DecidableEq

/-- What an operation answers. -/
inductive Answer where
  /-- The place of a new context. -/
  | index (i : Nat)
  /-- Yes or no. -/
  | bool (b : Bool)
  /-- Whether the wait was over, whether the cancellation was the first, and whether the wait was
  over then. -/
  | triple (before first after : Bool)
  deriving Repr, DecidableEq

/-- The family of a context. -/
def family? (s : Contexts) (i : Nat) : Option Family := s.members[i]?.bind (s.families[·]?)

/-- Whether a context is cancelled. -/
def isCancelled (s : Contexts) (i : Nat) : Bool := (s.family? i).any (·.token)

/-- Cancels a context, and tells whether this was the first time. -/
def cancel (s : Contexts) (i : Nat) : Bool × Contexts :=
  match s.members[i]?, s.family? i with
  | some k, some f => (f.cancel.1, { s with families := s.families.set k f.cancel.2 })
  | _, _ => (false, s)

/-- One operation. -/
def apply (s : Contexts) : Op → Answer × Contexts
  | .new =>
    (.index s.members.length,
      { families := s.families ++ [{}], members := s.members ++ [s.families.length] })
  | .clone i =>
    match s.members[i]? with
    | some k => (.index s.members.length, { s with members := s.members ++ [k] })
    | none => (.index s.members.length, s)
  | .cancel i => (.bool (s.cancel i).1, (s.cancel i).2)
  | .isCancelled i => (.bool (s.isCancelled i), s)
  | .wait i => (.bool (s.isCancelled i), s)
  | .waitThenCancel i j =>
    let before := s.isCancelled i
    let (first, s') := s.cancel j
    (.triple before first (s'.isCancelled i), s')

/-- Which contexts are cancelled, in the order of making. -/
def cancelledFlags (s : Contexts) : List Bool :=
  (List.range s.members.length).map s.isCancelled

/-- Operation after operation, each with its answer and the contexts that are cancelled then. -/
def applyAll (s : Contexts) : List Op → List (Answer × List Bool)
  | [] => []
  | op :: ops => ((s.apply op).1, (s.apply op).2.cancelledFlags) :: applyAll (s.apply op).2 ops

end Contexts

end TracedFibonacci
