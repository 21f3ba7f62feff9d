import TracedFibonacci.Decimal.Double

/-!
# Documents

A TOML document is a table: a sequence of items under keys, in the order in which they were written.
An item is a single value, an array, a table, or a sequence of tables that were written under a
header each. Values and headers remember where they stand, so that a message can point at them; a
table that is there only because a longer key goes through it stands nowhere.

A place in a text is told by how many characters are left there.
-/

namespace TracedFibonacci.Toml

open Decimal

/-- A stretch of a text. -/
structure Span where
  /-- How many characters are left at its beginning. -/
  before : Nat
  /-- How many characters are left at its end. -/
  after : Nat
  deriving Repr, DecidableEq

/-- The stretch from the beginning of `a` to the beginning of `b`, which is what is left of it. -/
def Span.between (a b : List Char) : Span := ⟨a.length, b.length⟩

/-- The stretch from the beginning of one to the end of another. -/
def Span.through (a b : Span) : Span := ⟨a.before, b.after⟩

/-- A key. -/
structure Key where
  /-- Its name, without quotation marks. -/
  name : String
  /-- Where it stands. -/
  span : Span
  deriving Repr, DecidableEq

/-- A number with a point. -/
inductive FloatValue where
  /-- One that is not a number. -/
  | nan
  /-- A number, of which the sign is told apart. -/
  | number (negative : Bool) (magnitude : Double)
  deriving Repr, DecidableEq

/-- A single value. -/
inductive Scalar where
  /-- A text. -/
  | string (s : String)
  /-- A whole number. -/
  | integer (n : Int)
  /-- A number with a point. -/
  | float (f : FloatValue)
  /-- A truth value. -/
  | boolean (b : Bool)
  /-- A date, a time or both. What they are does not matter here. -/
  | moment
  deriving Repr, DecidableEq

/-- How a table came to be. -/
inductive TableKind where
  /-- It was written in braces. -/
  | inline (span : Span)
  /-- It was written under a header. -/
  | header (span : Span)
  /-- The key of a header goes through it. -/
  | passed
  /-- The key of a value goes through it. -/
  | dotted
  deriving Repr, DecidableEq

namespace TableKind

/-- Where a table stands. -/
def span? : TableKind → Option Span
  | inline span | header span => some span
  | passed | dotted => none

/-- Whether a table is there only because a longer key goes through it. -/
def isPassing : TableKind → Bool
  | passed | dotted => true
  | inline _ | header _ => false

/-- Whether a table may be entered through a header. -/
def isOpen : TableKind → Bool
  | inline _ => false
  | header _ | passed | dotted => true

end TableKind

/-- What can stand under a key. -/
inductive Item where
  /-- A single value. -/
  | scalar (span : Span) (value : Scalar)
  /-- An array. -/
  | array (span : Span) (items : List Item)
  /-- A table. -/
  | table (kind : TableKind) (entries : List (Key × Item))
  /-- Tables that were written under a header each. -/
  | tables (items : List (Span × List (Key × Item)))

/-- The items of a table with their keys. -/
abbrev Entries := List (Key × Item)

namespace Item

/-- Where an item stands. -/
def span? : Item → Option Span
  | scalar span _ | array span _ => some span
  | table kind _ => kind.span?
  | tables items =>
    match items.head?, items.getLast? with
    | some a, some b => some (a.1.through b.1)
    | _, _ => none

end Item

namespace Entries

/-- The item under a key. -/
def get? (entries : Entries) (name : String) : Option Item :=
  (entries.find? (·.1.name == name)).map (·.2)

/-- The table with another item in the place of the one under a key. -/
def replace (entries : Entries) (name : String) (item : Item) : Entries :=
  entries.map fun e ↦ if e.1.name == name then (e.1, item) else e

/-- The table without the item under a key. -/
def erase (entries : Entries) (name : String) : Entries := entries.filter (·.1.name != name)

/-- The table with another item at its end, unless there is one under that key. -/
def add? (entries : Entries) (key : Key) (item : Item) : Option Entries :=
  if (get? entries key.name).isSome then none else some (entries ++ [(key, item)])

end Entries

end TracedFibonacci.Toml
