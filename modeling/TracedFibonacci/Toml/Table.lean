import TracedFibonacci.Toml.Item

/-!
# Filling tables

A key can go through several tables, as `a.b.c` does. On its way it makes the tables that are not
there yet; those may be entered again by other keys, but a table that was written out, in braces or
under a header, is complete and takes no more keys from outside.

`Entries.modify?` goes along such a path and changes the table at its end. A header goes through
tables of every kind but those in braces, a dotted key only through tables that are there because of
other keys; both go through the last one of a sequence of tables.
-/

namespace TracedFibonacci.Toml

namespace Entries

/-- Which keys go along a path: those of headers, or those of values. -/
inductive Way where
  | header
  | dotted
  deriving Repr, DecidableEq

/-- The kind of the tables that a key makes on its way. -/
def Way.made : Way → TableKind
  | header => .passed
  | dotted => .dotted

/-- Whether a key may go through a table. -/
def Way.enters : Way → TableKind → Bool
  | header, kind => kind.isOpen
  | dotted, kind => kind.isPassing

/-- Changes the table at the end of a path. The change is told whether that table was made by a
dotted key. -/
def modify? (way : Way) (change : (isDotted : Bool) → Entries → Option Entries) :
    (path : List Key) → (isDotted : Bool) → Entries → Option Entries
  | [], isDotted, entries => change isDotted entries
  | key :: path, _, entries =>
    match get? entries key.name with
    | none => do
      let inner ← modify? way change path (way.made == .dotted) []
      return entries ++ [(key, .table way.made inner)]
    | some (.table kind inner) =>
      if way.enters kind then do
        return replace entries key.name
          (.table kind (← modify? way change path (kind == .dotted) inner))
      else none
    | some (.tables items) =>
      match items.getLast? with
      | none => none
      -- only the last table of a sequence can still be filled
      | some (span, inner) => do
        let inner ← modify? way change path false inner
        return replace entries key.name (.tables (items.dropLast ++ [(span, inner)]))
    | some (.scalar ..) | some (.array ..) => none

/-- Puts an item under a dotted key. All but the last part of the key are its path, and the table at
the end of a path has to be one that dotted keys made. -/
def insert? (entries : Entries) (path : List Key) (key : Key) (item : Item) : Option Entries :=
  modify? .dotted
    (fun isDotted inner ↦ if !path.isEmpty && !isDotted then none else add? inner key item)
    path false entries

end Entries

/-- A value under a key, as it is written on one line or between braces. -/
structure Setting where
  /-- All but the last part of the key. -/
  path : List Key
  /-- The last part of the key. -/
  key : Key
  /-- What stands under it. -/
  item : Item

namespace Entries

/-- Puts one setting after the other into a table. -/
def fill? (entries : Entries) (settings : List Setting) : Option Entries :=
  settings.foldlM (fun es s ↦ insert? es s.path s.key s.item) entries

end Entries

/-- A header. -/
structure Header where
  /-- Whether it adds a table to a sequence of tables. -/
  repeats : Bool
  /-- All but the last part of the key. -/
  path : List Key
  /-- The last part of the key. -/
  key : Key
  /-- Where it stands. -/
  span : Span
  deriving Repr, DecidableEq

/-- A header with the settings under it. -/
structure Section where
  /-- The header. -/
  header : Header
  /-- The settings. -/
  settings : List Setting

namespace Section

/-- Where the table of a section stands: from its header through its last value. -/
def span (s : Section) : Span :=
  match s.settings.getLast?.bind (·.item.span?) with
  | some last => s.header.span.through last
  | none => s.header.span

/-- Puts the table of a section into the table that is to hold it. A table may be there already if
the key of another header went through it; it moves to the end. -/
def putInto? (s : Section) (entries : Entries) : Option Entries :=
  let name := s.header.key.name
  if s.header.repeats then do
    let inner ← Entries.fill? [] s.settings
    match Entries.get? entries name with
    | none => return entries ++ [(s.header.key, .tables [(s.span, inner)])]
    | some (.tables items) =>
      return Entries.replace entries name (.tables (items ++ [(s.span, inner)]))
    | some _ => none
  else do
    let already ←
      match Entries.get? entries name with
      | none => some []
      -- a table that a header has only passed through may get its own header
      | some (.table .passed already) => some already
      | some _ => none
    let inner ← Entries.fill? already s.settings
    return Entries.erase entries name ++ [(s.header.key, .table (.header s.span) inner)]

/-- Puts the table of a section into a document. -/
def addTo? (document : Entries) (s : Section) : Option Entries :=
  Entries.modify? .header (fun _ ↦ s.putInto?) s.header.path false document

end Section

end TracedFibonacci.Toml
