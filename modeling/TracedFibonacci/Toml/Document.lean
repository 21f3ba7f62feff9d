import TracedFibonacci.Toml.Value

/-!
# Reading a document

A document is read line by line. A line is blank or a comment, a header, or a setting; settings
belong to the last header before them, and those before the first header to the document itself. A
mark of the byte order at the very beginning is skipped. Only where a line end stands, and where
nothing but a comment precedes it, does one line end and the next begin, so a value of several
lines is one line here.

The sections are put into the document one after the other. What can go wrong is never told apart:
either a text is a document or it is none.
-/

namespace TracedFibonacci.Toml

/-- A line. -/
inductive Line where
  /-- Nothing but blanks and a comment. -/
  | blank
  /-- A header. -/
  | header (h : Header)
  /-- A setting. -/
  | setting (s : Setting)

/-- The rest of a header after its opening brackets, which `start` is the text from. -/
def header (repeats : Bool) (start cs : List Char) : Option (Header × List Char) := do
  let ((path, key), rest) ← dottedKey cs
  let after ←
    match repeats, rest with
    | false, ']' :: after => some after
    | true, ']' :: ']' :: after => some after
    | _, _ => none
  return (⟨repeats, path, key, .between start after⟩, after)

/-- The content of a line that begins with something other than a blank. -/
def lineContent (cs : List Char) : Option (Line × List Char) :=
  match cs with
  | [] | '#' :: _ | '\n' :: _ | '\r' :: _ => some (.blank, cs)
  | '[' :: '[' :: rest => (header true cs rest).map fun (h, rest) ↦ (.header h, rest)
  | '[' :: rest => (header false cs rest).map fun (h, rest) ↦ (.header h, rest)
  | _ => (setting (value nesting) cs).map fun (s, rest) ↦ (.setting s, rest)

/-- The lines of a text. -/
def lines (cs : List Char) : Option (List Line) := do
  let (line, rest) ← lineContent (skipGap cs)
  let rest ← restOfLine? rest
  if rest.isEmpty then return [line]
  else if rest.length < cs.length then return line :: (← lines rest)
  else none
termination_by cs.length

/-- The settings before the first header, and the sections after it. -/
def sections : List Line → List Setting × List Section
  | [] => ([], [])
  | .blank :: ls => sections ls
  | .setting s :: ls => let (ss, rest) := sections ls; (s :: ss, rest)
  | .header h :: ls => let (ss, rest) := sections ls; ([], ⟨h, ss⟩ :: rest)

/-- The text without the mark of the byte order it begins with. -/
def skipMark (cs : List Char) : List Char :=
  match cs with
  | '\ufeff' :: rest => rest
  | _ => cs

/-- The document with the given text. -/
def document? (cs : List Char) : Option Entries := do
  let (settings, sections) := sections (← lines (skipMark cs))
  sections.foldlM Section.addTo? (← Entries.fill? [] settings)

end TracedFibonacci.Toml
