import TracedFibonacci.Toml.Number
import TracedFibonacci.Toml.Table

/-!
# Keys and values

A key is a bare word or a quotation on one line, or several of these with dots between them. A
value is recognised by its first character. Arrays may spread over several lines and end with a
comma, tables in braces may do neither. Arrays and tables in braces are nested at most
seventy-nine deep, and a key has at most seventy-nine parts.

Nesting is the structural argument of the reader. Every round of a loop has to leave less text
than it found, which it does since it reads at least one character.
-/

namespace TracedFibonacci.Toml

/-- How deep values are nested, and how many parts a key has, at most. -/
def nesting : Nat := 79

/-- The characters of a bare key. -/
def isBare (c : Char) : Bool := c.isAlphanum || c == '-' || c == '_'

/-- One part of a key. -/
def simpleKey (cs : List Char) : Option (Key × List Char) := do
  let (name, rest) ←
    match cs with
    | '"' :: after => basic after
    | '\'' :: after => literal after
    | _ =>
      let name := cs.takeWhile isBare
      if name.isEmpty then none else some (name, cs.drop name.length)
  return (⟨String.ofList name, .between cs rest⟩, rest)

/-- The parts of a key, at least one. -/
def keyParts (cs : List Char) : Option (List Key × List Char) := do
  let (key, rest) ← simpleKey (skipGap cs)
  match skipGap rest with
  | '.' :: after =>
    if after.length < cs.length then
      let (keys, rest) ← keyParts after
      return (key :: keys, rest)
    else none
  | rest => return ([key], rest)
termination_by cs.length

/-- A key, as a path and its last part. -/
def dottedKey (cs : List Char) : Option ((List Key × Key) × List Char) := do
  let (keys, rest) ← keyParts cs
  check (keys.length ≤ nesting)
  let last ← keys.getLast?
  return ((keys.dropLast, last), rest)

/-- A value under a key. -/
def setting (value : Reading Item) (cs : List Char) : Option (Setting × List Char) := do
  let ((path, key), rest) ← dottedKey cs
  match rest with
  | '=' :: rest => do
    let (item, rest) ← value (skipGap rest)
    return (⟨path, key, item⟩, rest)
  | _ => none

/-- The rest of an array. -/
def arrayItems (value : Reading Item) (cs : List Char) : Option (List Item × List Char) := do
  let start ← skipLines false cs
  match start with
  | ']' :: rest => return ([], rest)
  | _ => do
    let (item, rest) ← value start
    match ← skipLines false rest with
    | ']' :: rest => return ([item], rest)
    | ',' :: rest =>
      if rest.length < cs.length then
        let (items, rest) ← arrayItems value rest
        return (item :: items, rest)
      else none
    | _ => none
termination_by cs.length

/-- The rest of a table in braces, which has at least one setting. -/
def inlineSettings (value : Reading Item) (cs : List Char) :
    Option (List Setting × List Char) := do
  let (s, rest) ← setting value cs
  match skipGap rest with
  | '\x7d' :: rest => return ([s], rest)
  | ',' :: rest =>
    if rest.length < cs.length then
      let (ss, rest) ← inlineSettings value rest
      return (s :: ss, rest)
    else none
  | _ => none
termination_by cs.length

/-- A value that has no other values in it. -/
def scalar (cs : List Char) : Option (Scalar × List Char) :=
  match cs with
  | c :: _ =>
    if c = '"' ∨ c = '\'' then
      (quotation cs).map fun (s, rest) ↦ (.string (String.ofList s), rest)
    else if c = '+' ∨ c = '-' ∨ c.isDigit then number cs
    else if c = 't' then (word? "true" cs).map fun rest ↦ (.boolean true, rest)
    else if c = 'f' then (word? "false" cs).map fun rest ↦ (.boolean false, rest)
    else if c = 'i' then
      (word? "inf" cs).map fun rest ↦ (.float (.number false .infinity), rest)
    else if c = 'n' then (word? "nan" cs).map fun rest ↦ (.float .nan, rest)
    else none
  | [] => none

/-- A value with at most so many others around the innermost one. -/
def value : (depth : Nat) → List Char → Option (Item × List Char)
  | 0, cs =>
    match cs with
    | '[' :: _ | '\x7b' :: _ => none
    | _ => (scalar cs).map fun (s, rest) ↦ (.scalar (.between cs rest) s, rest)
  | depth + 1, cs =>
    match cs with
    | '[' :: rest =>
      (arrayItems (value depth) rest).map fun (items, rest) ↦
        (.array (.between cs rest) items, rest)
    | '\x7b' :: rest => do
      let (settings, rest) ←
        match skipGap rest with
        | '\x7d' :: rest => some ([], rest)
        | rest => inlineSettings (value depth) rest
      let entries ← Entries.fill? [] settings
      return (.table (.inline (.between cs rest)) entries, rest)
    | _ => (scalar cs).map fun (s, rest) ↦ (.scalar (.between cs rest) s, rest)

end TracedFibonacci.Toml
