import TracedFibonacci.Toml.Item

/-!
# Pointing at a place in a document

A message about a document shows the line that it is about and marks the place in it. Lines and
columns are counted from one, a column is a character. The mark is as wide as what it marks, but
ends with the line; what it marks is measured in bytes.
-/

namespace TracedFibonacci.Toml

open Text

/-- How many bytes a text takes. -/
def byteCount (cs : List Char) : Nat := (String.ofList cs).utf8ByteSize

/-- A message with the line that it is about. -/
def pointAt (text : List Char) (span : Span) (message : String) : String :=
  let before := text.take (text.length - span.before)
  let marked := (text.drop before.length).take (span.before - span.after)
  let line := before.count '\n'
  let column := (before.reverse.takeWhile (· != '\n')).length
  let content := (text.splitOn '\n')[line]?.getD []
  let width := min (byteCount marked) (byteCount content - column)
  let number := Numeral.decimal (line + 1)
  let gutter := String.ofList (List.replicate (number.length + 1) ' ')
  "TOML parse error at line " ++ number ++ ", column " ++ Numeral.decimal (column + 1) ++ "\n" ++
    gutter ++ "|\n" ++
    number ++ " | " ++ String.ofList content ++ "\n" ++
    gutter ++ "|" ++
    String.ofList (List.replicate (column + 1) ' ' ++ List.replicate (max 1 width) '^') ++ "\n" ++
    message ++ "\n"

end TracedFibonacci.Toml
