import TracedFibonacci.Text.Percent

/-!
# Paths of URLs

A path is a sequence of segments, each with a slash before it. A segment of one dot means the place
where it stands, and one of two dots the place before; both are worked out when a path is read, so a
path that was read holds none. A dot may be written with a per cent sign here. A segment that looks
like the letter of a drive is never taken back by two dots.
-/

namespace TracedFibonacci.Url

open Text

/-- What has to be encoded in a fragment. -/
def fragmentReserved : List Char := "\"<>`".toList

/-- What has to be encoded in a path. -/
def pathReserved : List Char := fragmentReserved ++ "#?\x7b\x7d".toList

/-- What has to be encoded in a query. -/
def queryReserved : List Char := "\"#<>'".toList

/-- What has to be encoded in a user name or a password. -/
def userReserved : List Char := pathReserved ++ "/:;=@[\\]^|".toList

/-- The segments of a path. There is at least one, which may be empty. -/
abbrev Path := List (List Char)

namespace Path

/-- The text of a path. -/
def write (path : Path) : List Char := path.flatMap ('/' :: ·)

/-- The path that is nothing but a slash. -/
def root : Path := [[]]

/-- Whether a text is made of so many dots. -/
def isDots : Nat → List Char → Bool
  | 0, [] => true
  | n + 1, '.' :: cs => isDots n cs
  | n + 1, '%' :: '2' :: 'e' :: cs => isDots n cs
  | n + 1, '%' :: '2' :: 'E' :: cs => isDots n cs
  | _, _ => false

/-- Whether a segment looks like the letter of a drive. -/
def isDrive : List Char → Bool
  | [c, d] => c.isAlpha && (d == ':' || d == '|')
  | _ => false

/-- A path, the last segment first, without its last segment, unless that is a drive. -/
def up : Path → Path
  | [] => []
  | s :: before => if isDrive s then s :: before else before

/-- Goes on with the path `before`, of which the last segment comes first. -/
def follow (before : Path) : Path → Path
  | [] => before.reverse
  | s :: rest =>
    if isDots 2 s then follow (if rest.isEmpty then [] :: up before else up before) rest
    else if isDots 1 s then follow (if rest.isEmpty then [] :: before else before) rest
    else follow (percentEncode pathReserved s :: before) rest

/-- A character that separates segments. -/
def isSeparator (c : Char) : Bool := c == '/' || c == '\\'

/-- The path with the given text, which is empty or begins with a separator. -/
def read (cs : List Char) : Path := follow [] ((cs.drop 1).splitOnP isSeparator)

end Path

end TracedFibonacci.Url
