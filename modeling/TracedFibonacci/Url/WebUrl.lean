import TracedFibonacci.Url.Host
import TracedFibonacci.Url.Path

/-!
# URLs

Reading a URL takes it apart from the left: the scheme up to the first colon, the authority up to
the next separator, the path, the query after the first question mark and the fragment after the
first number sign. The authority is taken apart from the right: what stands before the last
at-sign are user name and password, and what stands after the last colon is the port. Blanks at
either end and tabs and line ends anywhere are no part of a URL.

URLs of the web, with the schemes `http` and `https`, are taken apart and written again in their
normal form. Of other URLs only the scheme is kept; still they have to be URLs, and the rules for
their hosts depend on the scheme.
-/

namespace TracedFibonacci.Url

open Text

/-- A URL with the scheme `http` or `https`. -/
structure WebUrl where
  /-- Whether the scheme is `https`. -/
  secure : Bool
  /-- The user name, encoded; empty without one. -/
  username : List Char := []
  /-- The password, encoded; empty without one. -/
  password : List Char := []
  /-- The host. -/
  host : Host
  /-- The port, unless it is that of the scheme. -/
  port? : Option UInt16 := none
  /-- The path, encoded. -/
  path : Path
  /-- The query, encoded. -/
  query? : Option (List Char) := none
  /-- The fragment, encoded. -/
  fragment? : Option (List Char) := none
  deriving Repr, DecidableEq

/-- What a text may be the URL of. -/
inductive Target where
  /-- Something on the web. -/
  | web (url : WebUrl)
  /-- Something else, with this scheme. -/
  | foreign (scheme : List Char)
  deriving Repr, DecidableEq

namespace WebUrl

/-- The port that belongs to the scheme. -/
def defaultPort (secure : Bool) : UInt16 := if secure then 443 else 80

/-- The scheme with what follows it. -/
def writeScheme (secure : Bool) : List Char :=
  if secure then "https://".toList else "http://".toList

/-- User name and password with what follows them. -/
def writeUser (username password : List Char) : List Char :=
  if username.isEmpty && password.isEmpty then []
  else username ++ (if password.isEmpty then [] else ':' :: password) ++ ['@']

/-- A part of a URL after its mark, if there is one. -/
def writePart (mark : Char) : Option (List Char) → List Char
  | none => []
  | some part => mark :: part

/-- The text of a URL. -/
def write (u : WebUrl) : List Char :=
  writeScheme u.secure ++ writeUser u.username u.password ++ u.host.write ++
    writePart ':' (u.port?.map fun p ↦ Numeral.write 10 p.toNat) ++ u.path.write ++
    writePart '?' u.query? ++ writePart '#' u.fragment?

/-- The text of a URL. -/
def text (u : WebUrl) : String := String.ofList u.write

end WebUrl

/-! ### Taking apart -/

/-- The parts of a text before and after the first character with a property, which belongs to
neither. -/
def cut? (p : Char → Bool) (cs : List Char) : Option (List Char × List Char) :=
  match cs.dropWhile (!p ·) with
  | [] => none
  | _ :: rest => some (cs.takeWhile (!p ·), rest)

/-- The parts of a text before and after the last at-sign. Without one there is no part before. -/
def cutUser (cs : List Char) : List Char × List Char :=
  match cut? (· == '@') cs.reverse with
  | none => ([], cs)
  | some (back, front) => (front.reverse, back.reverse)

/-- The host, and the port if there is a colon for it. Inside brackets a colon belongs to the
host. -/
def cutPort (inside : Bool) : List Char → List Char × Option (List Char)
  | [] => ([], none)
  | c :: cs =>
    if c = ':' ∧ !inside then ([], some cs)
    else
      let (host, port?) := cutPort (c = '[' || (inside && c != ']')) cs
      (c :: host, port?)

/-- The port with these digits, unless it is the default one. No digits mean no port. -/
def readPort (default? : Option UInt16) (cs : List Char) : Except Fault (Option UInt16) :=
  match Numeral.read? 10 cs with
  | none => .error .invalidPort
  | some n =>
    if 65535 < n then .error .invalidPort
    else if cs.isEmpty ∨ default? = some (UInt16.ofNat n) then .ok none
    else .ok (some (UInt16.ofNat n))

/-- What stands before the first mark, and what stands after it if there is one. -/
def cutPart (mark : Char) (cs : List Char) : List Char × Option (List Char) :=
  match cut? (· == mark) cs with
  | none => (cs, none)
  | some (before, part) => (before, some part)

/-- Whether a character ends the authority of a URL whose slashes may lean either way. -/
def endsAuthority (c : Char) : Bool := c == '/' || c == '\\' || c == '?' || c == '#'

/-- What follows the scheme of a URL of the web. -/
def readWeb (secure : Bool) (cs : List Char) : Except Fault WebUrl := do
  let cs := cs.dropWhile Path.isSeparator
  let (user, hostAndPort) := cutUser (cs.takeWhile (!endsAuthority ·))
  let (host, port?) := cutPort false hostAndPort
  if host.isEmpty then throw .emptyHost
  let host ← Host.read host
  let port? ← readPort (some (WebUrl.defaultPort secure)) (port?.getD [])
  -- the fragment comes off first, since a question mark may stand in it
  let (beforeFragment, fragment?) := cutPart '#' (cs.dropWhile (!endsAuthority ·))
  let (path, query?) := cutPart '?' beforeFragment
  let (username, password?) := cutPart ':' user
  return {
    secure, host, port?
    username := percentEncode userReserved username
    password := percentEncode userReserved (password?.getD [])
    path := Path.read path
    query? := query?.map (percentEncode queryReserved)
    fragment? := fragment?.map (percentEncode fragmentReserved) }

/-- Checks what follows the scheme of a URL that is written like one of the web but has another
scheme. -/
def checkSpecial (cs : List Char) : Except Fault Unit := do
  let cs := cs.dropWhile Path.isSeparator
  let (_, hostAndPort) := cutUser (cs.takeWhile (!endsAuthority ·))
  let (host, port?) := cutPort false hostAndPort
  if host.isEmpty then throw .emptyHost
  let _ ← Host.read host
  let _ ← readPort none (port?.getD [])

/-- Checks what follows the scheme of the URL of a file. Only what stands after two slashes can be a
host, and the letter of a drive is none. -/
def checkFile (cs : List Char) : Except Fault Unit :=
  match cs with
  | a :: b :: rest =>
    let host := rest.takeWhile (!endsAuthority ·)
    if Path.isSeparator a && Path.isSeparator b && !host.isEmpty && !Path.isDrive host then
      (Host.read host).map fun _ ↦ ()
    else .ok ()
  | _ => .ok ()

/-- Checks what follows a scheme of no particular kind. Only what stands after two slashes can be an
authority. -/
def checkPlain (cs : List Char) : Except Fault Unit :=
  match cs with
  | '/' :: '/' :: rest => do
    let ends (c : Char) : Bool := c == '/' || c == '?' || c == '#'
    let authority := rest.takeWhile (!ends ·)
    let (user, hostAndPort) := cutUser authority
    -- an at-sign alone is an empty host unless the URL ends with it
    if authority = ['@'] ∧ (rest.drop 1) ≠ [] then throw .emptyHost
    let (host, port?) := cutPort false hostAndPort
    Host.checkForeign host
    if host.isEmpty ∧ (port?.isSome ∨ (user ≠ [] ∧ user ≠ [':'])) then throw .emptyHost
    -- a backslash ends the digits of a port, though not the authority
    let _ ← readPort none ((port?.getD []).takeWhile (· != '\\'))
  | _ => .ok ()

/-- The scheme of a URL in small letters, and what follows its colon. -/
def cutScheme? (cs : List Char) : Option (List Char × List Char) :=
  (cut? (· == ':') cs).bind fun (scheme, rest) ↦
    if scheme.head?.any Char.isAlpha ∧
        scheme.all (fun c ↦ c.isAlphanum || c == '+' || c == '-' || c == '.') then
      some (scheme.map Char.toLower, rest)
    else none

/-- A text without the blanks and control characters at either end, and without tabs and line ends
anywhere. -/
def clean (cs : List Char) : List Char :=
  let edge (c : Char) : Bool := c.toNat ≤ 0x20
  -- taking these out first lets blanks behind them count as an edge
  let cs := cs.filter fun c ↦ !(c == '\t' || c == '\n' || c == '\r')
  ((cs.dropWhile edge).reverse.dropWhile edge).reverse

/-- What the given text is the URL of. -/
def read (cs : List Char) : Except Fault Target :=
  match cutScheme? (clean cs) with
  | none => .error .relative
  | some (scheme, rest) =>
    let name := String.ofList scheme
    if name = "http" then (readWeb false rest).map .web
    else if name = "https" then (readWeb true rest).map .web
    else
      let check :=
        if name = "ws" ∨ name = "wss" ∨ name = "ftp" then checkSpecial
        else if name = "file" then checkFile
        else checkPlain
      (check rest).map fun _ ↦ .foreign scheme

end TracedFibonacci.Url
