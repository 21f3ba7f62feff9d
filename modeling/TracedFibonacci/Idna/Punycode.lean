import TracedFibonacci.Text.Numeral

/-!
# Punycode

Text with any characters, written with the characters of ASCII: first the ASCII characters of the
text, then, after a hyphen, a row of numbers that tell which other characters to insert where. A
number is written in digits to the base 36, the least significant first, and each digit tells by its
size whether it is the last. Where that limit lies adapts to the numbers that were written before.
This is the encoding of RFC 3492.

The characters are inserted in the order of their code points. A step of the decoder is therefore
one number: how many places to go on, counted through the text and on to the next code point after
each round.
-/

namespace TracedFibonacci.Idna.Punycode

open Text

/-- How many digits there are. -/
def base : Nat := 36

/-- The code point of the first character that is not ASCII. -/
def firstCode : Nat := 128

/-- The bias before the first number. -/
def firstBias : Nat := 72

/-- The limit at position `k` of a number, counted from one: a smaller digit is the last one. -/
def limit (bias k : Nat) : Nat :=
  let at? := base * k
  if at? ≤ bias + 1 then 1 else if bias + 26 ≤ at? then 26 else at? - bias

theorem limit_pos (bias k : Nat) : 1 ≤ limit bias k := by
  unfold limit
  dsimp only
  split
  · omega
  · split <;> omega

/-- Brings a number down to the size from which the bias is computed, in `k` steps so far. -/
def scale (k delta : Nat) : Nat :=
  if delta ≤ 455 then k * base + base * delta / (delta + 38) else scale (k + 1) (delta / 35)
termination_by delta
decreasing_by exact Nat.div_lt_self (by omega) (by omega)

/-- The bias after the number `delta`, when the text has `length` characters with the one that was
just inserted. -/
def adapt (delta length : Nat) (first : Bool) : Nat :=
  let delta := if first then delta / 700 else delta / 2
  scale 0 (delta + delta / length)

/-- The character of a digit: letters, then the decimal digits. -/
def digitChar (d : Nat) : Char := if d < 26 then Char.ofNat (97 + d) else Char.ofNat (22 + d)

/-- The digit of a character, in either letter case. -/
def digit? (c : Char) : Option Nat :=
  let n := c.toNat
  if 97 ≤ n ∧ n ≤ 122 then some (n - 97)
  else if 65 ≤ n ∧ n ≤ 90 then some (n - 65)
  else if 48 ≤ n ∧ n ≤ 57 then some (n - 22)
  else none

/-! ### Writing -/

/-- The digits of a number from position `k` on. -/
def writeNumber (bias k q : Nat) : List Char :=
  if q < limit bias k then [digitChar q]
  else
    let excess := q - limit bias k
    digitChar (limit bias k + excess % (base - limit bias k)) ::
      writeNumber bias (k + 1) (excess / (base - limit bias k))
termination_by q
decreasing_by
  have h1 := limit_pos bias k
  have : (q - limit bias k) / (base - limit bias k) ≤ q - limit bias k := Nat.div_le_self ..
  omega

/-- Where the encoder stands. -/
structure Writer where
  /-- How far it has gone since it last wrote a number. -/
  delta : Nat := 0
  /-- The bias. -/
  bias : Nat := firstBias
  /-- How many characters the text has so far. -/
  length : Nat
  /-- Whether no number was written yet. -/
  first : Bool := true
  /-- What was written, the latest first. -/
  written : List Char := []

/-- Goes through the text once, in search of the characters with the code point `n`. -/
def writeCode (n : Nat) (w : Writer) : List Char → Writer
  | [] => w
  | c :: cs =>
    if c.toNat < n then writeCode n { w with delta := w.delta + 1 } cs
    else if c.toNat = n then
      writeCode n
        { delta := 0
          bias := adapt w.delta (w.length + 1) w.first
          length := w.length + 1
          first := false
          written := (writeNumber w.bias 1 w.delta).reverse ++ w.written } cs
    else writeCode n w cs

/-- Writes the characters with these code points, which ascend from `n` on. -/
def writeCodes (cs : List Char) (n : Nat) (w : Writer) : List Nat → Writer
  | [] => w
  | m :: ms =>
    let w := writeCode m { w with delta := w.delta + (m - n) * (w.length + 1) } cs
    writeCodes cs (m + 1) { w with delta := w.delta + 1 } ms

/-- Whether a character is ASCII. -/
def isAscii (c : Char) : Bool := c.toNat < 128

/-- The code points above ASCII of a text, in order and each once. -/
def codes (cs : List Char) : List Nat :=
  ((cs.filter (!isAscii ·)).map Char.toNat).mergeSort.eraseReps

/-- A text in ASCII. -/
def encode (cs : List Char) : List Char :=
  let plain := cs.filter isAscii
  let w := writeCodes cs firstCode { length := plain.length } (codes cs)
  (if plain.isEmpty then [] else plain ++ ['-']) ++ w.written.reverse

/-! ### Reading -/

/-- Numbers stay below this bound. -/
def bound : Nat := UInt32.size

/-- Reads a number from position `k` on, where a digit counts `weight`, and adds it to `sum`. The
result comes with the digits after it. -/
def readNumber (bias k weight sum : Nat) : List Char → Option (Nat × List Char)
  | [] => none
  | c :: cs => do
    let d ← digit? c
    let sum := sum + d * weight
    if bound ≤ sum then none
    else
      let t := limit bias k
      if d < t then some (sum, cs)
      else
        let weight := weight * (base - t)
        if bound ≤ weight then none else readNumber bias (k + 1) weight sum cs

theorem length_lt_of_readNumber {bias k weight sum v : Nat} {cs rest : List Char}
    (h : readNumber bias k weight sum cs = some (v, rest)) : rest.length < cs.length := by
  induction cs generalizing k weight sum with
  | nil => simp [readNumber] at h
  | cons c cs ih =>
    simp only [readNumber, Option.bind_eq_bind, Option.bind_eq_some_iff] at h
    obtain ⟨d, -, h⟩ := h
    split at h
    · simp at h
    · split at h
      · simp only [Option.some.injEq, Prod.mk.injEq] at h
        simp [h.2]
      · split at h
        · simp at h
        · exact Nat.lt_succ_of_lt (ih h)

/-- Inserts the characters that the numbers `cs` tell of into `text`. The last one was inserted
before position `at?`, and had the code point `n`. -/
def insertAll (n at? bias : Nat) (text : List Char) (cs : List Char) : Option (List Char) :=
  if cs.isEmpty then some text
  else
    match h : readNumber bias 1 1 at? cs with
    | none => none
    | some (sum, rest) =>
      have := length_lt_of_readNumber h
      let size := text.length + 1
      let n := n + sum / size
      let here := sum % size
      if n.isValidChar then
        insertAll n (here + 1) (adapt (sum - at?) size (at? == 0))
          (text.take here ++ [Char.ofNat n] ++ text.drop here) rest
      else none
termination_by cs.length

/-- The parts of a text before and after its last hyphen. A hyphen with nothing before it separates
nothing. -/
def splitHyphen (cs : List Char) : List Char × List Char :=
  let back := cs.reverse
  match back.dropWhile (· != '-') with
  | [] | [_] => ([], cs)
  | _ :: front => (front.reverse, (back.takeWhile (· != '-')).reverse)

/-- The text that is written so in ASCII. -/
def decode? (cs : List Char) : Option (List Char) :=
  let (plain, numbers) := splitHyphen cs
  insertAll firstCode 0 firstBias plain numbers

end TracedFibonacci.Idna.Punycode
