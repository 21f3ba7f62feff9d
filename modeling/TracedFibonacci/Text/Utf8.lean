/-!
# UTF-8

Decoding a byte string as text, with the exact place and kind of the first fault. A fault is one of
two: bytes that begin no scalar value, with the number of bytes to be rejected together, or a
scalar value that the byte string breaks off.

The second byte of a longer sequence has a narrower range after `E0`, `ED`, `F0` and `F4`. That is
what keeps out the over-long forms, the surrogates and everything above `10FFFF`, and it is why
such a sequence is already rejected at its first byte.

## What the lemmas pin down

* `length_le_of_front`: a scalar value takes at least its first byte, so decoding goes forward.
-/

namespace TracedFibonacci.Text.Utf8

/-- Why a byte string is not text, and at which byte. -/
inductive Fault where
  /-- The next `length` bytes from `index` on begin no scalar value. -/
  | invalid (length index : Nat)
  /-- The byte string ends inside the scalar value that begins at `index`. -/
  | incomplete (index : Nat)
  deriving Repr, DecidableEq

/-- What stands at the front of a non-empty byte string. -/
inductive Front where
  /-- A scalar value and the bytes after it. -/
  | scalar (c : Char) (rest : List UInt8)
  /-- So many bytes that begin no scalar value. -/
  | invalid (length : Nat)
  /-- The beginning of a scalar value, broken off. -/
  | incomplete
  deriving Repr, DecidableEq

/-- A byte that continues a scalar value. -/
def isTrail (b : UInt8) : Bool := 0x80 ≤ b && b ≤ 0xBF

/-- Whether `b` may follow the leading byte `a` of a longer sequence. -/
def isSecond (a b : UInt8) : Bool :=
  if a == 0xE0 then 0xA0 ≤ b && b ≤ 0xBF
  else if a == 0xED then 0x80 ≤ b && b ≤ 0x9F
  else if a == 0xF0 then 0x90 ≤ b && b ≤ 0xBF
  else if a == 0xF4 then 0x80 ≤ b && b ≤ 0x8F
  else isTrail b

/-- The six bits that a trailing byte carries. -/
def payload (b : UInt8) : Nat := b.toNat % 64

/-- What the byte `a`, followed by `rest`, begins. -/
def front (a : UInt8) (rest : List UInt8) : Front :=
  if a < 0x80 then .scalar (Char.ofNat a.toNat) rest
  else if a < 0xC2 then .invalid 1
  else if a < 0xE0 then
    match rest with
    | [] => .incomplete
    | b :: rest =>
      if isTrail b then .scalar (Char.ofNat (a.toNat % 32 * 64 + payload b)) rest else .invalid 1
  else if a < 0xF0 then
    match rest with
    | [] => .incomplete
    | b :: rest =>
      if !isSecond a b then .invalid 1 else
      match rest with
      | [] => .incomplete
      | c :: rest =>
        if isTrail c then
          .scalar (Char.ofNat ((a.toNat % 16 * 64 + payload b) * 64 + payload c)) rest
        else .invalid 2
  else if a < 0xF5 then
    match rest with
    | [] => .incomplete
    | b :: rest =>
      if !isSecond a b then .invalid 1 else
      match rest with
      | [] => .incomplete
      | c :: rest =>
        if !isTrail c then .invalid 2 else
        match rest with
        | [] => .incomplete
        | d :: rest =>
          if isTrail d then
            .scalar (Char.ofNat
              (((a.toNat % 8 * 64 + payload b) * 64 + payload c) * 64 + payload d)) rest
          else .invalid 3
  else .invalid 1

/-- What follows a scalar value is no longer than what followed its first byte. -/
theorem length_le_of_front {a : UInt8} {bs rest : List UInt8} {c : Char}
    (h : front a bs = .scalar c rest) : rest.length ≤ bs.length := by
  unfold front at h
  repeat' split at h
  all_goals first
    | contradiction
    | (injection h with _ h; subst h; simp_all; try omega)

/-- Decodes `bs`, the bytes from position `index` on. -/
def decodeFrom (index : Nat) : List UInt8 → Except Fault (List Char)
  | [] => .ok []
  | a :: bs =>
    match h : front a bs with
    | .scalar c rest =>
      have := length_le_of_front h
      match decodeFrom (index + c.utf8Size) rest with
      | .ok cs => .ok (c :: cs)
      | .error e => .error e
    | .invalid length => .error (.invalid length index)
    | .incomplete => .error (.incomplete index)
termination_by bs => bs.length
decreasing_by simp; omega

/-- The text that a byte string encodes, or its first fault. -/
def decode (bs : List UInt8) : Except Fault String := (decodeFrom 0 bs).map String.ofList

end TracedFibonacci.Text.Utf8
