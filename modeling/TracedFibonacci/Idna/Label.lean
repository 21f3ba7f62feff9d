import TracedFibonacci.Idna.Direction
import TracedFibonacci.Idna.Joining
import TracedFibonacci.Idna.Mapping
import TracedFibonacci.Idna.Punycode

/-!
# Labels of domain names

A domain name consists of labels with dots between them. A label is either plain ASCII or begins
with the marker `xn--`, and then the rest of it is Punycode for a text with other characters. What
that text may be is the same whether a user wrote the text or its encoding.

Some ASCII characters have no place in the domain name of a URL: those that end the domain name
there, the control characters and the blank, and the per cent sign.

## What the lemmas pin down

* `forall_of_fitLabel?`: a label that fits is plain ASCII without dots, and in small letters.
-/

namespace TracedFibonacci.Idna

/-- The ASCII characters that have no place in the domain name of a URL. -/
def isDenied (c : Char) : Bool :=
  c.toNat ≤ 0x20 || c.toNat == 0x7F || "%#/:<>?@[\\]^|".toList.contains c

/-- What an encoded label begins with. -/
def marker : List Char := "xn--".toList

/-- Whether a label is marked as encoded. -/
def isMarked (label : List Char) : Bool := marker.isPrefixOf label

/-- A label in ASCII. -/
def encodeLabel (label : List Char) : List Char :=
  if label.all Punycode.isAscii then label else marker ++ Punycode.encode label

/-- How long the text of an encoded label may be. -/
def textLimit : Nat := 1000

/-- How long its encoding may be. -/
def encodingLimit : Nat := 2000

/-- The text that a label in ASCII stands for. -/
def decodeLabel? (label : List Char) : Option (List Char) :=
  if isMarked label then
    let rest := label.drop marker.length
    if rest.isEmpty ∨ rest.getLast? = some '-' ∨ encodingLimit < rest.length then none
    else Punycode.decode? rest
  else some label

/-- Whether an encoded label may stand for this text: its characters stand for themselves, it is
composed, it does not begin with a mark or with the marker of an encoding, and its joiners have
something to join. -/
def textFits (text : List Char) : Bool :=
  text.all (fun c ↦ isPlain c && c != '.' && !isDenied c) && composed text == text &&
    !text.head?.any marks.contains && !isMarked text && joinersFit [] text &&
    text.length ≤ textLimit

/-- The text that a label in ASCII stands for, when it may stand in the domain name of a URL. -/
def fitLabel? (label : List Char) : Option (List Char) :=
  if label.all fun c ↦ Punycode.isAscii c && lower c == c && c != '.' && !isDenied c then
    (decodeLabel? label).filter fun text ↦ !isMarked label || textFits text
  else none

/-- A label that fits is plain ASCII without dots, and in small letters. -/
theorem forall_of_fitLabel? {label text : List Char} (h : fitLabel? label = some text) :
    ∀ c ∈ label, c.toNat < 0x80 ∧ lower c = c ∧ c ≠ '.' ∧ isDenied c = false := by
  intro c hc
  unfold fitLabel? at h
  split at h
  · next hall =>
    have := List.all_eq_true.1 hall c hc
    simp only [Punycode.isAscii, Bool.and_eq_true, decide_eq_true_eq, beq_iff_eq, bne_iff_ne,
      Bool.not_eq_true'] at this
    exact ⟨this.1.1.1, this.1.1.2, this.1.2, this.2⟩
  · simp at h

end TracedFibonacci.Idna
