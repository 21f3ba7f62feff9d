import TracedFibonacci.Proofs.Request.Grammar
import TracedFibonacci.Proofs.Text.Quoted

/-!
# What the message of an error tells

The message of an error repeats what stood on the line, and the line came from outside. It is plain
all the same (`isPlain_of_conclude`), and it tells the error in full (`message_inj`).

Both rest on the quotation in which a text stands, with one exception: a number that is too large
stands there as it is. That it is plain is due to the order of the checks, by which only digits come
so far (`OfLine.outOfRange`). That it can be told, whatever it is, is due to the end of its message,
which is a bracket and not a quote.

A fault of the stream has a text of its own, about which nothing is known. Its message is not said
to be plain, and not to tell the fault; but it is the message of nothing else.
-/

namespace TracedFibonacci

open Text

namespace RequestError

/-! ### Plain messages -/

/-- The errors that come from what was read. -/
inductive OfLine : RequestError → Prop
  | closed : OfLine .closed
  | malformed (line : Nat) (token : String) : OfLine (.malformed line token)
  /-- Only digits are found too large. -/
  | outOfRange {line : Nat} {token : String} (h : ∀ c ∈ token.toList, c.isDigit = true) :
    OfLine (.outOfRange line token)
  | missingNewline (line : Nat) (token : String) : OfLine (.missingNewline line token)
  /-- What is not text is not shown. -/
  | notText (f : Utf8.Fault) : OfLine (Request.notText f)

theorem isPlain_lineLabel (line : Nat) : IsPlain (lineLabel line) :=
  ((isPlain_of_isGraphic (by decide)).append (isPlain_decimal line)).append
    (isPlain_of_isGraphic (by decide))

theorem isPlain_notTextMessage (f : Utf8.Fault) : IsPlain (Request.notTextMessage f) := by
  cases f with
  | invalid length index =>
    exact (((isPlain_of_isGraphic (by decide)).append (isPlain_decimal length)).append
      (isPlain_of_isGraphic (by decide))).append (isPlain_decimal index)
  | incomplete index => exact (isPlain_of_isGraphic (by decide)).append (isPlain_decimal index)

/-- **What was read is told of in plain text.** -/
theorem OfLine.isPlain {e : RequestError} (h : e.OfLine) : IsPlain e.message := by
  cases h with
  | closed => exact isPlain_of_isGraphic (by decide)
  | malformed line token | missingNewline line token =>
    exact ((isPlain_lineLabel line).append (isPlain_of_isGraphic (by decide))).append
      (isPlain_quote token)
  | @outOfRange line token h =>
    have htoken : IsPlain token := String.ofList_toList (s := token) ▸ isPlain_ofList_digits h
    exact ((isPlain_lineLabel line).append htoken).append (isPlain_of_isGraphic (by decide))
  | notText f => exact (isPlain_of_isGraphic (by decide)).append (isPlain_notTextMessage f)

end RequestError

namespace Request

theorem ofLine_of_parse {line : Nat} {raw : String} {e : RequestError}
    (h : parse line raw = .error e) : e.OfLine := by
  rw [parse] at h
  split at h
  · obtain rfl := Except.error.inj h
    exact .missingNewline line raw
  next token _ =>
    split at h
    · obtain rfl := Except.error.inj h
      exact .malformed line _
    next hdigits =>
      split at h
      · contradiction
      obtain rfl := Except.error.inj h
      have hnumeral : IsNumeral token := isNumeral_iff.2 (Bool.eq_false_iff.2 hdigits)
      exact .outOfRange fun c hc ↦ hnumeral.2 c (by rwa [String.toList_ofList] at hc)

theorem ofLine_of_receive {lines : Nat} {bs : List UInt8} {e : RequestError}
    (h : (Reader.receive lines bs).1 = .error e) : e.OfLine := by
  rw [Reader.receive] at h
  split at h
  · obtain rfl := Except.error.inj h
    exact .closed
  · split at h
    next f _ =>
      obtain rfl := Except.error.inj h
      exact .notText f
    next raw _ => exact ofLine_of_parse h

end Request

/-- **A reader whose stream does not fail tells of its errors in plain text.** -/
theorem Reader.isPlain_of_conclude {r r' : Reader} {o : Source.Outcome} {s : Source}
    {e : RequestError} (hsound : ∀ f, o ≠ .fault f) (h : r.conclude o s = (.error e, r')) :
    IsPlain e.message := by
  cases o with
  | fault f => exact absurd rfl (hsound f)
  | line bs => exact (Request.ofLine_of_receive (congrArg Prod.fst h)).isPlain

namespace RequestError

/-! ### Messages that tell errors apart -/

/-- How the message of an error begins. -/
def initial : RequestError → Char
  | .closed => 'i'
  | .malformed _ _ | .outOfRange _ _ | .missingNewline _ _ => 'l'
  | .unreadable _ => 'f'

/-- What a message says of a line, behind the number of that line. -/
def saying : RequestError → String
  | .malformed _ token => "expected an unsigned integer, got " ++ quote token
  | .outOfRange _ token => token ++ " is out of range (max 18446744073709551615)"
  | .missingNewline _ token => "missing trailing newline after " ++ quote token
  | .closed | .unreadable _ => ""

variable {a b : RequestError} {line line' : Nat}

theorem message_eq (h : a.line? = some line) : a.message = lineLabel line ++ a.saying := by
  cases a with
  | closed | unreadable => contradiction
  | malformed | outOfRange | missingNewline =>
    obtain rfl := Option.some.inj h
    exact String.append_assoc

theorem head?_message (e : RequestError) : e.message.toList.head? = some e.initial := by
  have hline {e : RequestError} {line : Nat} (h : e.line? = some line) :
      e.message.toList.head? = some 'l' := by
    rw [message_eq h, lineLabel, String.append_assoc, String.append_assoc, String.toList_append]
    rfl
  cases e with
  | closed => rfl
  | malformed | outOfRange | missingNewline => exact hline rfl
  | unreadable fault =>
    show ("failed to read input: " ++ fault.message).toList.head? = _
    rw [String.toList_append]
    rfl

/-- The number of a line ends at the colon behind it. -/
theorem lineLabel_append_inj {s t : String} (h : lineLabel line ++ s = lineLabel line' ++ t) :
    line = line' ∧ s = t := by
  have hcolon : ∀ d < 10, Numeral.digitChar d ≠ ':' := by decide
  have hchars := congrArg String.toList h
  simp only [lineLabel, Numeral.decimal, String.toList_append, String.toList_ofList,
    List.append_assoc, List.append_cancel_left_eq] at hchars
  obtain ⟨rfl, hrest⟩ := Numeral.write_append_inj (by decide) (by decide) hcolon hchars
  exact ⟨rfl, String.toList_inj.1 (List.cons.inj hrest).2⟩

/-- What ends in a quotation does not end in a bracket. -/
theorem append_quote_ne {s t u : String} (hu : u.toList.getLast? = some ')') :
    s ++ quote t ≠ u := by
  rintro rfl
  rw [String.toList_append, quote, String.toList_ofList, ← List.append_assoc,
    List.getLast?_concat] at hu
  contradiction

theorem getLast?_saying_outOfRange (line : Nat) (token : String) :
    (saying (.outOfRange line token)).toList.getLast? = some ')' := by
  show (token ++ " is out of range (max 18446744073709551615)").toList.getLast? = _
  rw [String.toList_append, List.getLast?_append]
  rfl

/-- What a message says of a line tells its error. -/
theorem saying_inj (ha : a.line? = some line) (hb : b.line? = some line)
    (h : a.saying = b.saying) : a = b := by
  have hfirst (t t' : String) :
      "expected an unsigned integer, got " ++ quote t ≠
        "missing trailing newline after " ++ quote t' := fun h ↦ by
    have hchars := congrArg (·.toList.head?) h
    simp only [String.toList_append] at hchars
    exact absurd (Option.some.inj hchars : 'e' = 'm') (by decide)
  cases a with
  | closed | unreadable => contradiction
  | malformed l t =>
    obtain rfl := Option.some.inj ha
    cases b with
    | closed | unreadable => contradiction
    | malformed l' t' =>
      obtain rfl := Option.some.inj hb
      rw [quote_inj ((String.append_right_inj _).1 h)]
    | outOfRange l' t' => exact absurd h (append_quote_ne (getLast?_saying_outOfRange l' t'))
    | missingNewline l' t' => exact absurd h (hfirst t t')
  | outOfRange l t =>
    obtain rfl := Option.some.inj ha
    cases b with
    | closed | unreadable => contradiction
    | outOfRange l' t' =>
      obtain rfl := Option.some.inj hb
      rw [(String.append_left_inj _).1 h]
    | malformed l' t' | missingNewline l' t' =>
      exact absurd h.symm (append_quote_ne (getLast?_saying_outOfRange l t))
  | missingNewline l t =>
    obtain rfl := Option.some.inj ha
    cases b with
    | closed | unreadable => contradiction
    | malformed l' t' => exact absurd h.symm (hfirst t' t)
    | outOfRange l' t' => exact absurd h (append_quote_ne (getLast?_saying_outOfRange l' t'))
    | missingNewline l' t' =>
      obtain rfl := Option.some.inj hb
      rw [quote_inj ((String.append_right_inj _).1 h)]

theorem eq_closed_of_initial (h : a.initial = 'i') : a = .closed := by
  cases a with
  | closed => rfl
  | _ => exact absurd h (by simp [initial])

theorem exists_line_of_initial (h : a.initial = 'l') : ∃ line, a.line? = some line := by
  cases a with
  | closed | unreadable => exact absurd h (by simp [initial])
  | malformed line | outOfRange line | missingNewline line => exact ⟨line, rfl⟩

/-- **The message tells the error**, unless it is a fault of the stream; and it tells it from every
such fault. -/
theorem message_inj (ha : ∀ f, a ≠ .unreadable f) (h : a.message = b.message) : a = b := by
  have hinitial : b.initial = a.initial := by
    have hfirst := head?_message a
    rw [h, head?_message b] at hfirst
    exact Option.some.inj hfirst
  cases a with
  | closed => exact (eq_closed_of_initial hinitial).symm
  | unreadable fault => exact absurd rfl (ha fault)
  | malformed line | outOfRange line | missingNewline line =>
    obtain ⟨line', hb⟩ := exists_line_of_initial hinitial
    rw [@message_eq _ line rfl, message_eq hb] at h
    obtain ⟨rfl, hsaying⟩ := lineLabel_append_inj h
    exact saying_inj rfl hb hsaying

end RequestError

end TracedFibonacci
