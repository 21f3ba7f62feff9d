import TracedFibonacci.Proofs.Log.Console
import TracedFibonacci.Proofs.Request.Message

/-!
# Finding the error in the log

The record for a run that failed has the message of the error in its one field. From the record the
error can be told in full, the offending text included, whether the console writes text or JSON
(`RequestError.told_in_full`): the field is the last thing in a record of text, and in JSON it is a
string, which says itself where it ends.
-/

namespace TracedFibonacci

open Text

namespace Line

variable {p : Placeholders} {l l' : Line} {name s s' : String}

/-- In a record of text, the only field goes to the end. -/
theorem field_eq_of_text_eq (hl : l.fields = [⟨name, .plain s⟩])
    (hl' : l'.fields = [⟨name, .plain s'⟩]) (hmessage : l.message = l'.message)
    (hspan : l.message.toList.head? ≠ some 'a') (h : l.text p = l'.text p) : s = s' := by
  have htext := congrArg String.toList h
  rw [toList_text, toList_text] at htext
  have hrest := message_eq_of_append hspan (hmessage ▸ hspan) (level_eq_of_append htext).2
  rw [hmessage, List.append_cancel_left_eq, tail, tail, hl, hl'] at hrest
  exact String.toList_inj.1 (by simpa [fieldText, valueText] using hrest)

/-- In JSON it ends by itself. -/
theorem field_eq_of_json_eq (hl : l.fields = [⟨name, .plain s⟩])
    (hl' : l'.fields = [⟨name, .plain s'⟩]) (h : l.json p = l'.json p) : s = s' := by
  obtain ⟨-, -, x, y, hmembers⟩ := said_of_json_eq h
  simp only [members, hl, hl', List.flatMap_cons, List.flatMap_nil, List.append_nil,
    List.cons_append, List.append_assoc, List.cons.injEq, List.append_cancel_left_eq,
    true_and] at hmembers
  exact (Json.selfDelimiting_string hmembers).1

end Line

/-- The record for a failed run tells how it failed. -/
theorem Console.message_eq_of_told_eq {c : Console} {around around' : List Span} {e e' : RunError}
    (h : c.told around (.failed e) = c.told around' (.failed e')) : e.message = e'.message := by
  have hfields (around : List Span) (e : RunError) :
      ((Event.failed e).line around).fields = [⟨"error", .plain e.message⟩] := rfl
  unfold told write at h
  split at h
  · exact Line.field_eq_of_json_eq (hfields around e) (hfields around' e') h
  · have hspan : ((Event.failed e).line around).message.toList.head? ≠ some 'a' := by
      simp [Event.line, Event.message]
    exact Line.field_eq_of_text_eq (hfields around e) (hfields around' e') rfl hspan h

namespace RequestError

/-- **An error of the input is told in full.** Its message is that of no other error, whatever text
it is about: what kind of error it is, at which line and about which text can all be told from the
message, and from each record of the log that tells of a run that failed with it. Only of a fault of
the stream this is not said; but its message is not that of any other error. -/
theorem told_in_full {a : RequestError} (ha : ∀ f, a ≠ .unreadable f) :
    (∀ b, a.message = b.message ↔ a = b) ∧
    (∀ f, a.message ≠ (unreadable f).message) ∧
    ∀ (c : Console) (around around' : List Span) (b : RequestError),
      c.told around (.failed (.input a)) = c.told around' (.failed (.input b)) → a = b := by
  refine ⟨fun b ↦ ⟨message_inj ha, congrArg _⟩, fun f h ↦ ha f (message_inj ha h), ?_⟩
  exact fun c around around' b h ↦ message_inj ha (Console.message_eq_of_told_eq h)

/-- A text that makes its message look like that of a number that is too large. -/
theorem told_in_full_imitation :
    let a : RequestError := .malformed 7 "5\" is out of range (max 18446744073709551615)"
    let b : RequestError := .outOfRange 7 "expected an unsigned integer, got \"5\\\""
    a.message ≠ b.message ∧
    ∀ c : Console, c.told [] (.failed (.input a)) ≠ c.told [] (.failed (.input b)) := by
  intro a b
  have hne : a ≠ b := nofun
  obtain ⟨hmessage, -, htold⟩ := @told_in_full a nofun
  exact ⟨mt (hmessage b).1 hne, fun c ↦ mt (htold c [] [] b) hne⟩

end RequestError

end TracedFibonacci
