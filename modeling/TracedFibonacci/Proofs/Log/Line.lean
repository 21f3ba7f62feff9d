import TracedFibonacci.Log.Line
import TracedFibonacci.Proofs.Text.Escapes

/-!
# What can be told from a written record

A record is written as text or as JSON, and several may be written alike: as text, a message can
contain what looks like the fields of another record. What can still be told is the level and how
the message begins, and if a record has no fields, all of its message (`Line.alike_of_json_eq`,
`Line.alike_of_text_eq`).

## Words that end by themselves

In JSON this is because a string says itself where it ends. As text the level has a fixed width, and
the spans behind it end with the first thing that is no span: all spans begin with the same letter,
and a message that begins with another one is none. In both cases the argument is that of a code
(`SelfDelimiting`).

## One line or more

As JSON a record is one line (`Line.newline_notMem_json`), since a string of JSON is. As text it
need not be: what is told apart here are records and not lines.
-/

namespace TracedFibonacci

open Text

/-- Between texts with something between them, it stands before every one but the first. -/
theorem Text.toList_intercalate_cons (sep s : String) (ss : List String) :
    (String.intercalate sep (s :: ss)).toList =
      s.toList ++ ss.flatMap fun t ↦ sep.toList ++ t.toList := by
  induction ss generalizing s with
  | nil => simp
  | cons t ss ih =>
    rw [String.intercalate_cons_cons, String.toList_append, ih, String.toList_append,
      List.flatMap_cons, List.append_assoc, List.append_assoc]

/-- What is in a text that is put together from others is in one of them. -/
theorem Text.mem_toList_intercalate {sep : String} {ss : List String} {c : Char}
    (h : c ∈ (String.intercalate sep ss).toList) : c ∈ sep.toList ∨ ∃ s ∈ ss, c ∈ s.toList := by
  cases ss with
  | nil => simp at h
  | cons s ss =>
    rw [toList_intercalate_cons, List.mem_append, List.mem_flatMap] at h
    rcases h with h | ⟨t, ht, h⟩
    · exact .inr ⟨s, List.mem_cons_self, h⟩
    · exact (List.mem_append.1 h).imp_right fun h ↦ ⟨t, List.mem_cons_of_mem _ ht, h⟩

namespace Text.Json

/-- Values on one line, with commas between them and something around them, are on one line. -/
theorem newline_notMem_around {left right : String} {ss : List String}
    (hleft : '\n' ∉ left.toList) (hright : '\n' ∉ right.toList) (h : ∀ s ∈ ss, '\n' ∉ s.toList) :
    '\n' ∉ (left ++ String.intercalate "," ss ++ right).toList := by
  simp only [String.toList_append, List.mem_append]
  rintro ((hmem | hmem) | hmem)
  · exact hleft hmem
  · rcases mem_toList_intercalate hmem with hmem | ⟨s, hs, hmem⟩
    · exact absurd hmem (by decide)
    · exact h s hs hmem
  · exact hright hmem

theorem newline_notMem_array {values : List String} (h : ∀ v ∈ values, '\n' ∉ v.toList) :
    '\n' ∉ (array values).toList :=
  newline_notMem_around (by decide) (by decide) h

theorem newline_notMem_object {members : List (String × String)}
    (h : ∀ m ∈ members, '\n' ∉ m.2.toList) : '\n' ∉ (object members).toList := by
  refine newline_notMem_around (by decide) (by decide) (List.forall_mem_map.2 fun m hm ↦ ?_)
  simp [newline_notMem_string, h m hm]

end Text.Json

namespace Line

variable (p : Placeholders)

/-! ### Records as text -/

/-- What a record has of a span around it. -/
def placeText (s : Span) : List Char := (spanText p s).toList ++ [':']

theorem placeText_eq (s : Span) :
    placeText p s = match s with
      | .run => "app.run\x7brun_id=".toList ++ p.runId.toList ++ ['\x7d', ':']
      | .iteration k =>
        "app.iteration\x7biteration=".toList ++ Numeral.write 10 k ++ ['\x7d', ':']
      | .poll => "app.poll:".toList
      | .compute n => "app.compute\x7bn=".toList ++ Numeral.write 10 n.toNat ++ ['\x7d', ':']
      | .report n => "app.report\x7bn=".toList ++ Numeral.write 10 n.toNat ++ ['\x7d', ':'] := by
  cases s <;>
    simp [placeText, spanText, Span.fields, Span.name, fieldText, valueText, Numeral.decimal]

/-- It ends by itself. -/
theorem selfDelimiting_placeText : SelfDelimiting (placeText p) := by
  intro s s' x y h
  rw [placeText_eq, placeText_eq] at h
  have hbrace : ∀ d < 10, Numeral.digitChar d ≠ '\x7d' := by decide
  -- Spans of two kinds differ within their names.
  cases s <;> cases s' <;>
    simp only [String.reduceToList, List.cons_append, List.nil_append, List.append_assoc,
      List.cons.injEq, List.append_cancel_left_eq, Char.reduceEq, false_and, and_false,
      true_and] at h
  case run.run => exact ⟨rfl, h⟩
  case poll.poll => exact ⟨rfl, h⟩
  case iteration.iteration k k' =>
    obtain ⟨rfl, hxy⟩ := Numeral.write_append_inj (by decide) (by decide) hbrace h
    exact ⟨rfl, (List.cons.inj hxy).2⟩
  case compute.compute n n' | report.report n n' =>
    obtain ⟨hn, hxy⟩ := Numeral.write_append_inj (by decide) (by decide) hbrace h
    obtain rfl := UInt64.toNat_inj.1 hn
    exact ⟨rfl, (List.cons.inj hxy).2⟩

theorem exists_placeText_eq_cons (s : Span) : ∃ cs, placeText p s = 'a' :: cs := by
  rw [placeText_eq]
  cases s <;> exact ⟨_, rfl⟩

/-- The place of a record: the spans that it names, with a blank before them. -/
def place (l : Line) : List Char :=
  if l.spans.isEmpty then [] else ' ' :: l.spans.flatMap (placeText p)

/-- The fields of a record, with a blank before each. -/
def tail (l : Line) : List Char := l.fields.flatMap fun f ↦ ' ' :: (fieldText p f).toList

theorem toList_text (l : Line) :
    (l.text p).toList =
      (levelText l.level).toList ++ (l.place p ++ ' ' :: (l.message.toList ++ l.tail p)) := by
  have hplace : (String.join (l.spans.map fun s ↦ spanText p s ++ ":")).toList =
      l.spans.flatMap (placeText p) := by
    rw [String.toList_join, List.flatMap_map]
    exact List.flatMap_congr fun s _ ↦ String.toList_append
  have htail : l.tail p = (l.fields.map (fieldText p)).flatMap fun t ↦ " ".toList ++ t.toList := by
    rw [List.flatMap_map]
    rfl
  rw [text, place]
  simp only [List.cons_append, List.nil_append, toList_intercalate_cons, List.flatMap_append,
    List.flatMap_cons, ← htail]
  split <;> simp [hplace]

/-- Two records have one level, and what they say can be the same as far as one of them goes. -/
structure Alike (l l' : Line) : Prop where
  /-- The levels are the same. -/
  level : l.level = l'.level
  /-- One message begins the other, and where a record has no fields, its own is not the shorter
  one. -/
  message : ∃ x y, l.message.toList ++ x = l'.message.toList ++ y ∧
    (l.fields = [] → x = []) ∧ (l'.fields = [] → y = [])

variable {p : Placeholders} {l l' : Line}

/-- The level has the same width in every record. -/
theorem level_eq_of_append {a b : Level} {x y : List Char}
    (h : (levelText a).toList ++ x = (levelText b).toList ++ y) : a = b ∧ x = y := by
  have hlength : ∀ c, (levelText c).toList.length = 5 := fun c ↦ by cases c <;> decide
  obtain ⟨htext, hxy⟩ := List.append_inj h ((hlength a).trans (hlength b).symm)
  have hinj : levelText a = levelText b → a = b := by cases a <;> cases b <;> decide
  exact ⟨hinj (String.toList_inj.1 htext), hxy⟩

/-- What stands behind the place of a record begins with no span, if its message does not. -/
theorem message_append_tail_ne (h : l.message.toList.head? ≠ some 'a') (cs : List Char) :
    l.message.toList ++ l.tail p ≠ 'a' :: cs := by
  intro heq
  cases hm : l.message.toList with
  | nil =>
    rw [hm] at heq
    cases hf : l.fields <;> simp [tail, hf] at heq
  | cons c cs' =>
    rw [hm] at heq h
    exact h (congrArg some (List.cons.inj heq).1)

/-- A record without spans is none that has them. -/
theorem spans_eq_nil_of_append (hl : l.message.toList.head? ≠ some 'a') (hs : l.spans = [])
    (h : l.place p ++ ' ' :: (l.message.toList ++ l.tail p) =
      l'.place p ++ ' ' :: (l'.message.toList ++ l'.tail p)) : l'.spans = [] := by
  cases hs' : l'.spans with
  | nil => rfl
  | cons s ss =>
    -- The other record goes on with a span, of which the first letter is no part of this message.
    obtain ⟨cs, hcs⟩ := exists_placeText_eq_cons p s
    simp only [place, hs, hs', hcs, List.flatMap_cons, List.isEmpty_nil, List.isEmpty_cons, if_true,
      Bool.false_eq_true, if_false, List.nil_append, List.cons_append, List.cons.injEq,
      true_and] at h
    exact absurd h (message_append_tail_ne hl _)

/-- The place ends where the message begins. -/
theorem message_eq_of_append (hl : l.message.toList.head? ≠ some 'a')
    (hl' : l'.message.toList.head? ≠ some 'a')
    (h : l.place p ++ ' ' :: (l.message.toList ++ l.tail p) =
      l'.place p ++ ' ' :: (l'.message.toList ++ l'.tail p)) :
    l.message.toList ++ l.tail p = l'.message.toList ++ l'.tail p := by
  by_cases hs : l.spans = []
  · have hs' : l'.spans = [] := spans_eq_nil_of_append hl hs h
    simpa [place, hs, hs'] using h
  · have hs' : l'.spans ≠ [] := fun hs' ↦ hs (spans_eq_nil_of_append hl' hs' h.symm)
    have hstop : ∀ s, ∃ c cs, placeText p s = c :: cs ∧ c ≠ ' ' := fun s ↦ by
      obtain ⟨cs, hcs⟩ := exists_placeText_eq_cons p s
      exact ⟨'a', cs, hcs, by decide⟩
    simp only [place, List.isEmpty_iff, hs, hs', if_false, List.cons_append, List.cons.injEq,
      true_and] at h
    exact ((selfDelimiting_placeText p).flatMap_append hstop h).2

/-- **Lines that are the same as text are alike**, unless a message could be a span. -/
theorem alike_of_text_eq (h : l.text p = l'.text p) (hl : l.message.toList.head? ≠ some 'a')
    (hl' : l'.message.toList.head? ≠ some 'a') : l.Alike l' := by
  have htext := congrArg String.toList h
  rw [toList_text, toList_text] at htext
  obtain ⟨hlevel, hrest⟩ := level_eq_of_append htext
  refine ⟨hlevel, l.tail p, l'.tail p, message_eq_of_append hl hl' hrest, fun hf ↦ ?_, fun hf ↦ ?_⟩
  · rw [tail, hf]; rfl
  · rw [tail, hf]; rfl

/-! ### Records as JSON -/

/-- The fields of a record as JSON, with a comma before each. -/
def members (p : Placeholders) (l : Line) : List Char :=
  l.fields.flatMap fun f ↦
    ',' :: ((Json.string f.name).toList ++ ':' :: (valueJson p f.value).toList)

/-- Records that are the same as JSON say the same, with whatever stands behind their fields. -/
theorem said_of_json_eq (h : l.json p = l'.json p) :
    l.level = l'.level ∧ l.message = l'.message ∧ ∃ x y, l.members p ++ x = l'.members p ++ y := by
  have hjson := congrArg String.toList h
  simp only [json, Json.object, List.cons_append, List.nil_append, List.map_cons, List.map_append,
    List.map_map, String.toList_append, toList_intercalate_cons, List.flatMap_cons,
    List.flatMap_append, List.append_assoc, List.append_cancel_left_eq] at hjson
  obtain ⟨hlabel, hrest⟩ := Json.selfDelimiting_string hjson
  rw [List.append_cancel_left_eq, List.append_cancel_left_eq, List.append_cancel_left_eq] at hrest
  obtain ⟨hmessage, hrest⟩ := Json.selfDelimiting_string hrest
  have hlevel : l.level = l'.level := by
    revert hlabel
    cases l.level <;> cases l'.level <;> decide
  have hmembers (l : Line) : l.members p = (l.fields.map ((fun m : String × String ↦
      Json.string m.1 ++ ":" ++ m.2) ∘ fieldJson p)).flatMap fun t ↦ ",".toList ++ t.toList := by
    rw [members, List.flatMap_map]
    exact List.flatMap_congr fun f _ ↦ by simp [fieldJson]
  rw [← hmembers, ← hmembers] at hrest
  exact ⟨hlevel, hmessage, _, _, hrest⟩

/-- **Records that are the same as JSON are alike.** -/
theorem alike_of_json_eq (h : l.json p = l'.json p) : l.Alike l' := by
  obtain ⟨hlevel, hmessage, -⟩ := said_of_json_eq h
  exact ⟨hlevel, [], [], by rw [hmessage], fun _ ↦ rfl, fun _ ↦ rfl⟩

theorem newline_notMem_valueJson (v : FieldValue) : '\n' ∉ (valueJson p v).toList := by
  cases v with
  | number n =>
    rw [valueJson, Numeral.decimal, String.toList_ofList]
    exact Numeral.notMem_write (by decide) (by decide)
  | _ => exact Json.newline_notMem_string _

theorem newline_notMem_spanJson (s : Span) : '\n' ∉ (spanJson p s).toList := by
  refine Json.newline_notMem_object ?_
  rw [List.forall_mem_append, List.forall_mem_map, List.forall_mem_singleton]
  exact ⟨fun f _ ↦ newline_notMem_valueJson f.value, Json.newline_notMem_string _⟩

/-- **As JSON a record is one line.** -/
theorem newline_notMem_json (l : Line) : '\n' ∉ (l.json p).toList := by
  have hplace (s : Span) : ∀ m ∈ [("span", spanJson p s),
      ("spans", Json.array (l.around.map (spanJson p)))], '\n' ∉ m.2.toList := by
    rw [List.forall_mem_cons, List.forall_mem_singleton]
    refine ⟨newline_notMem_spanJson s, Json.newline_notMem_array ?_⟩
    exact List.forall_mem_map.2 fun s _ ↦ newline_notMem_spanJson s
  refine Json.newline_notMem_object ?_
  rw [List.forall_mem_append, List.forall_mem_append, List.forall_mem_map, List.forall_mem_cons,
    List.forall_mem_singleton]
  refine ⟨⟨⟨Json.newline_notMem_string _, Json.newline_notMem_string _⟩,
    fun f _ ↦ newline_notMem_valueJson f.value⟩, ?_⟩
  split
  · exact List.forall_mem_nil _
  · exact hplace _

end Line

end TracedFibonacci
