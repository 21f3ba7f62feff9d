import TracedFibonacci.Proofs.Toml.Scalar
import TracedFibonacci.Proofs.Toml.Table

/-!
# Writing values under keys

A value can stand wherever its text is read as one, whatever may follow a value there (`IsValue`).
That is so of texts, truth values and numbers, and then of arrays and tables in braces that are
written with such values (`isValue_writeArray`, `isValue_writeInline`): the limit on nesting is the
only one.

An `Assignment` is the text of a value with its key. Where it stands, in braces or on a line of its
own, it is read as a setting with that key (`exists_setting_write`).
-/

namespace TracedFibonacci.Toml

open Text

/-! ### Values -/

/-- A text that is read as a value wherever a value can end. -/
def IsValue (depth : Nat) (text : List Char) : Prop :=
  ∀ rest, Stops rest → ∃ item, value depth (text ++ rest) = some (item, rest)

theorem isValue_quoted (depth : Nat) (s : String) : IsValue depth (quoted s.toList) :=
  fun _ h ↦ ⟨_, value_quoted depth s h⟩

theorem isValue_writeBoolean (depth : Nat) (b : Bool) : IsValue depth (writeBoolean b) :=
  fun rest _ ↦ ⟨_, value_writeBoolean depth b rest⟩

theorem isValue_write (depth : Nat) {n : Nat} (h : (n : Int) ≤ Int64.maxValue.toInt) :
    IsValue depth (Numeral.write 10 n) :=
  fun _ hrest ↦ ⟨_, (value_write depth n hrest).trans (if_pos h)⟩

section First

variable {depth : Nat} {cs : List Char} {x : Item × List Char}

/-- A value does not begin with a blank, a line end, a comment or the end of an array. -/
theorem head_notMem_of_value (h : value depth cs = some x) :
    ∀ c ∈ [' ', '\t', '\n', '\r', '#', ']'], ∀ rest, cs ≠ c :: rest := by
  rintro c hc rest rfl
  have hother : (c ≠ '[' ∧ c ≠ '\x7b') ∧ scalar (c :: rest) = none := by
    simp only [List.mem_cons, List.not_mem_nil, or_false] at hc
    rcases hc with rfl | rfl | rfl | rfl | rfl | rfl <;> exact ⟨by decide, rfl⟩
  rw [value_cons _ hother.1.1 hother.1.2, hother.2] at h
  contradiction

theorem isGap_of_value {c : Char} (h : value depth (c :: cs) = some x) : isGap c = false := by
  have hhead (d : Char) (hd : d ∈ [' ', '\t', '\n', '\r', '#', ']']) : c ≠ d := by
    rintro rfl
    exact head_notMem_of_value h c hd cs rfl
  simp [isGap, hhead ' ' (by simp), hhead '\t' (by simp)]

theorem skipGap_of_value (h : value depth cs = some x) : skipGap cs = cs := by
  cases cs with
  | nil => rfl
  | cons c cs => exact List.dropWhile_cons_of_neg (by simp [isGap_of_value h])

theorem skipLines_of_value (h : value depth cs = some x) : skipLines false cs = some cs := by
  have hhead := head_notMem_of_value h
  rw [skipLines.eq_def]
  split
  · exact absurd rfl (hhead '\n' (by simp) _)
  · exact absurd rfl (hhead '\r' (by simp) _)
  · next c cs _ _ =>
    have hcomment : c ≠ '#' := fun hc ↦ hhead '#' (by simp) cs (by rw [hc])
    simp [isGap_of_value h, hcomment]
  · rfl

end First

theorem length_lt_append_cons (text : List Char) (c : Char) (rest : List Char) :
    rest.length < (text ++ c :: rest).length := by
  simp only [List.length_append, List.length_cons]
  omega

/-! ### Keys -/

/-- The text of a key of one or several parts. -/
def writeDotted (path : List String) (name : String) : List Char :=
  path.flatMap (fun part ↦ writeKey part ++ ['.']) ++ writeKey name

theorem writeDotted_cons (part : String) (path : List String) (name : String) :
    writeDotted (part :: path) name = writeKey part ++ '.' :: writeDotted path name := by
  simp [writeDotted]

theorem exists_writeDotted_eq_cons (path : List String) (name : String) :
    ∃ c cs, writeDotted path name = c :: cs ∧ (c = '"' ∨ isBare c = true) := by
  cases path with
  | nil => exact exists_writeKey_eq_cons name
  | cons part path =>
    obtain ⟨c, cs, hkey, hc⟩ := exists_writeKey_eq_cons part
    exact ⟨c, _, by rw [writeDotted_cons, hkey]; rfl, hc⟩

/-- What a key begins with is a quotation mark or stands in a bare key. -/
theorem ne_of_key {c d : Char} (hc : c = '"' ∨ isBare c = true) (hmark : d ≠ '"')
    (hbare : isBare d = false) : c ≠ d := by
  rintro rfl
  exact hc.elim hmark fun h ↦ absurd h (by simp [hbare])

theorem skipGap_of_key {c : Char} (hc : c = '"' ∨ isBare c = true) (cs : List Char) :
    skipGap (c :: cs) = c :: cs := by
  refine List.dropWhile_cons_of_neg ?_
  simp [isGap, ne_of_key hc (show ' ' ≠ '"' by decide) rfl,
    ne_of_key hc (show '\t' ≠ '"' by decide) rfl]

theorem skipGap_writeDotted (path : List String) (name : String) (rest : List Char) :
    skipGap (writeDotted path name ++ rest) = writeDotted path name ++ rest := by
  obtain ⟨c, cs, hkey, hc⟩ := exists_writeDotted_eq_cons path name
  rw [hkey]
  exact skipGap_of_key hc _

section Parts

variable {key : Key} {cs rest : List Char}

theorem exists_simpleKey_writeKey (name : String) (h : ∀ c ∈ rest.head?, isBare c = false) :
    ∃ span, simpleKey (skipGap (writeKey name ++ rest)) = some (⟨name, span⟩, rest) := by
  have hgap : skipGap (writeKey name ++ rest) = writeKey name ++ rest :=
    skipGap_writeDotted [] name rest
  rw [hgap]
  exact ⟨_, simpleKey_writeKey name h⟩

/-- The last part of a key. -/
theorem keyParts_last (h : simpleKey (skipGap cs) = some (key, rest))
    (hdot : ∀ after, skipGap rest ≠ '.' :: after) : keyParts cs = some ([key], skipGap rest) := by
  rw [keyParts, h]
  dsimp only [Option.bind_eq_bind, Option.bind_some]
  split
  · next after hafter => exact absurd hafter (hdot after)
  · rfl

/-- A part of a key behind which others stand. -/
theorem keyParts_more (h : simpleKey (skipGap cs) = some (key, '.' :: rest))
    (hlt : rest.length < cs.length) :
    keyParts cs = (keyParts rest).map fun x ↦ (key :: x.1, x.2) := by
  have hgap : skipGap ('.' :: rest) = '.' :: rest := rfl
  rw [keyParts, h]
  dsimp only [Option.bind_eq_bind, Option.bind_some]
  rw [hgap]
  show (if rest.length < _ then (keyParts rest).bind _ else none) = _
  rw [if_pos hlt]
  cases keyParts rest <;> rfl

end Parts

section Dotted

variable (path : List String) (name : String) {rest : List Char}
  (hbare : ∀ c ∈ rest.head?, isBare c = false) (hdot : ∀ after, skipGap rest ≠ '.' :: after)
include hbare hdot

/-- The parts of a key are read back where it ends. -/
theorem exists_keyParts_writeDotted :
    ∃ keys, keyParts (writeDotted path name ++ rest) = some (keys, skipGap rest) ∧
      keys.map (·.name) = path ++ [name] := by
  induction path with
  | nil =>
    obtain ⟨span, hread⟩ := exists_simpleKey_writeKey name hbare
    exact ⟨[⟨name, span⟩], keyParts_last hread hdot, rfl⟩
  | cons part path ih =>
    obtain ⟨keys, hkeys, hnames⟩ := ih
    generalize hafter : writeDotted path name ++ rest = after at hkeys
    have htext : writeDotted (part :: path) name ++ rest = writeKey part ++ '.' :: after := by
      rw [writeDotted_cons, ← hafter]
      simp
    have hend : ∀ c ∈ ('.' :: after).head?, isBare c = false := by
      simp
      decide
    obtain ⟨span, hread⟩ := exists_simpleKey_writeKey part hend
    refine ⟨⟨part, span⟩ :: keys, ?_, congrArg (part :: ·) hnames⟩
    rw [htext, keyParts_more hread (length_lt_append_cons (writeKey part) '.' after), hkeys]
    rfl

/-- A key is read back where it ends. -/
theorem exists_dottedKey_writeDotted (hlength : path.length < nesting) :
    ∃ keys span, dottedKey (writeDotted path name ++ rest) =
      some ((keys, ⟨name, span⟩), skipGap rest) ∧ keys.map (·.name) = path := by
  obtain ⟨keys, hkeys, hnames⟩ := exists_keyParts_writeDotted path name hbare hdot
  obtain ⟨before, _, rfl, hbefore, hlast⟩ := List.map_eq_append_iff.1 hnames
  obtain ⟨last, rfl, rfl⟩ := List.map_eq_singleton_iff.1 hlast
  have hlimit : before.length + 1 ≤ nesting := by
    rw [← hbefore, List.length_map] at hlength
    exact hlength
  refine ⟨before, last.span, ?_, hbefore⟩
  simp [dottedKey, hkeys, check, hlimit]

end Dotted

/-! ### Values under keys -/

/-- The text of a value with its key. -/
structure Assignment where
  /-- All but the last part of the key. -/
  path : List String := []
  /-- The last part of the key. -/
  name : String
  /-- The text of the value. -/
  text : List Char

namespace Assignment

variable (a : Assignment)

/-- The key. -/
def key : List String := a.path ++ [a.name]

/-- The text. -/
def write : List Char := writeDotted a.path a.name ++ ' ' :: '=' :: ' ' :: a.text

/-- The key is not too long, and there is a value under it. -/
structure IsValid (depth : Nat) : Prop where
  /-- The key is not too long. -/
  path : a.path.length < nesting
  /-- There is a value. -/
  text : IsValue depth a.text

variable {a}

theorem write_append (rest : List Char) :
    a.write ++ rest = writeDotted a.path a.name ++ ' ' :: '=' :: ' ' :: (a.text ++ rest) := by
  simp [write]

/-- Where a value with its key stands, it is read as a setting. -/
theorem exists_setting_write (h : a.path.length < nesting) (read : Reading Item)
    (rest : List Char) :
    ∃ keys span, setting read (a.write ++ rest) =
        (read (skipGap (a.text ++ rest))).map (fun x ↦ (⟨keys, ⟨a.name, span⟩, x.1⟩, x.2)) ∧
      keys.map (·.name) = a.path := by
  have hbare : ∀ c ∈ (' ' :: '=' :: ' ' :: (a.text ++ rest)).head?, isBare c = false := by
    simp
    decide
  have hgap : skipGap (' ' :: '=' :: ' ' :: (a.text ++ rest)) = '=' :: ' ' :: (a.text ++ rest) :=
    rfl
  obtain ⟨keys, span, hread, hnames⟩ :=
    exists_dottedKey_writeDotted a.path a.name hbare (by rw [hgap]; simp) h
  refine ⟨keys, span, ?_, hnames⟩
  rw [write_append, setting, hread, hgap]
  show (read (skipGap (a.text ++ rest))).bind _ = _
  cases read (skipGap (a.text ++ rest)) <;> rfl

theorem IsValid.exists_setting {depth : Nat} (h : a.IsValid depth) {rest : List Char}
    (hrest : Stops rest) :
    ∃ s, setting (value depth) (a.write ++ rest) = some (s, rest) ∧ s.names = a.key ∧
      value depth (a.text ++ rest) = some (s.item, rest) := by
  obtain ⟨item, hitem⟩ := h.text rest hrest
  obtain ⟨keys, span, hread, hnames⟩ := exists_setting_write h.path (value depth) rest
  rw [skipGap_of_value hitem, hitem] at hread
  exact ⟨_, hread, by rw [Setting.names, hnames]; rfl, hitem⟩

end Assignment

/-! ### Arrays -/

/-- The text of an array. -/
def writeArray (texts : List (List Char)) : List Char :=
  '[' :: ([','].intercalate texts ++ [']'])

section Items

variable {depth : Nat} {cs rest : List Char} {item : Item}

/-- The last value of an array. -/
theorem arrayItems_last (h : value depth cs = some (item, ']' :: rest)) :
    arrayItems (value depth) cs = some ([item], rest) := by
  have hclose : skipLines false (']' :: rest) = some (']' :: rest) := by simp [skipLines, isGap]
  rw [arrayItems, skipLines_of_value h]
  dsimp only [Option.bind_eq_bind, Option.bind_some]
  split
  · exact absurd rfl (head_notMem_of_value h ']' (by simp) _)
  · rw [h]
    dsimp only [Option.bind_some]
    rw [hclose]
    rfl

/-- A value of an array behind which others stand. -/
theorem arrayItems_more (h : value depth cs = some (item, ',' :: rest))
    (hlt : rest.length < cs.length) :
    arrayItems (value depth) cs =
      (arrayItems (value depth) rest).map fun x ↦ (item :: x.1, x.2) := by
  have hcomma : skipLines false (',' :: rest) = some (',' :: rest) := by simp [skipLines, isGap]
  rw [arrayItems, skipLines_of_value h]
  dsimp only [Option.bind_eq_bind, Option.bind_some]
  split
  · exact absurd rfl (head_notMem_of_value h ']' (by simp) _)
  · rw [h]
    dsimp only [Option.bind_some]
    rw [hcomma]
    show (if rest.length < _ then (arrayItems (value depth) rest).bind _ else none) = _
    rw [if_pos hlt]
    cases arrayItems (value depth) rest <;> rfl

end Items

theorem exists_arrayItems_intercalate {depth : Nat} {texts : List (List Char)}
    (h : ∀ text ∈ texts, IsValue depth text) (rest : List Char) :
    ∃ items, arrayItems (value depth) ([','].intercalate texts ++ ']' :: rest) =
      some (items, rest) := by
  induction texts with
  | nil =>
    refine ⟨[], ?_⟩
    rw [List.intercalate_nil, List.nil_append, arrayItems]
    simp [skipLines, isGap]
  | cons text texts ih =>
    rw [List.forall_mem_cons] at h
    cases texts with
    | nil =>
      obtain ⟨item, hitem⟩ := h.1 (']' :: rest) (.bracket rest)
      rw [List.intercalate_singleton]
      exact ⟨[item], arrayItems_last hitem⟩
    | cons text' texts =>
      obtain ⟨items, hitems⟩ := ih h.2
      generalize hafter : [','].intercalate (text' :: texts) ++ ']' :: rest = after at hitems
      have htext : [','].intercalate (text :: text' :: texts) ++ ']' :: rest =
          text ++ ',' :: after := by
        rw [List.intercalate_cons_cons, ← hafter]
        simp
      obtain ⟨item, hitem⟩ := h.1 (',' :: after) (.comma after)
      refine ⟨item :: items, ?_⟩
      rw [htext, arrayItems_more hitem (length_lt_append_cons text ',' after), hitems]
      rfl

/-- An array of values is a value. -/
theorem isValue_writeArray {depth : Nat} {texts : List (List Char)}
    (h : ∀ text ∈ texts, IsValue depth text) : IsValue (depth + 1) (writeArray texts) := by
  intro rest _
  obtain ⟨items, hitems⟩ := exists_arrayItems_intercalate h rest
  have htext : writeArray texts ++ rest = '[' :: ([','].intercalate texts ++ ']' :: rest) := by
    simp [writeArray]
  rw [htext, value.eq_4, hitems]
  exact ⟨_, rfl⟩

/-! ### Tables in braces -/

/-- The text of a table in braces. -/
def writeInline (as : List Assignment) : List Char :=
  '\x7b' :: ([','].intercalate (as.map Assignment.write) ++ ['\x7d'])

section Settings

variable {read : Reading Item} {cs rest : List Char} {s : Setting}

/-- The last setting between braces. -/
theorem inlineSettings_last (h : setting read cs = some (s, '\x7d' :: rest)) :
    inlineSettings read cs = some ([s], rest) := by
  rw [inlineSettings, h]
  rfl

/-- A setting between braces behind which others stand. -/
theorem inlineSettings_more (h : setting read cs = some (s, ',' :: rest))
    (hlt : rest.length < cs.length) :
    inlineSettings read cs = (inlineSettings read rest).map fun x ↦ (s :: x.1, x.2) := by
  have hgap : skipGap (',' :: rest) = ',' :: rest := rfl
  rw [inlineSettings, h]
  dsimp only [Option.bind_eq_bind, Option.bind_some]
  rw [hgap]
  show (if rest.length < _ then (inlineSettings read rest).bind _ else none) = _
  rw [if_pos hlt]
  cases inlineSettings read rest <;> rfl

end Settings

theorem exists_inlineSettings_intercalate {depth : Nat} {as : List Assignment} (hne : as ≠ [])
    (h : ∀ a ∈ as, a.IsValid depth) (rest : List Char) :
    ∃ ss, inlineSettings (value depth)
        ([','].intercalate (as.map Assignment.write) ++ '\x7d' :: rest) = some (ss, rest) ∧
      ss.map Setting.names = as.map Assignment.key := by
  induction as with
  | nil => contradiction
  | cons a as ih =>
    rw [List.forall_mem_cons] at h
    cases as with
    | nil =>
      obtain ⟨s, hs, hnames, -⟩ := h.1.exists_setting (.brace rest)
      rw [List.map_singleton, List.intercalate_singleton]
      exact ⟨[s], inlineSettings_last hs, congrArg ([·]) hnames⟩
    | cons a' as =>
      obtain ⟨ss, hss, hnames⟩ := ih (by simp) h.2
      generalize hafter : [','].intercalate ((a' :: as).map Assignment.write) ++ '\x7d' :: rest =
        after at hss
      have htext : [','].intercalate ((a :: a' :: as).map Assignment.write) ++ '\x7d' :: rest =
          a.write ++ ',' :: after := by
        rw [List.map_cons, List.map_cons, List.intercalate_cons_cons, ← hafter]
        simp
      obtain ⟨s, hs, hname, -⟩ := h.1.exists_setting (.comma after)
      refine ⟨s :: ss, ?_, by rw [List.map_cons, hname, hnames]; rfl⟩
      rw [htext, inlineSettings_more hs (length_lt_append_cons a.write ',' after), hss]
      rfl

/-- Settings between braces begin with a key. -/
theorem exists_intercalate_write_eq_cons {as : List Assignment} (hne : as ≠ [])
    (rest : List Char) :
    ∃ c cs, [','].intercalate (as.map Assignment.write) ++ rest = c :: cs ∧
      (c = '"' ∨ isBare c = true) := by
  obtain ⟨a, as, rfl⟩ := List.exists_cons_of_ne_nil hne
  obtain ⟨c, cs, hkey, hc⟩ := exists_writeDotted_eq_cons a.path a.name
  refine ⟨c, ?_⟩
  cases as with
  | nil => simp [Assignment.write, hkey, hc]
  | cons a' as => simp [Assignment.write, hkey, hc, List.intercalate_cons_cons]

/-- A table in braces is filled by what stands there. -/
theorem exists_value_writeInline {depth : Nat} {as : List Assignment}
    (h : ∀ a ∈ as, a.IsValid depth) (rest : List Char) :
    ∃ ss, value (depth + 1) (writeInline as ++ rest) =
        ((Entries.fill? [] ss).map fun es ↦
          (.table (.inline (.between (writeInline as ++ rest) rest)) es, rest)) ∧
      ss.map Setting.names = as.map Assignment.key := by
  have htext : writeInline as ++ rest =
      '\x7b' :: ([','].intercalate (as.map Assignment.write) ++ '\x7d' :: rest) := by
    simp [writeInline]
  rw [htext, value.eq_5]
  by_cases hempty : as = []
  · subst hempty
    exact ⟨[], rfl, rfl⟩
  · obtain ⟨ss, hss, hnames⟩ := exists_inlineSettings_intercalate hempty h rest
    obtain ⟨c, cs, hcons, hc⟩ := exists_intercalate_write_eq_cons hempty ('\x7d' :: rest)
    refine ⟨ss, ?_, hnames⟩
    rw [hcons] at hss ⊢
    rw [skipGap_of_key hc]
    split
    · next hclose =>
      exact absurd (List.cons.inj hclose).1 (ne_of_key hc (show '\x7d' ≠ '"' by decide) rfl)
    · rw [hss]
      show (Entries.fill? [] ss).bind _ = _
      cases Entries.fill? [] ss <;> rfl

/-- A table in braces is a value if its keys are apart. -/
theorem isValue_writeInline {depth : Nat} {as : List Assignment} (h : ∀ a ∈ as, a.IsValid depth)
    (hapart : (as.map Assignment.key).Pairwise Apart) : IsValue (depth + 1) (writeInline as) := by
  intro rest _
  obtain ⟨ss, hread, hnames⟩ := exists_value_writeInline h rest
  rw [← hnames] at hapart
  obtain ⟨es, -, hfill⟩ := Entries.exists_fills_nil hapart
  rw [hread, hfill]
  exact ⟨_, rfl⟩

end TracedFibonacci.Toml
