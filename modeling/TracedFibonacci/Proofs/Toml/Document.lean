import TracedFibonacci.Proofs.Toml.Value
import TracedFibonacci.Toml.Document
import Mathlib.Data.List.Forall2

/-!
# Writing a document line by line

A document can be written with one line for each value and one for each header. A `Draft` is what is
to be written so, and it is read back (`Draft.exists_document?_write`): under its name stands every
value that was written under a key of one part, in the table where it was written. All that is asked
is that the values are values, and that the keys are apart. A value that is none makes the whole
text none (`Draft.document?_write_eq_none`).

Both rest on what one line adds in front of the lines after it (`exists_map_sections_write`,
`exists_map_sections_writeHeader`), by induction on the lines.
-/

namespace TracedFibonacci.Toml

open Text

/-- The item is what the text of a value is read as. -/
def Reads (text : List Char) (item : Item) : Prop :=
  ∃ rest, Stops rest ∧ value nesting (text ++ rest) = some (item, rest)

/-- A text that is no value, whatever may follow a value. -/
def Refused (text : List Char) : Prop :=
  ∀ rest, Stops rest → value nesting (skipGap (text ++ rest)) = none

/-! ### Lines -/

/-- The text of a line with a value. -/
def Assignment.writeLine (a : Assignment) : List Char := a.write ++ ['\n']

/-- The text of a line with a header. -/
def writeHeader (name : String) : List Char := '[' :: (writeKey name ++ [']', '\n'])

/-- The setting is what a line is read as. -/
structure Assignment.Sets (a : Assignment) (s : Setting) : Prop where
  /-- The key is that of the line. -/
  names : s.names = a.key
  /-- The value is that of the line. -/
  item : Reads a.text s.item

theorem lineContent_of_key {c : Char} (hc : c = '"' ∨ isBare c = true) (cs : List Char) :
    lineContent (c :: cs) =
      (setting (value nesting) (c :: cs)).map fun x ↦ (.setting x.1, x.2) := by
  have hne (d : Char) (hmark : d ≠ '"') (hbare : isBare d = false) : c ≠ d :=
    ne_of_key hc hmark hbare
  rw [lineContent.eq_def]
  split
  · contradiction
  · next h => exact absurd (List.cons.inj h).1 (hne '#' (by decide) rfl)
  · next h => exact absurd (List.cons.inj h).1 (hne '\n' (by decide) rfl)
  · next h => exact absurd (List.cons.inj h).1 (hne '\r' (by decide) rfl)
  · next h => exact absurd (List.cons.inj h).1 (hne '[' (by decide) rfl)
  · next h => exact absurd (List.cons.inj h).1 (hne '[' (by decide) rfl)
  · rfl

theorem lineContent_write (a : Assignment) (rest : List Char) :
    lineContent (skipGap (a.write ++ rest)) =
      (setting (value nesting) (a.write ++ rest)).map fun x ↦ (.setting x.1, x.2) := by
  obtain ⟨c, cs, hkey, hc⟩ := exists_writeDotted_eq_cons a.path a.name
  rw [Assignment.write_append, skipGap_writeDotted, hkey]
  exact lineContent_of_key hc _

theorem exists_lineContent_writeHeader (name : String) (rest : List Char) :
    ∃ h : Header, lineContent (skipGap (writeHeader name ++ rest)) =
        some (.header h, '\n' :: rest) ∧
      h.repeats = false ∧ h.path = [] ∧ h.key.name = name := by
  have hgap : skipGap (']' :: '\n' :: rest) = ']' :: '\n' :: rest := rfl
  have hbare : ∀ c ∈ (']' :: '\n' :: rest).head?, isBare c = false := by
    simp
    decide
  obtain ⟨keys, span, hread, hnames⟩ :=
    exists_dottedKey_writeDotted [] name hbare (by simp [hgap]) (by decide)
  obtain rfl : keys = [] := List.map_eq_nil_iff.1 hnames
  have htext : writeHeader name ++ rest = '[' :: (writeDotted [] name ++ ']' :: '\n' :: rest) := by
    simp [writeHeader, writeDotted]
  have hheader (start : List Char) :
      header false start (writeDotted [] name ++ ']' :: '\n' :: rest) =
        some (⟨false, [], ⟨name, span⟩, .between start ('\n' :: rest)⟩, '\n' :: rest) := by
    rw [header, hread, hgap]
    rfl
  obtain ⟨c, cs, hkey, hc⟩ := exists_writeDotted_eq_cons [] name
  have hbracket : c ≠ '[' := ne_of_key hc (by decide) rfl
  refine ⟨⟨false, [], ⟨name, span⟩, .between (writeHeader name ++ rest) ('\n' :: rest)⟩, ?_,
    rfl, rfl, rfl⟩
  rw [htext]
  rw [hkey, List.cons_append] at hheader ⊢
  show lineContent ('[' :: c :: (cs ++ ']' :: '\n' :: rest)) = _
  rw [lineContent.eq_def]
  split
  · contradiction
  · next h => exact absurd (List.cons.inj h).1 (by decide)
  · next h => exact absurd (List.cons.inj h).1 (by decide)
  · next h => exact absurd (List.cons.inj h).1 (by decide)
  · next h => exact absurd (List.cons.inj (List.cons.inj h).2).1 hbracket
  · next h =>
    rw [← (List.cons.inj h).2, hheader]
    rfl
  · next hno => exact absurd rfl (hno _)

/-! ### Lines and what they make up -/

theorem lines_nil : lines [] = some [.blank] := by
  rw [lines]
  rfl

/-- A line that has been read is taken off the text. -/
theorem map_sections_lines {cs rest : List Char} {line : Line}
    (h : lineContent (skipGap cs) = some (line, '\n' :: rest)) (hlt : rest.length < cs.length) :
    (lines cs).map sections = (lines rest).map fun ls ↦ sections (line :: ls) := by
  have hend : restOfLine? ('\n' :: rest) = some rest := rfl
  rw [lines, h]
  dsimp only [Option.bind_eq_bind, Option.bind_some]
  rw [hend]
  dsimp only [Option.bind_some]
  cases rest with
  | nil =>
    rw [lines_nil]
    cases line <;> rfl
  | cons c rest =>
    rw [if_neg (by simp), if_pos hlt]
    cases lines (c :: rest) <;> rfl

section Lines

variable {a : Assignment} {as : List Assignment} (rest : List Char)

/-- A line with a value is one setting more. -/
theorem exists_map_sections_write (h : a.IsValid nesting) :
    ∃ s, a.Sets s ∧ (lines (a.writeLine ++ rest)).map sections =
      ((lines rest).map sections).map fun x ↦ (s :: x.1, x.2) := by
  have hstops : Stops ('\n' :: rest) := .lineEnd rest
  have htext : a.writeLine ++ rest = a.write ++ '\n' :: rest := by simp [Assignment.writeLine]
  obtain ⟨s, hread, hnames, hitem⟩ := h.exists_setting hstops
  have hline := lineContent_write a ('\n' :: rest)
  rw [hread, ← htext] at hline
  refine ⟨s, ⟨hnames, _, hstops, hitem⟩, ?_⟩
  rw [map_sections_lines hline (by rw [htext]; exact length_lt_append_cons _ _ _), Option.map_map]
  rfl

/-- A line without a value is none, nor is the text that it begins. -/
theorem lines_eq_none_of_refused (hpath : a.path.length < nesting) (h : Refused a.text) :
    lines (a.writeLine ++ rest) = none := by
  have htext : a.writeLine ++ rest = a.write ++ '\n' :: rest := by simp [Assignment.writeLine]
  obtain ⟨_, _, hread, -⟩ := Assignment.exists_setting_write hpath (value nesting) ('\n' :: rest)
  rw [h _ (.lineEnd rest)] at hread
  have hline := lineContent_write a ('\n' :: rest)
  rw [hread, ← htext] at hline
  rw [lines, hline]
  rfl

/-- Lines with values are settings. -/
theorem exists_map_sections_flatMap_write (h : ∀ a ∈ as, a.IsValid nesting) :
    ∃ ss, List.Forall₂ Assignment.Sets as ss ∧
      (lines (as.flatMap Assignment.writeLine ++ rest)).map sections =
        ((lines rest).map sections).map fun x ↦ (ss ++ x.1, x.2) := by
  induction as with
  | nil => exact ⟨[], .nil, by cases h : lines rest <;> simp [h]⟩
  | cons a as ih =>
    rw [List.forall_mem_cons] at h
    obtain ⟨ss, hss, hrest⟩ := ih h.2
    obtain ⟨s, hs, hline⟩ :=
      exists_map_sections_write (as.flatMap Assignment.writeLine ++ rest) h.1
    refine ⟨s :: ss, .cons hs hss, ?_⟩
    rw [List.flatMap_cons, List.append_assoc, hline, hrest, Option.map_map]
    rfl

/-- A line without a value spoils the lines before it. -/
theorem lines_flatMap_write_eq_none (h : ∀ a ∈ as, a.IsValid nesting)
    (hrest : lines rest = none) : lines (as.flatMap Assignment.writeLine ++ rest) = none := by
  obtain ⟨_, -, hlines⟩ := exists_map_sections_flatMap_write rest h
  rw [hrest] at hlines
  exact Option.map_eq_none_iff.1 hlines

/-- A header begins a section. -/
theorem exists_map_sections_writeHeader (name : String) :
    ∃ h : Header, (lines (writeHeader name ++ rest)).map sections =
        ((lines rest).map sections).map (fun x ↦ ([], ⟨h, x.1⟩ :: x.2)) ∧
      h.repeats = false ∧ h.path = [] ∧ h.key.name = name := by
  obtain ⟨h, hline, hheader⟩ := exists_lineContent_writeHeader name rest
  refine ⟨h, ?_, hheader⟩
  rw [map_sections_lines hline, Option.map_map]
  · rfl
  · simp only [writeHeader, List.length_append, List.length_cons]
    omega

theorem lines_writeHeader_eq_none (name : String) (hrest : lines rest = none) :
    lines (writeHeader name ++ rest) = none := by
  obtain ⟨_, hlines, -⟩ := exists_map_sections_writeHeader rest name
  rw [hrest] at hlines
  exact Option.map_eq_none_iff.1 hlines

end Lines

/-! ### Documents -/

/-- A document line by line: the lines before the first header, and the tables with their names and
their lines. -/
structure Draft where
  /-- The lines of the document itself. -/
  top : List Assignment
  /-- The tables. -/
  tables : List (String × List Assignment)

namespace Draft

/-- The text of a table. -/
def writeTable (t : String × List Assignment) : List Char :=
  writeHeader t.1 ++ t.2.flatMap Assignment.writeLine

/-- The text of a document. -/
def write (d : Draft) : List Char :=
  d.top.flatMap Assignment.writeLine ++ d.tables.flatMap writeTable

/-- No key is in the way of another one. -/
structure Consistent (d : Draft) : Prop where
  /-- The keys of the document are apart, those of its tables among them. -/
  top : (d.top.map Assignment.key ++ d.tables.map ([·.1])).Pairwise Apart
  /-- The keys of every table are apart. -/
  tables : ∀ t ∈ d.tables, (t.2.map Assignment.key).Pairwise Apart

end Draft

/-- The section is what a table is read as. -/
structure Section.IsOf (t : String × List Assignment) (s : Section) : Prop where
  /-- The header adds no table to a sequence. -/
  once : s.header.repeats = false
  /-- Its key has one part. -/
  path : s.header.path = []
  /-- It is the name of the table. -/
  name : s.header.key.name = t.1
  /-- The settings are the lines of the table. -/
  settings : List.Forall₂ Assignment.Sets t.2 s.settings

section Tables

variable {t : String × List Assignment} {ts : List (String × List Assignment)}

theorem exists_map_sections_flatMap_writeTable
    (h : ∀ t ∈ ts, ∀ a ∈ t.2, a.IsValid nesting) :
    ∃ ss, List.Forall₂ Section.IsOf ts ss ∧
      (lines (ts.flatMap Draft.writeTable)).map sections = some ([], ss) := by
  induction ts with
  | nil =>
    refine ⟨[], .nil, ?_⟩
    rw [List.flatMap_nil, lines_nil]
    rfl
  | cons t ts ih =>
    rw [List.forall_mem_cons] at h
    obtain ⟨ss, hss, hrest⟩ := ih h.2
    obtain ⟨inner, hinner, hlines⟩ :=
      exists_map_sections_flatMap_write (ts.flatMap Draft.writeTable) h.1
    obtain ⟨header, hheader, honce, hpath, hname⟩ := exists_map_sections_writeHeader
      (t.2.flatMap Assignment.writeLine ++ ts.flatMap Draft.writeTable) t.1
    refine ⟨⟨header, inner⟩ :: ss, .cons ⟨honce, hpath, hname, hinner⟩ hss, ?_⟩
    rw [List.flatMap_cons, Draft.writeTable, List.append_assoc, hheader, hlines, hrest]
    simp

/-- Lines that are none spoil the tables before them. -/
theorem lines_flatMap_writeTable_eq_none {rest : List Char}
    (h : ∀ t ∈ ts, ∀ a ∈ t.2, a.IsValid nesting) (hrest : lines rest = none) :
    lines (ts.flatMap Draft.writeTable ++ rest) = none := by
  induction ts with
  | nil => exact hrest
  | cons t ts ih =>
    rw [List.forall_mem_cons] at h
    rw [List.flatMap_cons, Draft.writeTable, List.append_assoc, List.append_assoc]
    exact lines_writeHeader_eq_none _ _ (lines_flatMap_write_eq_none _ h.1 (ih h.2))

end Tables

/-! ### What a document holds -/

/-- A table holds the values of some lines. -/
structure Holds (as : List Assignment) (es : Entries) : Prop where
  /-- Its keys are all different. -/
  nodup : (es.map (·.1.name)).Nodup
  /-- A value under a key of one part stands there. -/
  own : ∀ a ∈ as, a.path = [] → ∃ item, es.get? a.name = some item ∧ Reads a.text item
  /-- Nothing stands under a name that no key begins with. -/
  other : ∀ name, (∀ a ∈ as, a.key.head? ≠ some name) → es.get? name = none

section Filling

variable {as : List Assignment} {ss : List Setting}

theorem map_names_of_sets (h : List.Forall₂ Assignment.Sets as ss) :
    ss.map Setting.names = as.map Assignment.key := by
  induction h with
  | nil => rfl
  | cons hs _ ih => rw [List.map_cons, List.map_cons, hs.names, ih]

theorem exists_sets_of_mem (h : List.Forall₂ Assignment.Sets as ss) {a : Assignment}
    (ha : a ∈ as) : ∃ s ∈ ss, a.Sets s := by
  induction h with
  | nil => contradiction
  | cons hs _ ih =>
    rcases List.mem_cons.1 ha with rfl | ha
    · exact ⟨_, List.mem_cons_self, hs⟩
    · obtain ⟨s, hmem, hs⟩ := ih ha
      exact ⟨s, List.mem_cons_of_mem _ hmem, hs⟩

/-- Settings fill a table that holds the values of their lines. -/
theorem exists_fill?_of_sets (h : List.Forall₂ Assignment.Sets as ss)
    (hapart : (as.map Assignment.key).Pairwise Apart) :
    ∃ es, Entries.fill? [] ss = some es ∧ Holds as es := by
  have hnames := map_names_of_sets h
  rw [← hnames] at hapart
  obtain ⟨es, hfills, hfill⟩ := Entries.exists_fills_nil hapart
  refine ⟨es, hfill, hfills.nodup List.nodup_nil, fun a ha hpath ↦ ?_, fun name hother ↦ ?_⟩
  · obtain ⟨s, hmem, hs⟩ := exists_sets_of_mem h ha
    obtain ⟨hbefore, hlast⟩ := List.append_inj' hs.names rfl
    rw [hpath, List.map_eq_nil_iff] at hbefore
    rw [← List.singleton_inj.1 hlast]
    exact ⟨_, hfills.get?_of_mem hapart hmem hbefore, hs.item⟩
  · refine hfills.get?_of_head?_ne fun s hs ↦ ?_
    have hmem : s.names ∈ as.map Assignment.key := by
      rw [← hnames]
      exact List.mem_map_of_mem hs
    obtain ⟨a, ha, hkey⟩ := List.mem_map.1 hmem
    rw [← hkey]
    exact hother a ha

theorem exists_addTo?_eq_some {t : String × List Assignment} {s : Section} {es : Entries}
    (h : s.IsOf t) (hapart : (t.2.map Assignment.key).Pairwise Apart)
    (hnew : es.get? t.1 = none) :
    ∃ inner, s.addTo? es = some (es ++ [(s.header.key, .table (.header s.span) inner)]) ∧
      Holds t.2 inner := by
  obtain ⟨inner, hfill, hholds⟩ := exists_fill?_of_sets h.settings hapart
  have herase : es.erase t.1 = es := by
    rw [Entries.erase, List.filter_eq_self]
    intro e he
    rw [Entries.get?_eq_none_iff] at hnew
    simpa using fun heq ↦ hnew (List.mem_map.2 ⟨e, he, heq⟩)
  refine ⟨inner, ?_, hholds⟩
  rw [Section.addTo?, h.path, Entries.modify?, Section.putInto?, h.once, h.name, hnew, herase]
  simp [hfill]

end Filling

namespace Draft

/-- A document holds the values of a draft. -/
structure Holds (d : Draft) (es : Entries) : Prop where
  /-- Its keys are all different. -/
  nodup : (es.map (·.1.name)).Nodup
  /-- A value of the document itself stands there, if its key has one part. -/
  own : ∀ a ∈ d.top, a.path = [] → ∃ item, es.get? a.name = some item ∧ Reads a.text item
  /-- Every table stands under its name and holds its lines. -/
  table : ∀ t ∈ d.tables, ∃ kind inner, es.get? t.1 = some (.table kind inner) ∧
    Toml.Holds t.2 inner
  /-- Nothing stands under a name that no key begins with. -/
  other : ∀ name, (∀ a ∈ d.top, a.key.head? ≠ some name) → (∀ t ∈ d.tables, t.1 ≠ name) →
    es.get? name = none

section Consistent

variable {d : Draft} {t : String × List Assignment} {ts : List (String × List Assignment)}

/-- The name of a table is new to the document and to the tables before it. -/
theorem Consistent.ne_of_append (h : Consistent ⟨d.top, d.tables ++ t :: ts⟩) :
    (∀ a ∈ d.top, a.key.head? ≠ some t.1) ∧ ∀ t' ∈ d.tables, t'.1 ≠ t.1 := by
  have happart := h.top
  rw [List.map_append, List.pairwise_append, List.pairwise_append] at happart
  obtain ⟨-, ⟨-, -, htables⟩, htop⟩ := happart
  constructor
  · intro a ha
    have hkey := htop a.key (List.mem_map_of_mem ha) [t.1] (by simp)
    exact (apart_singleton_iff.1 hkey.symm).2
  · intro t' ht'
    have hname := htables [t'.1] (List.mem_map_of_mem ht') [t.1] (by simp)
    simpa [eq_comm] using (apart_singleton_iff.1 hname).2

/-- A table more. -/
theorem Holds.append {es inner : Entries} {key : Key} {kind : TableKind} (h : d.Holds es)
    (hname : key.name = t.1) (hnew : es.get? t.1 = none) (hinner : Toml.Holds t.2 inner) :
    Holds ⟨d.top, d.tables ++ [t]⟩ (es ++ [(key, .table kind inner)]) := by
  rw [← hname] at hnew
  have hkept {name : String} {item : Item} (hget : es.get? name = some item) :
      Entries.get? (es ++ [(key, .table kind inner)]) name = some item := by
    rw [Entries.get?_append, hget, Option.some_or]
  refine ⟨Entries.nodup_append_singleton h.nodup hnew, fun a ha hpath ↦ ?_, fun t' ht' ↦ ?_,
    fun name htop htables ↦ ?_⟩
  · obtain ⟨item, hget, hitem⟩ := h.own a ha hpath
    exact ⟨item, hkept hget, hitem⟩
  · rcases List.mem_append.1 ht' with ht' | ht'
    · obtain ⟨kind', inner', hget, hinner'⟩ := h.table t' ht'
      exact ⟨kind', inner', hkept hget, hinner'⟩
    · obtain rfl := List.mem_singleton.1 ht'
      refine ⟨kind, inner, ?_, hinner⟩
      rw [Entries.get?_append, ← hname, hnew, Entries.get?_singleton_self, Option.none_or]
  · have hne : name ≠ key.name := by
      rw [hname]
      exact Ne.symm (htables t (by simp))
    rw [Entries.get?_append, Entries.get?_singleton_of_ne hne, Option.or_none]
    exact h.other name htop fun t' ht' ↦ htables t' (List.mem_append_left _ ht')

/-- Sections fill a document that holds their tables. -/
theorem exists_foldlM_addTo? {ss : List Section} {es : Entries}
    (h : List.Forall₂ Section.IsOf ts ss) (hconsistent : Consistent ⟨d.top, d.tables ++ ts⟩)
    (hholds : d.Holds es) :
    ∃ es', ss.foldlM Section.addTo? es = some es' ∧ Holds ⟨d.top, d.tables ++ ts⟩ es' := by
  induction h generalizing d es with
  | nil => exact ⟨es, rfl, by simpa using hholds⟩
  | @cons t s ts ss hs _ ih =>
    obtain ⟨htop, htables⟩ := hconsistent.ne_of_append
    have hnew : es.get? t.1 = none := hholds.other t.1 htop htables
    obtain ⟨inner, hadd, hinner⟩ :=
      exists_addTo?_eq_some hs (hconsistent.tables t (by simp)) hnew
    have hmore : Holds ⟨d.top, d.tables ++ [t]⟩
        (es ++ [(s.header.key, .table (.header s.span) inner)]) :=
      hholds.append hs.name hnew hinner
    have happend : d.tables ++ t :: ts = (d.tables ++ [t]) ++ ts := by simp
    rw [happend] at hconsistent ⊢
    rw [List.foldlM_cons, hadd]
    exact ih hconsistent hmore

end Consistent

/-- No document that was written begins with a mark of the byte order. -/
theorem skipMark_write (d : Draft) : skipMark d.write = d.write := by
  have hcons (c : Char) (cs : List Char) (hc : c ≠ '\ufeff') : skipMark (c :: cs) = c :: cs := by
    rw [skipMark.eq_def]
    split
    · next h => exact absurd (List.cons.inj h).1 hc
    · rfl
  obtain ⟨top, tables⟩ := d
  rcases top with - | ⟨a, as⟩
  · rcases tables with - | ⟨t, ts⟩
    · rfl
    · exact hcons '[' _ (by decide)
  · obtain ⟨c, cs, hkey, hc⟩ := exists_writeDotted_eq_cons a.path a.name
    rw [write, List.flatMap_cons, Assignment.writeLine, Assignment.write, hkey]
    exact hcons c _ (ne_of_key hc (by decide) rfl)

/-- **A document that was written line by line is read back.** -/
theorem exists_document?_write {d : Draft} (hconsistent : d.Consistent)
    (htop : ∀ a ∈ d.top, a.IsValid nesting)
    (htables : ∀ t ∈ d.tables, ∀ a ∈ t.2, a.IsValid nesting) :
    ∃ es, document? d.write = some es ∧ d.Holds es := by
  obtain ⟨ss, hss, hbelow⟩ := exists_map_sections_flatMap_writeTable htables
  obtain ⟨settings, hsettings, hlines⟩ :=
    exists_map_sections_flatMap_write (d.tables.flatMap writeTable) htop
  rw [hbelow] at hlines
  obtain ⟨ls, hls, hsections⟩ := Option.map_eq_some_iff.1 hlines
  have hapart := (List.pairwise_append.1 hconsistent.top).1
  obtain ⟨es, hfill, hholds⟩ := exists_fill?_of_sets hsettings hapart
  have hstart : Holds ⟨d.top, []⟩ es :=
    ⟨hholds.nodup, hholds.own, by simp, fun name h _ ↦ hholds.other name h⟩
  obtain ⟨es', hadd, hall⟩ := exists_foldlM_addTo? hss hconsistent hstart
  refine ⟨es', ?_, hall⟩
  rw [document?, skipMark_write, write, hls]
  simp [hsections, hfill, hadd]

/-- **A value that is none makes the whole text none.** -/
theorem document?_write_eq_none {d : Draft} {name : String} {before after : List Assignment}
    {a : Assignment} {ts ts' : List (String × List Assignment)}
    (htop : ∀ a ∈ d.top, a.IsValid nesting) (htables : ∀ t ∈ ts, ∀ a ∈ t.2, a.IsValid nesting)
    (hbefore : ∀ a ∈ before, a.IsValid nesting)
    (hd : d.tables = ts ++ (name, before ++ a :: after) :: ts')
    (hpath : a.path.length < nesting) (h : Refused a.text) : document? d.write = none := by
  have hlines : lines d.write = none := by
    rw [write, hd, List.flatMap_append, List.flatMap_cons, writeTable]
    refine lines_flatMap_write_eq_none _ htop (lines_flatMap_writeTable_eq_none htables ?_)
    dsimp only
    rw [List.flatMap_append, List.flatMap_cons]
    simp only [List.append_assoc]
    exact lines_writeHeader_eq_none _ _
      (lines_flatMap_write_eq_none _ hbefore (lines_eq_none_of_refused _ hpath h))
  rw [document?, skipMark_write, hlines]
  rfl

end Draft

end TracedFibonacci.Toml
