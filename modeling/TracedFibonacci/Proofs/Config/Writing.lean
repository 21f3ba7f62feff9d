import TracedFibonacci.Proofs.Config.Validation
import TracedFibonacci.Proofs.Text.Utf8
import TracedFibonacci.Proofs.Toml.Document
import Mathlib.Data.List.Nodup

/-!
# Writing settings into a file

Settings can be written into a document: each of them or not, the name of the service before all
tables and the others in the two tables of their groups. `WrittenSettings.In` says that a draft of a
document does so. It leaves open in which order the tables and their lines stand, and which keys and
tables there are besides, as long as their names mean nothing in the place where they stand. Any
settings can be written so (`WrittenSettings.in_draft`).

What is written so is read back (`Settings.load_write`): a setting has the value that was written,
or its default. Only a delay of 2 ^ 63 or more is too much for the whole numbers of a document,
which then is none.

## What it rests on

A draft is read as a document that holds its values. `Statements.In.tells` finds what is said about
a setting under its name, whatever else stands in the table, and `Shape.Tells` is then all that is
needed of the table: the reading succeeds (`exists_entries_eq_ok`), and what the file says is what
was written, so that it governs the settings as any source does.
-/

namespace TracedFibonacci

open Text Toml

/-! ### Reading what stands under the names of a group -/

namespace Shape

section Items

variable {α β : Type} {g : Group α} {es : Entries} {name : String}

/-- In a table whose keys are all different, the item for a setting is the one under its name. -/
theorem Group.item?_table (hnodup : (es.map (·.1.name)).Nodup) (kind : TableKind) :
    g.item? name (.table kind es) = es.get? name := by
  rw [item?, items]
  induction es with
  | nil => rfl
  | cons e es ih =>
    rw [List.map_cons, List.nodup_cons] at hnodup
    rw [List.map_cons, List.reverse_cons, List.lookup_append, ih hnodup.2]
    by_cases hname : e.1.name = name
    · subst hname
      rw [Entries.get?_eq_none_iff.2 hnodup.1]
      simp [Entries.get?]
    · simp [Entries.get?, hname, List.lookup_cons, beq_false_of_ne (Ne.symm hname)]

/-- A group is read if everything under its names is. -/
theorem Group.exists_entries_eq_ok
    (h : ∀ e ∈ es, ∀ f ∈ g.fields, f.1 = e.1.name → ∀ a, ∃ b, f.2 a e.2 = .ok b) (a : α) :
    ∃ b, g.entries a es = .ok b := by
  induction es generalizing a with
  | nil => exact ⟨a, rfl⟩
  | cons e es ih =>
    rw [List.forall_mem_cons] at h
    obtain ⟨b, hentry⟩ : ∃ b, g.entry a e = .ok b := by
      rw [entry]
      cases hfind : g.fields.find? (·.1 == e.1.name) with
      | none => exact ⟨a, rfl⟩
      | some f =>
        have hname : f.1 = e.1.name := by simpa using List.find?_some hfind
        obtain ⟨b, hset⟩ := h.1 f (List.mem_of_find?_eq_some hfind) hname a
        exact ⟨b, located_eq_ok.2 hset⟩
    rw [entries, List.foldlM_cons, hentry]
    exact ih h.2 b

/-- Under a name stands an item that tells the value, or nothing where there is no value. -/
def Tells (es : Entries) (name : String) (read : Item → Read β) (x? : Option β) : Prop :=
  Option.Rel (fun item v ↦ read item = .ok v) (es.get? name) x?

namespace Tells

variable {read : Item → Read β} {x? : Option β} (h : Tells es name read x?)
include h

theorem value?_eq (hnodup : (es.map (·.1.name)).Nodup) (kind : TableKind) :
    g.value? name read (.table kind es) = x? := by
  rw [Group.value?, Group.item?_table hnodup]
  rw [Tells] at h
  generalize es.get? name = found at h ⊢
  cases h with
  | some hread =>
    rw [Option.bind_some, hread]
    rfl
  | none => rfl

theorem exists_read_eq_ok (hnodup : (es.map (·.1.name)).Nodup) {e : Key × Item} (he : e ∈ es)
    (hname : name = e.1.name) : ∃ v, read e.2 = .ok v := by
  rw [Tells, hname, Entries.get?_of_mem hnodup he] at h
  cases h with
  | some hread => exact ⟨_, hread⟩

end Tells

end Items

end Shape

/-! ### What is written -/

/-- Settings that are written: each of them or not, and with any values. A delay can be any number,
whether there is room for it or not. -/
structure WrittenSettings where
  /-- The name of the service. -/
  serviceName? : Option String := none
  /-- The endpoint of a collector. -/
  endpoint? : Option String := none
  /-- The address of the metrics. -/
  metricsAddress? : Option String := none
  /-- The level of the log. -/
  logLevel? : Option String := none
  /-- Whether the log is written as JSON. -/
  jsonLogs? : Option Bool := none
  /-- What becomes of a number that does not fit a word. -/
  overflow? : Option OverflowPolicy := none
  /-- How long a computation takes, in microseconds. -/
  workDelayUs? : Option Nat := none

/-- Values under names, as texts. Where there is no text, nothing is said. -/
abbrev Statements := List (String × Option (List Char))

/-- The lines with what is said. -/
def Statements.lines (said : Statements) : List Assignment :=
  said.filterMap fun x ↦ x.2.map fun text ↦ { name := x.1, text }

namespace WrittenSettings

variable (w : WrittenSettings)

/-- What is said by writing them. -/
def said : PartialSettings where
  serviceName? := w.serviceName?
  endpoint? := w.endpoint?
  metricsAddress? := w.metricsAddress?
  logLevel? := w.logLevel?
  jsonLogs? := w.jsonLogs?
  overflow? := w.overflow?
  workDelayUs? := w.workDelayUs?.map UInt64.ofNat

/-- The values that are written, and the defaults of all other settings. -/
def settings : Settings := .firstOf [w.said]

/-- The delay, if one is written, is less than 2 ^ 63, so that a document can hold it. -/
def Fits : Prop := ∀ n, w.workDelayUs? = some n → n < 0x8000000000000000

/-- What is written in no table. -/
def top : Statements := [("service_name", w.serviceName?.map fun s ↦ quoted s.toList)]

/-- What is written in the table of telemetry. -/
def telemetry : Statements := [
  ("endpoint", w.endpoint?.map fun s ↦ quoted s.toList),
  ("metrics_address", w.metricsAddress?.map fun s ↦ quoted s.toList),
  ("log_level", w.logLevel?.map fun s ↦ quoted s.toList),
  ("json_logs", w.jsonLogs?.map writeBoolean)]

/-- What is written in the table of the runner. -/
def runner : Statements := [
  ("overflow", w.overflow?.map fun p ↦ quoted p.name.toList),
  ("work_delay_us", w.workDelayUs?.map (Numeral.write 10))]

end WrittenSettings

/-- The lines of a table are those with what is said, in any order and among others, whose keys
begin with no name of the group. -/
def Statements.In {α : Type} (said : Statements) (g : Shape.Group α) (as : List Assignment) :
    Prop :=
  ∃ extra, as.Perm (said.lines ++ extra) ∧
    ∀ a ∈ extra, a.IsValid nesting ∧ ∀ f ∈ g.fields, a.key.head? ≠ some f.1

/-- The lines of the table with the given name, if there is one. -/
def Toml.Draft.table (d : Draft) (name : String) : List Assignment := (d.tables.lookup name).getD []

/-- Every table is the one with its name. -/
theorem Toml.Draft.Consistent.table_of_mem {d : Draft} {t : String × List Assignment}
    (h : d.Consistent) (ht : t ∈ d.tables) : d.table t.1 = t.2 := by
  obtain ⟨before, after, htables⟩ := List.append_of_mem ht
  have hbefore : ∀ t' ∈ before, t'.1 ≠ t.1 :=
    (Consistent.ne_of_append (d := ⟨d.top, before⟩) (by rwa [← htables])).2
  have hlookup : d.tables.lookup t.1 = some t.2 :=
    List.lookup_eq_some_iff.2 ⟨before, after, htables, fun t' ht' ↦
      bne_iff_ne.2 (Ne.symm (hbefore t' ht'))⟩
  rw [table, hlookup]
  rfl

/-- The draft writes the settings. Its tables stand in any order, the lines of a table too, and
there can be any other keys and tables. -/
structure WrittenSettings.In (w : WrittenSettings) (d : Draft) : Prop where
  /-- No key is in the way of another one. -/
  consistent : d.Consistent
  /-- What stands before the tables. -/
  top : w.top.In Shape.settings d.top
  /-- What stands in the table of telemetry. -/
  telemetry : w.telemetry.In Shape.telemetry (d.table "telemetry")
  /-- What stands in the table of the runner. -/
  runner : w.runner.In Shape.runner (d.table "runner")
  /-- Other tables stand under names that mean nothing. -/
  other : ∀ t ∈ d.tables, t.1 ∉ ["telemetry", "runner"] →
    t.1 ≠ "service_name" ∧ ∀ a ∈ t.2, a.IsValid nesting

theorem Statements.mem_lines {said : Statements} {a : Assignment} :
    a ∈ said.lines ↔ a.path = [] ∧ (a.name, some a.text) ∈ said := by
  rw [lines, List.mem_filterMap]
  constructor
  · rintro ⟨⟨name, text?⟩, hx, ha⟩
    obtain ⟨text, rfl, rfl⟩ := Option.map_eq_some_iff.1 ha
    exact ⟨rfl, hx⟩
  · obtain ⟨path, name, text⟩ := a
    rintro ⟨rfl, hmem⟩
    exact ⟨_, hmem, rfl⟩

theorem Statements.pairwise_lines {said : Statements} (h : (said.map (·.1)).Nodup) :
    (said.lines.map Assignment.key).Pairwise Apart := by
  induction said with
  | nil => exact .nil
  | cons x said ih =>
    obtain ⟨name, text?⟩ := x
    rw [List.map_cons, List.nodup_cons] at h
    cases text? with
    | none => exact ih h.2
    | some text =>
      refine List.pairwise_cons.2 ⟨fun key hkey ↦ ?_, ih h.2⟩
      obtain ⟨a, ha, rfl⟩ := List.mem_map.1 hkey
      obtain ⟨hpath, hsaid⟩ := Statements.mem_lines.1 ha
      have hname : a.name ≠ name := fun heq ↦ h.1 (List.mem_map.2 ⟨_, hsaid, heq⟩)
      refine apart_singleton_iff.2 ⟨by simp [Assignment.key], ?_⟩
      simpa [Assignment.key, hpath] using hname

/-- A draft with nothing but the settings. -/
def WrittenSettings.draft (w : WrittenSettings) : Draft where
  top := w.top.lines
  tables := [("telemetry", w.telemetry.lines), ("runner", w.runner.lines)]

/-- Any settings can be written. -/
theorem WrittenSettings.in_draft (w : WrittenSettings) : w.In w.draft := by
  have hnames : ∀ t ∈ w.draft.tables, t.1 ∈ ["telemetry", "runner"] := by simp [draft]
  -- the names of the tables are keys of the document like that of the service
  let whole : Statements := w.top ++ [("telemetry", some []), ("runner", some [])]
  have htop : (whole.lines.map Assignment.key).Pairwise Apart :=
    Statements.pairwise_lines (by simp [whole, top])
  refine ⟨⟨?_, ?_⟩, ⟨[], by simp [draft], by simp⟩, ⟨[], ?_, by simp⟩, ⟨[], ?_, by simp⟩,
    fun t ht hname ↦ absurd (hnames t ht) hname⟩
  · simpa [whole, Statements.lines, draft, Assignment.key] using htop
  · have htelemetry : (w.telemetry.lines.map Assignment.key).Pairwise Apart :=
      Statements.pairwise_lines (by simp [telemetry])
    have hrunner : (w.runner.lines.map Assignment.key).Pairwise Apart :=
      Statements.pairwise_lines (by simp [runner])
    simpa [draft] using ⟨htelemetry, hrunner⟩
  · simp [draft, Draft.table]
  · simp [draft, Draft.table, List.lookup_cons]

/-! ### Reading it back -/

/-- The whole numbers of a document are those less than 2 ^ 63. -/
theorem le_maxValue_iff (n : Nat) :
    (n : Int) ≤ Int64.maxValue.toInt ↔ n < 0x8000000000000000 := by
  have hmax : Int64.maxValue.toInt = 0x7fffffffffffffff := by decide
  omega

/-- A number for which a document has no room is no value. -/
theorem refused_write {n : Nat} (h : 0x8000000000000000 ≤ n) : Refused (Numeral.write 10 n) := by
  intro rest hrest
  have hlarge : ¬(n : Int) ≤ Int64.maxValue.toInt := by
    rw [le_maxValue_iff]
    omega
  rw [skipGap_write, value_write nesting n hrest, if_neg hlarge]

section Values

variable {item : Item}

theorem string_of_reads {s : String} (h : Reads (quoted s.toList) item) :
    Shape.string item = .ok s := by
  obtain ⟨rest, hrest, hvalue⟩ := h
  rw [value_quoted nesting s hrest] at hvalue
  obtain ⟨rfl, -⟩ := Prod.mk.inj (Option.some.inj hvalue)
  rfl

theorem policy_of_reads {p : OverflowPolicy} (h : Reads (quoted p.name.toList) item) :
    Shape.policy item = .ok p := by
  obtain ⟨rest, hrest, hvalue⟩ := h
  rw [value_quoted nesting p.name hrest] at hvalue
  obtain ⟨rfl, -⟩ := Prod.mk.inj (Option.some.inj hvalue)
  rw [Shape.policy, Shape.policyNamed, OverflowPolicy.ofName?_name]

theorem boolean_of_reads {b : Bool} (h : Reads (writeBoolean b) item) :
    Shape.boolean item = .ok b := by
  obtain ⟨rest, -, hvalue⟩ := h
  rw [value_writeBoolean nesting b rest] at hvalue
  obtain ⟨rfl, -⟩ := Prod.mk.inj (Option.some.inj hvalue)
  rfl

theorem word_of_reads {n : Nat} (h : Reads (Numeral.write 10 n) item) :
    Shape.word item = .ok (UInt64.ofNat n) := by
  obtain ⟨rest, hrest, hvalue⟩ := h
  rw [value_write nesting n hrest] at hvalue
  split at hvalue
  · obtain ⟨rfl, -⟩ := Prod.mk.inj (Option.some.inj hvalue)
    simp [Shape.word]
  · contradiction

end Values

section Lists

variable {α β : Type} {g : Shape.Group α} {said : Statements} {as : List Assignment}

namespace Statements.In

variable (h : said.In g as)
include h

theorem mem_of_mem_lines {a : Assignment} (ha : a ∈ said.lines) : a ∈ as := by
  obtain ⟨extra, hperm, -⟩ := h
  exact hperm.symm.subset (List.mem_append_left _ ha)

/-- A line has a value if what is said has one. -/
theorem isValid {a : Assignment} (ha : a ∈ as)
    (hown : a ∈ said.lines → IsValue nesting a.text) : a.IsValid nesting := by
  obtain ⟨extra, hperm, hextra⟩ := h
  rcases List.mem_append.1 (hperm.subset ha) with ha | ha
  · exact ⟨by simp [(Statements.mem_lines.1 ha).1, nesting], hown ha⟩
  · exact (hextra a ha).1

/-- No line begins with a name of the group about which nothing is said. -/
theorem head?_ne {name : String} (hknown : name ∈ g.fields.map (·.1))
    (hunsaid : ∀ text, (name, some text) ∉ said) : ∀ a ∈ as, a.key.head? ≠ some name := by
  obtain ⟨extra, hperm, hextra⟩ := h
  intro a ha
  rcases List.mem_append.1 (hperm.subset ha) with ha | ha
  · obtain ⟨hpath, hsaid⟩ := Statements.mem_lines.1 ha
    rw [Assignment.key, hpath]
    intro hhead
    obtain rfl : a.name = name := by simpa using hhead
    exact hunsaid a.text hsaid
  · obtain ⟨f, hf, rfl⟩ := List.mem_map.1 hknown
    exact (hextra a ha).2 f hf

/-- Under a name of the group stands what is said, if something is said. -/
theorem tells {es : Entries} {name : String} {read : Item → Shape.Read β} {x? : Option β}
    {write : β → List Char} (hnodup : (said.map (·.1)).Nodup)
    (hread : ∀ x item, Reads (write x) item → read item = .ok x)
    (hmem : (name, x?.map write) ∈ said) (hknown : name ∈ g.fields.map (·.1))
    (hown : ∀ a ∈ as, a.path = [] → ∃ item, es.get? a.name = some item ∧ Reads a.text item)
    (hother : (∀ a ∈ as, a.key.head? ≠ some name) → es.get? name = none) :
    Shape.Tells es name read x? := by
  rw [Shape.Tells]
  cases x? with
  | none =>
    have hunsaid : ∀ text, (name, some text) ∉ said := fun text hsaid ↦ by
      simpa using List.inj_on_of_nodup_map hnodup hsaid hmem rfl
    rw [hother (h.head?_ne hknown hunsaid)]
    exact .none
  | some x =>
    have hline : ({ name, text := write x } : Assignment) ∈ as :=
      h.mem_of_mem_lines (Statements.mem_lines.2 ⟨rfl, hmem⟩)
    obtain ⟨item, hget, hitem⟩ := hown _ hline rfl
    rw [hget]
    exact .some (hread x item hitem)

theorem tells_of_holds {es : Entries} {name : String} {read : Item → Shape.Read β}
    {x? : Option β} {write : β → List Char} (hes : Holds as es)
    (hnodup : (said.map (·.1)).Nodup)
    (hread : ∀ x item, Reads (write x) item → read item = .ok x)
    (hmem : (name, x?.map write) ∈ said) (hknown : name ∈ g.fields.map (·.1)) :
    Shape.Tells es name read x? :=
  h.tells hnodup hread hmem hknown hes.own (hes.other name)

end Statements.In

end Lists

/-- A setting that has been read is put in place. -/
theorem exists_put_eq_ok {α β : Type} {x : Shape.Read β} (h : ∃ v, x = .ok v) (put : β → α) :
    ∃ b, (do return put (← x) : Shape.Read α) = .ok b := by
  obtain ⟨v, rfl⟩ := h
  exact ⟨put v, rfl⟩

section Groups

variable {w : WrittenSettings} {as : List Assignment} {es : Entries}

theorem tells_telemetry (h : w.telemetry.In Shape.telemetry as) (hes : Holds as es) :
    Shape.Tells es "endpoint" Shape.string w.endpoint? ∧
      Shape.Tells es "metrics_address" Shape.string w.metricsAddress? ∧
      Shape.Tells es "log_level" Shape.string w.logLevel? ∧
      Shape.Tells es "json_logs" Shape.boolean w.jsonLogs? := by
  have hnodup : (w.telemetry.map (·.1)).Nodup := by simp [WrittenSettings.telemetry]
  refine ⟨?_, ?_, ?_, ?_⟩
  · exact h.tells_of_holds hes hnodup (fun _ _ ↦ string_of_reads)
      (by simp [WrittenSettings.telemetry]) (by simp [Shape.telemetry])
  · exact h.tells_of_holds hes hnodup (fun _ _ ↦ string_of_reads)
      (by simp [WrittenSettings.telemetry]) (by simp [Shape.telemetry])
  · exact h.tells_of_holds hes hnodup (fun _ _ ↦ string_of_reads)
      (by simp [WrittenSettings.telemetry]) (by simp [Shape.telemetry])
  · exact h.tells_of_holds hes hnodup (fun _ _ ↦ boolean_of_reads)
      (by simp [WrittenSettings.telemetry]) (by simp [Shape.telemetry])

theorem tells_runner (h : w.runner.In Shape.runner as) (hes : Holds as es) (hfits : w.Fits) :
    Shape.Tells es "overflow" Shape.policy w.overflow? ∧
      Shape.Tells es "work_delay_us" Shape.word (w.workDelayUs?.map UInt64.ofNat) := by
  have hnodup : (w.runner.map (·.1)).Nodup := by simp [WrittenSettings.runner]
  constructor
  · exact h.tells_of_holds hes hnodup (fun _ _ ↦ policy_of_reads)
      (by simp [WrittenSettings.runner]) (by simp [Shape.runner])
  · -- the number that is written is the one of the word it is read as
    have hword : (w.workDelayUs?.map UInt64.ofNat).map (fun d ↦ Numeral.write 10 d.toNat) =
        w.workDelayUs?.map (Numeral.write 10) := by
      rw [Option.map_map]
      refine Option.map_congr fun n hn ↦ ?_
      have hlt := hfits n hn
      rw [Function.comp_apply, UInt64.toNat_ofNat_of_lt' (by simp only [UInt64.size]; omega)]
    have hread (d : UInt64) (item : Item) (hd : Reads (Numeral.write 10 d.toNat) item) :
        Shape.word item = .ok d := by
      rw [word_of_reads hd, UInt64.ofNat_toNat]
    exact h.tells_of_holds hes hnodup hread (by simp [WrittenSettings.runner, hword])
      (by simp [Shape.runner])

theorem exists_telemetry_read (h : w.telemetry.In Shape.telemetry as) (hes : Holds as es)
    (kind : TableKind) : ∃ t, Shape.telemetry.read {} (.table kind es) = .ok t := by
  obtain ⟨hendpoint, haddress, hlevel, hjson⟩ := tells_telemetry h hes
  obtain ⟨t, ht⟩ : ∃ t, Shape.telemetry.entries {} es = .ok t := by
    refine Shape.Group.exists_entries_eq_ok (fun e he f hf hname a ↦ ?_) _
    simp only [Shape.telemetry, List.mem_cons, List.not_mem_nil, or_false] at hf
    rcases hf with rfl | rfl | rfl | rfl
    · exact exists_put_eq_ok (hendpoint.exists_read_eq_ok hes.nodup he hname) _
    · exact exists_put_eq_ok (haddress.exists_read_eq_ok hes.nodup he hname) _
    · exact exists_put_eq_ok (hlevel.exists_read_eq_ok hes.nodup he hname) _
    · exact exists_put_eq_ok (hjson.exists_read_eq_ok hes.nodup he hname) _
  exact ⟨t, Shape.located_eq_ok.2 ht⟩

theorem exists_runner_read (h : w.runner.In Shape.runner as) (hes : Holds as es) (hfits : w.Fits)
    (kind : TableKind) : ∃ r, Shape.runner.read {} (.table kind es) = .ok r := by
  obtain ⟨hpolicy, hdelay⟩ := tells_runner h hes hfits
  obtain ⟨r, hr⟩ : ∃ r, Shape.runner.entries {} es = .ok r := by
    refine Shape.Group.exists_entries_eq_ok (fun e he f hf hname a ↦ ?_) _
    simp only [Shape.runner, List.mem_cons, List.not_mem_nil, or_false] at hf
    rcases hf with rfl | rfl
    · exact exists_put_eq_ok (hpolicy.exists_read_eq_ok hes.nodup he hname) _
    · exact exists_put_eq_ok (hdelay.exists_read_eq_ok hes.nodup he hname) _
  exact ⟨r, Shape.located_eq_ok.2 hr⟩

end Groups

/-! ### Whole documents -/

/-- The table under a name has these entries; where there is no table, it is as if it were empty. -/
def TableAt (es : Entries) (name : String) (inner : Entries) : Prop :=
  (es.get? name = none ∧ inner = []) ∨ ∃ kind, es.get? name = some (.table kind inner)

namespace TableAt

variable {α β : Type} {es inner : Entries} {group : String} (h : TableAt es group inner)
include h

/-- What a table tells. -/
theorem bind_value?_eq {g : Shape.Group α} {name : String} {read : Item → Shape.Read β}
    {x? : Option β} (hnodup : (inner.map (·.1.name)).Nodup)
    (hx : Shape.Tells inner name read x?) : (es.get? group).bind (g.value? name read) = x? := by
  rcases h with ⟨hnone, rfl⟩ | ⟨kind, htable⟩
  · rw [hnone, ← hx.value?_eq hnodup .passed (g := g)]
    rfl
  · rw [htable, ← hx.value?_eq hnodup kind (g := g)]
    rfl

/-- A table that can be read is told. -/
theorem exists_tells {read : Item → Shape.Read β}
    (hread : ∀ kind, ∃ b, read (.table kind inner) = .ok b) :
    ∃ x?, Shape.Tells es group read x? := by
  rcases h with ⟨hnone, -⟩ | ⟨kind, htable⟩
  · refine ⟨none, ?_⟩
    rw [Shape.Tells, hnone]
    exact .none
  · obtain ⟨b, hb⟩ := hread kind
    refine ⟨some b, ?_⟩
    rw [Shape.Tells, htable]
    exact .some hb

end TableAt

namespace WrittenSettings.In

variable {w : WrittenSettings} {d : Draft} (h : w.In d)
include h

/-- The table of a group has the entries of its lines. -/
theorem exists_tableAt {es : Entries} (hes : d.Holds es) {name : String}
    (hname : name ∈ ["telemetry", "runner"]) :
    ∃ inner, Holds (d.table name) inner ∧ TableAt es name inner := by
  rw [Draft.table]
  cases hlookup : d.tables.lookup name with
  | none =>
    refine ⟨[], ⟨List.nodup_nil, by simp, fun _ _ ↦ rfl⟩, .inl ⟨hes.other name ?_ ?_, rfl⟩⟩
    · refine h.top.head?_ne ?_ ?_
      · simp only [List.mem_cons, List.not_mem_nil, or_false] at hname
        rcases hname with rfl | rfl <;> simp [Shape.settings]
      · simp only [List.mem_cons, List.not_mem_nil, or_false] at hname
        rcases hname with rfl | rfl <;> simp [WrittenSettings.top]
    · rintro t ht rfl
      simpa using List.lookup_eq_none_iff.1 hlookup t ht
  | some lines =>
    obtain ⟨before, after, htables, -⟩ := List.lookup_eq_some_iff.1 hlookup
    obtain ⟨kind, inner, hget, hinner⟩ := hes.table (name, lines) (by simp [htables])
    exact ⟨inner, hinner, .inr ⟨kind, hget⟩⟩

theorem tells_serviceName {es : Entries} (hes : d.Holds es) :
    Shape.Tells es "service_name" Shape.string w.serviceName? := by
  have hnodup : (w.top.map (·.1)).Nodup := by simp [WrittenSettings.top]
  refine h.top.tells hnodup (fun _ _ ↦ string_of_reads) (by simp [WrittenSettings.top])
    (by simp [Shape.settings]) hes.own fun htop ↦ hes.other _ htop fun t ht ↦ ?_
  by_cases hname : t.1 ∈ ["telemetry", "runner"]
  · rintro heq
    rw [heq] at hname
    simp at hname
  · exact (h.other t ht hname).1

/-- **Settings that are written are read.** -/
theorem exists_entries_eq_ok {es : Entries} (hes : d.Holds es) (hfits : w.Fits) :
    (∃ s, Shape.settings.entries {} es = .ok s) ∧ PartialSettings.ofDocument es = w.said := by
  obtain ⟨telemetry, htelemetry, htelemetryAt⟩ := h.exists_tableAt hes List.mem_cons_self
  obtain ⟨runner, hrunner, hrunnerAt⟩ :=
    h.exists_tableAt hes (show "runner" ∈ ["telemetry", "runner"] by simp)
  have hname := h.tells_serviceName hes
  constructor
  · obtain ⟨_, htelemetryRead⟩ := htelemetryAt.exists_tells
      (exists_telemetry_read h.telemetry htelemetry)
    obtain ⟨_, hrunnerRead⟩ := hrunnerAt.exists_tells
      (exists_runner_read h.runner hrunner hfits)
    refine Shape.Group.exists_entries_eq_ok (fun e he f hf hf' a ↦ ?_) _
    simp only [Shape.settings, List.mem_cons, List.not_mem_nil, or_false] at hf
    rcases hf with rfl | rfl | rfl
    · exact exists_put_eq_ok (hname.exists_read_eq_ok hes.nodup he hf') _
    · exact exists_put_eq_ok (htelemetryRead.exists_read_eq_ok hes.nodup he hf') _
    · exact exists_put_eq_ok (hrunnerRead.exists_read_eq_ok hes.nodup he hf') _
  · obtain ⟨hendpoint, haddress, hlevel, hjson⟩ := tells_telemetry h.telemetry htelemetry
    obtain ⟨hpolicy, hdelay⟩ := tells_runner h.runner hrunner hfits
    rw [PartialSettings.ofDocument, said]
    simp only [Shape.Group.item?_table hes.nodup, hname.value?_eq hes.nodup,
      htelemetryAt.bind_value?_eq htelemetry.nodup hendpoint,
      htelemetryAt.bind_value?_eq htelemetry.nodup haddress,
      htelemetryAt.bind_value?_eq htelemetry.nodup hlevel,
      htelemetryAt.bind_value?_eq htelemetry.nodup hjson,
      hrunnerAt.bind_value?_eq hrunner.nodup hpolicy,
      hrunnerAt.bind_value?_eq hrunner.nodup hdelay]

/-! ### Which lines have values -/

theorem isValid_top : ∀ a ∈ d.top, a.IsValid nesting := by
  refine fun a ha ↦ h.top.isValid ha fun hown ↦ ?_
  obtain ⟨-, hsaid⟩ := Statements.mem_lines.1 hown
  simp only [WrittenSettings.top, List.mem_singleton, Prod.mk.injEq] at hsaid
  obtain ⟨s, -, htext⟩ := Option.map_eq_some_iff.1 hsaid.2.symm
  rw [← htext]
  exact isValue_quoted nesting s

theorem isValid_telemetry : ∀ a ∈ d.table "telemetry", a.IsValid nesting := by
  refine fun a ha ↦ h.telemetry.isValid ha fun hown ↦ ?_
  obtain ⟨-, hsaid⟩ := Statements.mem_lines.1 hown
  simp only [WrittenSettings.telemetry, List.mem_cons, List.not_mem_nil, or_false,
    Prod.mk.injEq] at hsaid
  have hquoted {x? : Option String} (hx : some a.text = x?.map fun s ↦ quoted s.toList) :
      IsValue nesting a.text := by
    obtain ⟨s, -, htext⟩ := Option.map_eq_some_iff.1 hx.symm
    rw [← htext]
    exact isValue_quoted nesting s
  rcases hsaid with ⟨-, hx⟩ | ⟨-, hx⟩ | ⟨-, hx⟩ | ⟨-, hx⟩
  · exact hquoted hx
  · exact hquoted hx
  · exact hquoted hx
  · obtain ⟨b, -, htext⟩ := Option.map_eq_some_iff.1 hx.symm
    rw [← htext]
    exact isValue_writeBoolean nesting b

/-- A line of the runner has a value, unless it is a delay that does not fit. -/
theorem isValid_runner {a : Assignment} (ha : a ∈ d.table "runner")
    (hdelay : ∀ n, w.workDelayUs? = some n → a = ⟨[], "work_delay_us", Numeral.write 10 n⟩ →
      n < 0x8000000000000000) : a.IsValid nesting := by
  refine h.runner.isValid ha fun hown ↦ ?_
  obtain ⟨hpath, hsaid⟩ := Statements.mem_lines.1 hown
  simp only [WrittenSettings.runner, List.mem_cons, List.not_mem_nil, or_false,
    Prod.mk.injEq] at hsaid
  rcases hsaid with ⟨-, hx⟩ | ⟨hname, hx⟩
  · obtain ⟨p, -, htext⟩ := Option.map_eq_some_iff.1 hx.symm
    rw [← htext]
    exact isValue_quoted nesting p.name
  · obtain ⟨n, hn, htext⟩ := Option.map_eq_some_iff.1 hx.symm
    have hlt : n < 0x8000000000000000 := by
      refine hdelay n hn ?_
      obtain ⟨path, name, text⟩ := a
      dsimp only at hpath hname htext
      rw [hpath, hname, htext]
    rw [← htext]
    exact isValue_write nesting ((le_maxValue_iff n).2 hlt)

theorem isValid_tables {t : String × List Assignment} (ht : t ∈ d.tables) (hname : t.1 ≠ "runner") :
    ∀ a ∈ t.2, a.IsValid nesting := by
  by_cases htelemetry : t.1 = "telemetry"
  · rw [← h.consistent.table_of_mem ht, htelemetry]
    exact h.isValid_telemetry
  · exact (h.other t ht (by simp [htelemetry, hname])).2

/-! ### Which drafts are documents -/

/-- Settings that fit make a document. -/
theorem exists_document? (hfits : w.Fits) :
    ∃ es, document? d.write = some es ∧ d.Holds es := by
  refine Draft.exists_document?_write h.consistent h.isValid_top fun t ht ↦ ?_
  by_cases hname : t.1 = "runner"
  · rw [← h.consistent.table_of_mem ht, hname]
    exact fun a ha ↦ h.isValid_runner ha fun n hn _ ↦ hfits n hn
  · exact h.isValid_tables ht hname

/-- Settings that do not fit make none. -/
theorem document?_eq_none (hfits : ¬w.Fits) : document? d.write = none := by
  obtain ⟨n, hn, hlarge⟩ : ∃ n, w.workDelayUs? = some n ∧ 0x8000000000000000 ≤ n := by
    simpa [WrittenSettings.Fits] using hfits
  have hline : (⟨[], "work_delay_us", Numeral.write 10 n⟩ : Assignment) ∈ d.table "runner" :=
    h.runner.mem_of_mem_lines (Statements.mem_lines.2
      ⟨rfl, by simp [WrittenSettings.runner, hn]⟩)
  obtain ⟨before, after, hlines, hfirst⟩ := List.eq_append_cons_of_mem hline
  cases hlookup : d.tables.lookup "runner" with
  | none =>
    rw [Draft.table, hlookup] at hline
    contradiction
  | some lines =>
    have htable : d.table "runner" = lines := by rw [Draft.table, hlookup]; rfl
    obtain ⟨ts, ts', htables, hne⟩ := List.lookup_eq_some_iff.1 hlookup
    refine Draft.document?_write_eq_none h.isValid_top (fun t ht ↦ ?_) (fun b hb ↦ ?_)
      (by rw [htables, ← htable, hlines]) (by simp [nesting]) (refused_write hlarge)
    · refine h.isValid_tables (by simp [htables, ht]) ?_
      simpa using Ne.symm (bne_iff_ne.1 (hne t ht))
    · -- the first line with the delay is the one that is refused
      refine h.isValid_runner (by simp [hlines, hb]) fun n' hn' hb' ↦ ?_
      obtain rfl : n = n' := Option.some.inj (hn.symm.trans hn')
      rw [hb'] at hb
      contradiction

end WrittenSettings.In

/-! ### Files -/

/-- The file with the text of a draft. -/
def Toml.Draft.file (d : Draft) : FileContent := .ok (Utf8.encode (String.ofList d.write))

/-- The document in the file of a draft is what the draft is read as. -/
theorem Toml.Draft.document?_file (d : Draft) : d.file.document? = document? d.write := by
  rw [file, FileContent.document?, Except.toOption, Option.bind_some, Utf8.decode_encode,
    Except.toOption, Option.bind_some, String.toList_ofList]

namespace Settings

theorem ofFile_of_draft (d : Draft) : ofFile d.file = ofDocument (String.ofList d.write) := by
  rw [Draft.file, ofFile, Utf8.decode_encode]

/-- **Settings that are written into a file are read from it**, in whatever order they are written
there, and whatever else is. -/
theorem ofFile_write {w : WrittenSettings} {d : Draft} (h : w.In d) (hfits : w.Fits) :
    ofFile d.file = .ok w.settings := by
  obtain ⟨es, hdocument, hes⟩ := h.exists_document? hfits
  obtain ⟨⟨s, hs⟩, hsaid⟩ := h.exists_entries_eq_ok hes hfits
  have hok : ofFile d.file = .ok s := by
    rw [ofFile_of_draft, ofDocument, String.toList_ofList, hdocument]
    dsimp only
    rw [hs]
  rw [hok, ofFile_eq hok, PartialSettings.ofFile, Draft.document?_file, hdocument, Option.map_some,
    Option.getD_some, hsaid]
  rfl

/-- **Settings that are written into a file are loaded from it**, if they are valid. Any settings
can be written, and in whatever order they are, and whatever else is, they are what is read. A delay
that does not fit a document makes it none. -/
theorem load_write (w : WrittenSettings) :
    w.In w.draft ∧ ∀ d : Draft, w.In d →
      (w.Fits → ofFile d.file = .ok w.settings ∧
        (w.settings.Valid → load d.file = .ok w.settings) ∧
        (¬w.settings.Valid → load d.file = .error (.invalid w.settings.problems))) ∧
      (¬w.Fits → load d.file = .error .notToml) := by
  refine ⟨w.in_draft, fun d h ↦ ⟨?_, ?_⟩⟩
  · intro hfits
    have hread := ofFile_write h hfits
    rw [load, hread]
    exact ⟨rfl, validated_of_valid, validated_of_not_valid⟩
  · intro hfits
    rw [load, ofFile_of_draft, ofDocument, String.toList_ofList, h.document?_eq_none hfits]
    rfl

/-- A name with quotation marks, a delay behind a key that means nothing, and the runner before
telemetry. A delay that is greater than any word is none. -/
theorem load_write_quoted :
    let written (delay : Nat) : WrittenSettings :=
      { serviceName? := some "a \"b\"\n", jsonLogs? := some true, workDelayUs? := some delay }
    let draft (delay : Nat) : Draft :=
      { top := [
          { path := ["owner", "e mail"], name := "list"
            text := writeArray [quoted ['é'], writeArray []] },
          { name := "service_name", text := quoted "a \"b\"\n".toList }]
        tables := [
          ("runner", [
            { name := "place", text := writeInline [{ name := "x", text := Numeral.write 10 1 }] },
            { name := "work_delay_us", text := Numeral.write 10 delay }]),
          ("other", [{ name := "endpoint", text := writeBoolean false }]),
          ("telemetry", [{ name := "json_logs", text := writeBoolean true }])] }
    (written 250).In (draft 250) ∧
    load (draft 250).file = .ok
      { serviceName := "a \"b\"\n", telemetry := { jsonLogs := true },
        runner := { workDelayUs := 250 } } ∧
    load (draft 0x10000000000000000).file = .error .notToml := by
  intro written draft
  have hlist : IsValue nesting (writeArray [quoted ['é'], writeArray []]) := by
    refine isValue_writeArray fun text htext ↦ ?_
    simp only [List.mem_cons, List.not_mem_nil, or_false] at htext
    rcases htext with rfl | rfl
    · exact isValue_quoted _ "é"
    · exact isValue_writeArray (by simp)
  have hplace : IsValue nesting (writeInline [{ name := "x", text := Numeral.write 10 1 }]) := by
    refine isValue_writeInline (fun a ha ↦ ?_) (by decide)
    obtain rfl := List.mem_singleton.1 ha
    exact ⟨by decide, isValue_write _ (by decide)⟩
  have hin (delay : Nat) : (written delay).In (draft delay) := by
    refine ⟨⟨?_, ?_⟩, ⟨[_], .swap _ _ _, ?_⟩, ⟨[], .refl _, by simp⟩, ⟨[_], .swap _ _ _, ?_⟩, ?_⟩
    · show List.Pairwise Apart
        [["owner", "e mail", "list"], ["service_name"], ["runner"], ["other"], ["telemetry"]]
      decide
    · simp [draft, Assignment.key, apart_singleton_iff]
    · intro a ha
      obtain rfl := List.mem_singleton.1 ha
      exact ⟨⟨by decide, hlist⟩, by decide⟩
    · intro a ha
      obtain rfl := List.mem_singleton.1 ha
      exact ⟨⟨by decide, hplace⟩, by decide⟩
    · intro t ht hname
      have hother : t = ("other", [{ name := "endpoint", text := writeBoolean false }]) := by
        simp only [draft, List.mem_cons, List.not_mem_nil, or_false] at ht
        rcases ht with rfl | rfl | rfl <;> simp at hname ⊢
      subst hother
      refine ⟨by decide, fun a ha ↦ ?_⟩
      obtain rfl := List.mem_singleton.1 ha
      exact ⟨by decide, isValue_writeBoolean nesting false⟩
  refine ⟨hin 250, ?_, ?_⟩
  · obtain ⟨hfits, -⟩ := (load_write _).2 _ (hin 250)
    have hdelay : (written 250).Fits := by
      intro n hn
      obtain rfl := Option.some.inj hn
      decide
    exact (hfits hdelay).2.1 (problems_eq_nil_iff.1 (by decide +kernel))
  · obtain ⟨-, hlarge⟩ := (load_write _).2 _ (hin 0x10000000000000000)
    exact hlarge fun hfits ↦ absurd (hfits _ rfl) (by decide)

end Settings

end TracedFibonacci
