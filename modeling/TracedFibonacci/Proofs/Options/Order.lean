import TracedFibonacci.Options.CommandLine
import TracedFibonacci.Proofs.Options.Place
import Mathlib.Data.List.Duplicate
import Mathlib.Data.List.Perm.Basic

/-!
# Options in any order

An option can be given in one argument, a flag with its value behind an equals sign. The value is
then whatever follows the first equals sign: nothing at all, a hyphen, more equals signs, blanks. Of
a command line that is made of such arguments this module tells what is read from it.

What is read is told without an order (`CommandLine.read_eq_ok_iff`): no flag is there twice, the
options have what every argument says, and they say nothing else. So options can be given in any
order, unless their path is empty, which no argument can say; and a flag that is there twice is
refused, so that neither the first nor the last of its values counts
(`CommandLine.options_in_any_order`).

## What it rests on

An argument fills a place that was empty (`CommandLine.Entry.set_eq_ok_iff`). This is said
backwards: what was there before is what is left when the place is emptied again. Thus a row of
arguments is undone place by place from the options at the end
(`CommandLine.Entry.setAll_eq_ok_iff`), and no order remains in what is said of them.
-/

namespace TracedFibonacci

/-! ### Arguments that say one thing -/

namespace CommandLine

/-- What an argument can say about the options: a value for a flag, or that the log is JSON. -/
inductive Entry where
  | value (f : ValueFlag) (said : String)
  | json
  deriving DecidableEq

namespace Entry

/-- The argument that says it. -/
def argument : Entry → String
  | value .config said => "--config=" ++ said
  | value .endpoint said => "--endpoint=" ++ said
  | value .serviceName said => "--service-name=" ++ said
  | value .overflow said => "--overflow=" ++ said
  | value .workDelayUs said => "--work-delay-us=" ++ said
  | value .logLevel said => "--log-level=" ++ said
  | json => "--json"

/-- What it is said about. -/
def flag : Entry → Flag
  | value f _ => .takesValue f
  | json => .switch .json

/-- Sets what is said. -/
def set (o : Options) : Entry → Except Refusal Options
  | value f said => f.set said o
  | json => Switch.json.set true o

/-- The options have what is said. -/
def In (o : Options) : Entry → Prop
  | value f said => ∃ v, f.Means said v ∧ o.get f = some v
  | json => o.json

variable {o o' : Options} {e : Entry}

/-- **What setting one thing does**: the options have it, and without it they are as before. -/
theorem set_eq_ok_iff : e.set o = .ok o' ↔ e.In o' ∧ o'.without e.flag = o := by
  cases e with
  | json =>
    rcases o with ⟨_, _, _, _, _, _, json⟩
    rcases o' with ⟨_, _, _, _, _, _, json'⟩
    cases json <;> cases json' <;>
      simp [set, Switch.set, In, flag, Options.without, eq_comm]
  | value f said =>
    rw [set, ValueFlag.set_eq_ok_iff, In, flag, Options.without]
    constructor
    · rintro ⟨hnone, v, hv, rfl⟩
      exact ⟨⟨v, hv, Options.get_put _⟩, by rw [Options.put_put, ← hnone, Options.put_get]⟩
    · rintro ⟨⟨v, hv, hget⟩, rfl⟩
      exact ⟨Options.get_put _, v, hv, by rw [Options.put_put, ← hget, Options.put_get]⟩

/-- What is said a second time is refused. -/
theorem set_of_has (h : o.Has e.flag) : e.set o = .error (.repeated e.flag) := by
  cases e with
  | json => exact if_pos h
  | value f said => exact ValueFlag.set_of_isSome h

/-- What some options have can be said, unless something is said about its flag already. -/
theorem exists_set_of_not_has {p : Options} (hmeant : e.In p) (h : ¬o.Has e.flag) :
    ∃ m, e.set o = .ok m := by
  cases e with
  | json => exact ⟨_, if_neg h⟩
  | value f said =>
    obtain ⟨v, hv, -⟩ := hmeant
    exact ⟨_, ValueFlag.set_eq_ok_iff.2 ⟨Option.not_isSome_iff_eq_none.1 h, v, hv, rfl⟩⟩

/-- What options have, they say something about. -/
theorem has_of_in (h : e.In o) : o.Has e.flag := by
  cases e with
  | json => exact h
  | value f said =>
    obtain ⟨v, -, hget⟩ := h
    exact Option.isSome_iff_exists.2 ⟨v, hget⟩

theorem in_without_iff {f : Flag} : e.In (o.without f) ↔ e.flag ≠ f ∧ e.In o := by
  by_cases hf : e.flag = f
  · subst hf
    simp [mt has_of_in (Options.not_has_without _)]
  · cases e with
    | json => simp [In, Options.json_without_of_ne hf, hf]
    | value g said => simp [In, Options.get_without_of_ne hf, hf]

theorem in_withoutAll_iff {fs : List Flag} : e.In (o.withoutAll fs) ↔ e.flag ∉ fs ∧ e.In o :=
  Options.withoutAll_iff (fun o ↦ e.In o) fun _ _ ↦ in_without_iff

/-! ### Setting one thing after the other -/

/-- Sets everything that is said, from left to right. -/
def setAll (o : Options) (es : List Entry) : Except Refusal Options :=
  es.foldlM (fun o e ↦ e.set o) o

variable {es : List Entry}

theorem setAll_cons : setAll o (e :: es) = (e.set o).bind fun o ↦ setAll o es := rfl

theorem setAll_cons_eq_ok_iff :
    setAll o (e :: es) = .ok o' ↔ ∃ m, e.set o = .ok m ∧ setAll m es = .ok o' := by
  rw [setAll_cons]
  cases e.set o <;> simp [Except.bind]

/-- **What setting one thing after the other does**, in any order. -/
theorem setAll_eq_ok_iff :
    setAll o es = .ok o' ↔
      (es.map flag).Nodup ∧ (∀ e ∈ es, e.In o') ∧ o'.withoutAll (es.map flag) = o := by
  induction es generalizing o with
  | nil => simp [setAll, Options.withoutAll, eq_comm, pure, Except.pure]
  | cons e es ih =>
    -- before the later entries, the options are those at the end without all that these say
    have hlast : e.set o = .ok (o'.withoutAll (es.map flag)) ↔
        (e.flag ∉ es.map flag ∧ e.In o') ∧ o'.withoutAll ((e :: es).map flag) = o := by
      rw [set_eq_ok_iff, in_withoutAll_iff]
      rfl
    rw [setAll_cons_eq_ok_iff, List.map_cons, List.nodup_cons, List.forall_mem_cons]
    simp only [ih]
    constructor
    · rintro ⟨_, hset, hnodup, hin, rfl⟩
      obtain ⟨⟨hnot, hhead⟩, hrest⟩ := hlast.1 hset
      exact ⟨⟨hnot, hnodup⟩, ⟨hhead, hin⟩, hrest⟩
    · rintro ⟨⟨hnot, hnodup⟩, ⟨hhead, hin⟩, hrest⟩
      exact ⟨_, hlast.2 ⟨⟨hnot, hhead⟩, hrest⟩, hnodup, hin, rfl⟩

/-- **Where every value can be taken, only a flag that is there twice is refused.** -/
theorem exists_duplicate_of_setAll {r : Refusal} (h : setAll o es = .error r)
    (hmeant : ∀ e ∈ es, ∃ p, e.In p) :
    ∃ f, r = .repeated f ∧ (o.Has f ∧ f ∈ es.map flag ∨ (es.map flag).Duplicate f) := by
  induction es generalizing o with
  | nil => contradiction
  | cons e es ih =>
    rw [List.forall_mem_cons] at hmeant
    rw [setAll_cons] at h
    cases hset : e.set o with
    | error r' =>
      -- the value can be taken, so it is the place that was not empty
      obtain rfl : r' = r := by simpa [hset, Except.bind] using h
      have hhas : o.Has e.flag := by
        by_contra hnot
        obtain ⟨p, hp⟩ := hmeant.1
        obtain ⟨m, hm⟩ := exists_set_of_not_has hp hnot
        simp [hset] at hm
      rw [set_of_has hhas] at hset
      exact ⟨e.flag, (Except.error.inj hset).symm, .inl ⟨hhas, List.mem_cons_self⟩⟩
    | ok m =>
      rw [hset] at h
      obtain ⟨f, hr, hf⟩ := ih h hmeant.2
      obtain ⟨-, rfl⟩ := set_eq_ok_iff.1 hset
      refine ⟨f, hr, ?_⟩
      rw [Options.has_without_iff, List.map_cons, List.duplicate_cons_iff, List.mem_cons]
      -- what a later entry finds in its place is from the start, or from this entry
      by_cases heq : f = e.flag
      · subst heq
        exact .inr (hf.imp (fun h ↦ ⟨rfl, h.2⟩) id)
      · exact hf.imp (fun h ↦ ⟨⟨heq, h.1⟩, .inr h.2⟩) .inr

end Entry

/-! ### Reading what is said -/

namespace Entry

theorem argument_value (f : ValueFlag) (said : String) :
    (value f said).argument = "--" ++ f.name ++ "=" ++ said := by
  cases f <;> exact congrArg (· ++ said) (by decide)

theorem toList_argument_value (f : ValueFlag) (said : String) :
    (value f said).argument.toList = '-' :: '-' :: (f.name.toList ++ '=' :: said.toList) := by
  simp [argument_value]

theorem toList_argument_json : json.argument.toList = '-' :: '-' :: Switch.json.name.toList := by
  decide

theorem argument_ne_hyphens (e : Entry) : e.argument ≠ "--" := by
  intro h
  have hchars := congrArg String.toList h
  cases e with
  | json => contradiction
  | value f said => simp [toList_argument_value] at hchars

end Entry

namespace State

variable (st : State)

/-- **A value is all that stands behind the first equals sign.** -/
theorem long_name_append (f : ValueFlag) (said : String) :
    st.long (f.name.toList ++ '=' :: said.toList) = st.withValue f said := by
  have hname : ∀ c ∈ f.name.toList, (c != '=') = true := by
    refine List.all_eq_true.1 ?_
    cases f <;> decide
  have hflag : Flag.ofName? f.name = some (.takesValue f) := Flag.ofName?_name (.takesValue f)
  rw [long, List.takeWhile_append_of_pos hname, List.dropWhile_append_of_pos hname]
  simp [hflag]

theorem long_json : st.long Switch.json.name.toList = st.switched .json true := rfl

/-- After an argument that begins with two hyphens. -/
theorem argument_of_hyphens {a : String} {body : List Char} (h : a.toList = '-' :: '-' :: body) :
    st.argument a = st.long body := by
  simp only [argument, h]

/-- After an argument that says one thing, it is set, and so is what waited for its value. -/
theorem argument_argument (e : Entry) :
    st.argument e.argument = (st.settled.bind fun o ↦ e.set o).map fun o ↦ { options := o } := by
  cases e with
  | json =>
    rw [st.argument_of_hyphens Entry.toList_argument_json, long_json, switched]
    cases st.settled <;> rfl
  | value f said =>
    rw [st.argument_of_hyphens (Entry.toList_argument_value f said), long_name_append, withValue]
    cases st.settled <;> rfl

end State

variable {o : Options} {es : List Entry}

theorem readFrom_cons {st : State} {a : String} {rest : List String} (h : a ≠ "--") :
    readFrom st (a :: rest) = (st.argument a).bind fun st ↦ readFrom st rest := by
  rw [readFrom.eq_def]
  exact if_neg h

/-- **Reading is setting one thing after the other.** -/
theorem readFrom_map_argument (st : State) :
    readFrom st (es.map Entry.argument) = st.settled.bind fun o ↦ Entry.setAll o es := by
  induction es generalizing st with
  | nil =>
    rw [List.map_nil, readFrom]
    cases st.settled <;> rfl
  | cons e es ih =>
    rw [List.map_cons, readFrom_cons e.argument_ne_hyphens, st.argument_argument]
    simp only [ih, Entry.setAll_cons]
    cases st.settled with
    | error r => rfl
    | ok o => cases hset : e.set o <;> simp [Except.bind, Except.map, hset, State.settled]

theorem read_map_argument : read (es.map Entry.argument) = Entry.setAll {} es :=
  readFrom_map_argument {}

/-- **What is read of arguments that say one thing each.** No flag is there twice, the options have
what is said, and they say nothing else. -/
theorem read_eq_ok_iff :
    read (es.map Entry.argument) = .ok o ↔
      (es.map Entry.flag).Nodup ∧ (∀ e ∈ es, e.In o) ∧ ∀ f, o.Has f → f ∈ es.map Entry.flag := by
  rw [read_map_argument, Entry.setAll_eq_ok_iff, Options.withoutAll_eq_empty_iff]

end CommandLine

/-! ### Saying all that options have -/

namespace Options

open CommandLine

/-- What has to be said to have these options: one thing for each flag that they have. -/
def entries (o : Options) : List Entry :=
  ValueFlag.all.filterMap (fun f ↦ (o.get f).map fun v ↦ .value f (f.text v)) ++
    if o.json then [.json] else []

variable {o : Options}

theorem mem_entries_iff {e : Entry} :
    e ∈ o.entries ↔
      (∃ f v, o.get f = some v ∧ .value f (f.text v) = e) ∨ o.json ∧ .json = e := by
  have hall (f : ValueFlag) : f ∈ ValueFlag.all := by cases f <;> decide
  rw [entries, List.mem_append]
  refine or_congr ?_ ?_
  · simp [hall]
  · cases o.json <;> simp [eq_comm]

theorem nodup_flag_entries (o : Options) : (o.entries.map Entry.flag).Nodup := by
  have hflag {f : ValueFlag} {g : Flag}
      (h : g ∈ ((o.get f).map fun v ↦ Entry.value f (f.text v)).map Entry.flag) :
      .takesValue f = g := by
    cases hget : o.get f <;> simp_all [Entry.flag]
  rw [entries, List.map_append, List.map_filterMap]
  refine List.nodup_append.2 ⟨?_, ?_, ?_⟩
  · refine List.Nodup.filterMap (fun f f' g h h' ↦ ?_) (by decide)
    exact Flag.takesValue.inj ((hflag h).trans (hflag h').symm)
  · cases o.json <;> decide
  · intro g hg g' hg'
    obtain ⟨f, -, hf⟩ := List.mem_filterMap.1 hg
    have hjson : g' = .switch .json := by
      cases hjson : o.json <;> simp_all [Entry.flag]
    rw [← hflag hf, hjson]
    exact Flag.noConfusion

/-- Options have what has to be said to have them. -/
theorem in_of_mem_entries (hpath : o.config? ≠ some "") {e : Entry} (h : e ∈ o.entries) :
    e.In o := by
  rcases mem_entries_iff.1 h with ⟨f, v, hget, rfl⟩ | ⟨hjson, rfl⟩
  · refine ⟨v, ValueFlag.means_text ?_, hget⟩
    rintro rfl rfl
    exact hpath hget
  · exact hjson

/-- What options say something about has to be said. -/
theorem flag_mem_entries {f : Flag} (h : o.Has f) : f ∈ o.entries.map Entry.flag := by
  rcases f with f | s
  · obtain ⟨v, hget⟩ := Option.isSome_iff_exists.1 h
    exact List.mem_map.2 ⟨_, mem_entries_iff.2 (.inl ⟨f, v, hget, rfl⟩), rfl⟩
  · cases s with
    | json => exact List.mem_map.2 ⟨_, mem_entries_iff.2 (.inr ⟨h, rfl⟩), rfl⟩
    | help | version => exact absurd h id

end Options

namespace CommandLine

/-- **Options can be given in any order.** Options whose path is not empty are read from the
arguments that say what they have, one for each flag in any order, whatever the values are. If a
flag is there twice among arguments of this form, with any values, then no options are read; and if
all the values are such as options have, the flag that is told of is one that is there twice. -/
theorem options_in_any_order :
    (∀ (o : Options) (es : List Entry), o.config? ≠ some "" → es.Perm o.entries →
      read (es.map Entry.argument) = .ok o) ∧
    ∀ (es : List Entry) (f : Flag), (es.map Entry.flag).Duplicate f →
      ∃ r, read (es.map Entry.argument) = .error r ∧
        ((∀ e ∈ es, ∃ o : Options, o.config? ≠ some "" ∧ e ∈ o.entries) →
          ∃ g, r = .repeated g ∧ (es.map Entry.flag).Duplicate g) := by
  constructor
  · intro o es hpath hperm
    have hflags : (es.map Entry.flag).Perm (o.entries.map Entry.flag) := hperm.map _
    refine read_eq_ok_iff.2 ⟨hflags.nodup_iff.2 o.nodup_flag_entries, fun e he ↦ ?_, fun f hf ↦ ?_⟩
    · exact Options.in_of_mem_entries hpath (hperm.mem_iff.1 he)
    · exact hflags.mem_iff.2 (Options.flag_mem_entries hf)
  · intro es f hf
    cases hread : read (es.map Entry.argument) with
    | ok o => exact absurd (read_eq_ok_iff.1 hread).1 hf.not_nodup
    | error r =>
      refine ⟨r, rfl, fun hes ↦ ?_⟩
      have hmeant : ∀ e ∈ es, ∃ o, e.In o := fun e he ↦ by
        obtain ⟨o, hpath, hmem⟩ := hes e he
        exact ⟨o, Options.in_of_mem_entries hpath hmem⟩
      rw [read_map_argument] at hread
      obtain ⟨g, hr, hg⟩ := Entry.exists_duplicate_of_setAll hread hmeant
      have hnot : ¬({} : Options).Has g := Options.eq_empty_iff.1 rfl g
      exact ⟨g, hr, hg.resolve_left fun h ↦ hnot h.1⟩

/-- Values that look like flags, an empty one, and one with blanks and an equals sign, out of order;
and an endpoint that is given twice. -/
theorem options_in_any_order_disguised :
    read ["--log-level=a = b", "--json", "--service-name=--json", "--endpoint=",
        "--work-delay-us=18446744073709551615", "--config=-c", "--overflow=checked"] =
      .ok { config? := some "-c", endpoint? := some "", serviceName? := some "--json",
            overflow? := some .checked, workDelayUs? := some 18446744073709551615,
            logLevel? := some "a = b", json := true } ∧
    read ["--endpoint=--json", "--json", "--endpoint="] =
      .error (.repeated (.takesValue .endpoint)) := by
  constructor
  · refine options_in_any_order.1 _ [.value .logLevel "a = b", .json, .value .serviceName "--json",
      .value .endpoint "", .value .workDelayUs "18446744073709551615", .value .config "-c",
      .value .overflow "checked"] (by decide) ?_
    decide +kernel
  · let es : List Entry := [.value .endpoint "--json", .json, .value .endpoint ""]
    obtain ⟨r, hread, hrepeated⟩ := options_in_any_order.2 es (.takesValue .endpoint) (by decide)
    have hsaid : ∀ e ∈ es, ∃ o : Options, o.config? ≠ some "" ∧ e ∈ o.entries := by
      simp only [es, List.forall_mem_cons]
      exact ⟨⟨{ endpoint? := some "--json" }, by decide, by decide⟩,
        ⟨{ json := true }, by decide, by decide⟩, ⟨{ endpoint? := some "" }, by decide, by decide⟩,
        fun _ ↦ List.not_mem_nil.elim⟩
    obtain ⟨g, rfl, hg⟩ := hrepeated hsaid
    obtain rfl : g = .takesValue .endpoint := by
      revert hg
      rcases g with f | s
      · cases f <;> decide
      · cases s <;> decide
    exact hread

end CommandLine

end TracedFibonacci
