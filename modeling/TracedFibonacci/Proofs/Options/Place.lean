import TracedFibonacci.Options.Flag
import TracedFibonacci.Proofs.Text.Numeral

/-!
# What a flag sets

The options are a record, and the flags that set its parts differ in what they take. Here they are
taken as one place for each flag that takes a value, with a reader and a writer (`Options.get`,
`Options.put`), so that what holds of one flag is said once for all of them. A place does not depend
on the others, and the options are known by their places and whether the log is JSON
(`Options.ext_get`).

What a flag makes of a text is `ValueFlag.Means`: any value is meant by its text
(`ValueFlag.means_text`), for which the digits of a word have to be read back as the word. Setting a
flag fills its place with what is meant, if the place was empty (`ValueFlag.set_eq_ok_iff`), and
otherwise refuses, whatever the text is (`ValueFlag.set_of_isSome`).
-/

namespace TracedFibonacci

open Text

/-! ### Numbers as values -/

namespace ValueFlag

/-- One digit more, unless the number gets too large for a word. -/
def nextDigit (v : Nat) (c : Char) : Except WordFault Nat :=
  match Numeral.digitValue? 10 c with
  | none => .error .invalidDigit
  | some d => if v * 10 + d < UInt64.size then .ok (v * 10 + d) else .error .tooLarge

/-- Without a plus sign in front, a number is read digit by digit. -/
theorem readWord_eq_foldlM {cs : List Char} (hne : cs ≠ []) (hsign : '+' ∉ cs) :
    readWord cs = (cs.foldlM nextDigit 0).map UInt64.ofNat := by
  cases cs with
  | nil => contradiction
  | cons c cs =>
    have hc : c ≠ '+' := (List.ne_of_not_mem_cons hsign).symm
    simp only [readWord]
    split
    next heq => exact absurd (List.cons.inj heq).1 hc
    next => rfl

theorem nextDigit_digitChar {v d : Nat} (hd : d < 10) (h : v * 10 + d < UInt64.size) :
    nextDigit v (Numeral.digitChar d) = .ok (v * 10 + d) := by
  rw [nextDigit, Numeral.digitValue?_digitChar hd (by decide)]
  exact if_pos h

/-- Each number on the way is a part of the whole one, so none is too large if that is not. -/
theorem foldlM_nextDigit {n : Nat} (h : n < UInt64.size) :
    (Numeral.write 10 n).foldlM nextDigit 0 = .ok n := by
  rw [Numeral.write]
  fun_induction Numeral.digits 10 n with
  | case1 n hn => simpa using nextDigit_digitChar (v := 0) (d := n) (by omega) (by omega)
  | case2 n hn ih =>
    have hstep := nextDigit_digitChar (v := n / 10) (d := n % 10) (by omega) (by omega)
    have hlast : ([n % 10].map Numeral.digitChar).foldlM nextDigit (n / 10) = .ok n := by
      simpa [Nat.div_add_mod'] using hstep
    rw [List.map_append, List.foldlM_append, ih (by omega)]
    exact hlast

/-- **A word is read back from its digits.** -/
theorem readWord_decimal (n : UInt64) : readWord (Numeral.decimal n.toNat).toList = .ok n := by
  have hsign : '+' ∉ Numeral.write 10 n.toNat := Numeral.notMem_write (by decide) (by decide)
  rw [Numeral.decimal, String.toList_ofList,
    readWord_eq_foldlM (Numeral.write_ne_nil 10 n.toNat) hsign, foldlM_nextDigit n.toNat_lt,
    Except.map, UInt64.ofNat_toNat]

/-! ### Values and texts -/

/-- What the values of a flag are. -/
abbrev Value : ValueFlag → Type
  | config | endpoint | serviceName | logLevel => String
  | overflow => OverflowPolicy
  | workDelayUs => UInt64

/-- A value as a text. -/
def text : (f : ValueFlag) → f.Value → String
  | config, path => path
  | endpoint, url => url
  | serviceName, name => name
  | overflow, p => p.name
  | workDelayUs, n => Numeral.decimal n.toNat
  | logLevel, level => level

/-- What is said of a flag means a value. Some flags take any text as it is; a path has to be there,
a policy has its name, and a delay can have zeros or a plus sign in front. -/
def Means : (f : ValueFlag) → String → f.Value → Prop
  | config, said, path => said ≠ "" ∧ said = path
  | endpoint, said, url => said = url
  | serviceName, said, name => said = name
  | overflow, said, p => OverflowPolicy.ofName? said = some p
  | workDelayUs, said, n => readWord said.toList = .ok n
  | logLevel, said, level => said = level

/-- **A value is meant by its text**, but an empty path by none. -/
theorem means_text {f : ValueFlag} {v : f.Value} (h : f = config → f.text v ≠ "") :
    f.Means (f.text v) v := by
  cases f with
  | config => exact ⟨h rfl, rfl⟩
  | overflow => exact OverflowPolicy.ofName?_name v
  | workDelayUs => exact readWord_decimal v
  | endpoint | serviceName | logLevel => rfl

end ValueFlag

/-! ### The places of the options -/

namespace Options

/-- What is said about a flag that takes a value. -/
def get (o : Options) : (f : ValueFlag) → Option f.Value
  | .config => o.config?
  | .endpoint => o.endpoint?
  | .serviceName => o.serviceName?
  | .overflow => o.overflow?
  | .workDelayUs => o.workDelayUs?
  | .logLevel => o.logLevel?

/-- The options with something else about a flag. -/
def put (o : Options) : (f : ValueFlag) → Option f.Value → Options
  | .config, v? => { o with config? := v? }
  | .endpoint, v? => { o with endpoint? := v? }
  | .serviceName, v? => { o with serviceName? := v? }
  | .overflow, v? => { o with overflow? := v? }
  | .workDelayUs, v? => { o with workDelayUs? := v? }
  | .logLevel, v? => { o with logLevel? := v? }

section Places

variable {o : Options} {f g : ValueFlag}

@[simp] theorem get_put (v? : Option f.Value) : (o.put f v?).get f = v? := by
  cases f <;> rfl

theorem get_put_of_ne (h : g ≠ f) (v? : Option f.Value) : (o.put f v?).get g = o.get g := by
  cases f <;> cases g <;> simp [get, put] at h ⊢

@[simp] theorem put_put (v? w? : Option f.Value) : (o.put f v?).put f w? = o.put f w? := by
  cases f <;> rfl

@[simp] theorem put_get : o.put f (o.get f) = o := by
  cases f <;> rfl

@[simp] theorem json_put (v? : Option f.Value) : (o.put f v?).json = o.json := by
  cases f <;> rfl

end Places

/-- Options are known by what they say. -/
theorem ext_get {o o' : Options} (hget : ∀ f, o.get f = o'.get f) (hjson : o.json = o'.json) :
    o = o' := by
  cases o
  cases o'
  rw [mk.injEq]
  exact ⟨hget .config, hget .endpoint, hget .serviceName, hget .overflow, hget .workDelayUs,
    hget .logLevel, hjson⟩

/-- The options say something about a flag. -/
def Has (o : Options) : Flag → Prop
  | .takesValue f => (o.get f).isSome
  | .switch .json => o.json
  | .switch .help | .switch .version => False

/-- The options without what they say about a flag. -/
def without (o : Options) : Flag → Options
  | .takesValue f => o.put f none
  | .switch .json => { o with json := false }
  | .switch .help | .switch .version => o

variable {o : Options}

theorem not_has_without (f : Flag) : ¬(o.without f).Has f := by
  rcases f with f | s
  · simp [Has, without]
  · cases s <;> simp [Has, without]

theorem get_without_of_ne {f : ValueFlag} {g : Flag} (h : .takesValue f ≠ g) :
    (o.without g).get f = o.get f := by
  rcases g with g | s
  · exact get_put_of_ne (fun hf ↦ h (congrArg _ hf)) none
  · cases s <;> cases f <;> rfl

theorem json_without_of_ne {g : Flag} (h : .switch .json ≠ g) : (o.without g).json = o.json := by
  rcases g with g | s
  · exact json_put none
  · cases s with
    | json => exact absurd rfl h
    | help | version => rfl

theorem has_without_iff {f g : Flag} : (o.without f).Has g ↔ g ≠ f ∧ o.Has g := by
  by_cases hg : g = f
  · subst hg
    simp [not_has_without]
  · rcases g with g | s
    · simp [Has, get_without_of_ne hg, hg]
    · cases s with
      | json => simp [Has, json_without_of_ne hg, hg]
      | help | version => simp [Has]

/-- The options without what they say about some flags. -/
def withoutAll (o : Options) (fs : List Flag) : Options := fs.foldr (fun f o ↦ o.without f) o

/-- What goes with one flag, and stays without any other, goes with this one out of some flags. -/
theorem withoutAll_iff (p : Options → Prop) {g : Flag}
    (hp : ∀ o f, p (o.without f) ↔ g ≠ f ∧ p o) {fs : List Flag} :
    p (o.withoutAll fs) ↔ g ∉ fs ∧ p o := by
  induction fs with
  | nil => simp [withoutAll]
  | cons f fs ih =>
    rw [withoutAll, List.foldr_cons, hp, ← withoutAll, ih, List.mem_cons, not_or, and_assoc]

theorem has_withoutAll_iff {fs : List Flag} {g : Flag} :
    (o.withoutAll fs).Has g ↔ g ∉ fs ∧ o.Has g :=
  withoutAll_iff (·.Has g) fun _ _ ↦ has_without_iff

/-- Options that say nothing are those of an empty command line. -/
theorem eq_empty_iff : o = {} ↔ ∀ f, ¬o.Has f := by
  constructor
  · rintro rfl (f | s)
    · cases f <;> exact Bool.false_ne_true
    · cases s <;> simp [Has]
  · intro h
    refine ext_get (fun f ↦ ?_) (Bool.eq_false_of_not_eq_true (h (.switch .json)))
    have hnone : o.get f = none := Option.not_isSome_iff_eq_none.1 (h (.takesValue f))
    rw [hnone]
    cases f <;> rfl

/-- Nothing is left without some flags if the options say nothing about others. -/
theorem withoutAll_eq_empty_iff {fs : List Flag} :
    o.withoutAll fs = {} ↔ ∀ f, o.Has f → f ∈ fs := by
  rw [eq_empty_iff]
  refine forall_congr' fun f ↦ ?_
  rw [has_withoutAll_iff, not_and', not_not]

end Options

/-! ### Setting one thing -/

namespace ValueFlag

variable {f : ValueFlag} {said : String} {o o' : Options}

/-- A value goes to a place that is empty, and only if the text means it. -/
theorem once_eq_ok_iff {α : Type} {old? : Option α} {new : Except Refusal α}
    {place : Option α → Options} {p : α → Prop} (hnew : ∀ v, new = .ok v ↔ p v) :
    (do return place (← f.once old? new)) = .ok o' ↔
      old? = none ∧ ∃ v, p v ∧ place (some v) = o' := by
  simp only [← hnew]
  cases old? <;> cases new <;>
    simp [once, bind, Except.bind, Except.map, pure, Except.pure]

/-- **What setting a value does.** -/
theorem set_eq_ok_iff :
    f.set said o = .ok o' ↔ o.get f = none ∧ ∃ v, f.Means said v ∧ o.put f (some v) = o' := by
  cases f with
  | config =>
    refine once_eq_ok_iff fun v ↦ ?_
    by_cases hempty : said = "" <;> simp [Means, hempty]
  | overflow =>
    refine once_eq_ok_iff fun v ↦ ?_
    rw [Means]
    cases OverflowPolicy.ofName? said <;> simp
  | workDelayUs =>
    refine once_eq_ok_iff fun v ↦ ?_
    rw [Means]
    cases readWord said.toList <;> simp [Except.mapError]
  | endpoint | serviceName | logLevel => exact once_eq_ok_iff fun v ↦ by simp [Means]

/-- A flag that has a value already is refused, whatever the other value is. -/
theorem set_of_isSome (h : (o.get f).isSome) :
    f.set said o = .error (.repeated (.takesValue f)) := by
  cases f <;> exact congrArg (· >>= _) (if_pos h)

end ValueFlag

end TracedFibonacci
