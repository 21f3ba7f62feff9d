import TracedFibonacci.Proofs.Text.Escapes
import TracedFibonacci.Telemetry.Exposition
import Mathlib.Data.List.Nodup

/-!
# What the samples tell

What was recorded is counted, each kind of recording by itself (`Metrics.recordAll_eq_counts`). So
the order of recordings makes no difference, and neither does what is done in between.

The samples are a table of names and counts, without the counts that were never increased
(`Metrics.samples_eq`). No name occurs twice in it and none contains a blank, so a sample tells of
one count and of its value (`Metrics.sampleText_mem_samples_iff`), and no two samples are the same
text.

The log tells what is left of a page without its comments and its blank lines. That is every sample
(`Exposition.flush_log`): the comments begin with a sign of their own, and each sample with the
letters that every name begins with.
-/

namespace TracedFibonacci

open Text

namespace Metrics

/-! ### Counting -/

/-- The metrics that count what occurs in a list of recordings. -/
def counts (xs : List Mark) : Metrics where
  requests := xs.count .request
  ok := xs.count (.result true)
  overflowed := xs.count (.result false)
  durations := xs.count .duration
  errors k := xs.count (.error k)

/-- Recording counts. -/
theorem record_counts (xs : List Mark) (x : Mark) :
    (counts xs).record x = counts (xs ++ [x]) := by
  cases x with
  | result ok => cases ok <;> simp [record, counts, List.count_append]
  | error k =>
    simp only [record, counts, List.count_append, Metrics.mk.injEq]
    refine ⟨by simp, by simp, by simp, by simp, funext fun j ↦ ?_⟩
    by_cases hj : j = k
    · simp [hj]
    · simp [hj, Ne.symm hj]
  | _ => simp [record, counts, List.count_append]

/-- **What was recorded is counted.** -/
theorem recordAll_eq_counts (xs : List Mark) : recordAll {} xs = counts xs := by
  have hfrom : ∀ ys, recordAll (counts ys) xs = counts (ys ++ xs) := by
    induction xs with
    | nil =>
      intro ys
      rw [recordAll_nil, List.append_nil]
    | cons x xs ih =>
      intro ys
      show recordAll ((counts ys).record x) xs = _
      rw [record_counts, ih, List.append_assoc, List.singleton_append]
  exact hfrom []

/-! ### Names and counts -/

/-- What every name begins with. -/
def namePrefix : List Char := "fib_".toList

/-- Every name with its count, in the order of the names. -/
def series (m : Metrics) : List (String × Nat) :=
  ("fib_compute_duration_seconds_count", m.durations) ::
    RequestError.Kind.all.map
      (fun k ↦ (labelled "fib_input_errors_total" "kind" k.label, m.errors k)) ++
    [("fib_requests_total", m.requests),
      (labelled "fib_results_total" "outcome" "error", m.overflowed),
      (labelled "fib_results_total" "outcome" "ok", m.ok)]

/-- A sample in full. -/
def sampleText (name : String) (count : Nat) : String := name ++ " " ++ Numeral.decimal count

variable (m : Metrics)

theorem samples_eq : m.samples = m.series.filterMap fun x ↦ sample? x.1 x.2 := by
  show (m.series.map fun x ↦ sample? x.1 x.2).filterMap id = _
  rw [List.filterMap_map]
  rfl

/-- The names do not depend on the counts. -/
theorem map_fst_series : m.series.map (·.1) = ({} : Metrics).series.map (·.1) := rfl

theorem nodup_names : (m.series.map (·.1)).Nodup := by
  rw [map_fst_series]
  decide +kernel

theorem name_of_mem {x : String × Nat} (h : x ∈ m.series) :
    ' ' ∉ x.1.toList ∧ namePrefix <+: x.1.toList := by
  have hall : ∀ name ∈ ({} : Metrics).series.map (·.1),
      ' ' ∉ name.toList ∧ namePrefix <+: name.toList := by
    decide +kernel
  exact hall x.1 (map_fst_series m ▸ List.mem_map_of_mem h)

/-- **A sample tells its name and its count.** -/
theorem sampleText_inj {name name' : String} {k k' : Nat} (hname : ' ' ∉ name.toList)
    (hname' : ' ' ∉ name'.toList) (h : sampleText name k = sampleText name' k') :
    name = name' ∧ k = k' := by
  have hhead : ∀ s : String, ' ' ∉ s.toList → ∀ n,
      (sampleText s n).toList.takeWhile (· != ' ') = s.toList := fun s hs n ↦ by
    have hblank : ∀ c ∈ s.toList, (c != ' ') = true := fun c hc ↦
      bne_iff_ne.2 fun heq ↦ hs (heq ▸ hc)
    rw [sampleText, String.toList_append, String.toList_append, List.append_assoc,
      List.takeWhile_append_of_pos hblank]
    simp
  have hnames : name = name' := by
    rw [← String.toList_inj, ← hhead name hname k, h, hhead name' hname' k']
  subst hnames
  have hdigits : Numeral.decimal k = Numeral.decimal k' := by simpa [sampleText] using h
  exact ⟨rfl, Numeral.write_inj (by decide) (by decide) (String.ofList_inj.1 hdigits)⟩

theorem sample?_eq_some_iff {name s : String} {k : Nat} :
    sample? name k = some s ↔ k ≠ 0 ∧ s = sampleText name k := by
  simp [sample?, sampleText, eq_comm]

theorem mem_samples_iff {s : String} :
    s ∈ m.samples ↔ ∃ x ∈ m.series, x.2 ≠ 0 ∧ s = sampleText x.1 x.2 := by
  simp only [samples_eq, List.mem_filterMap, sample?_eq_some_iff]

theorem prefix_sampleText {x : String × Nat} (h : x ∈ m.series) (k : Nat) :
    namePrefix <+: (sampleText x.1 k).toList := by
  obtain ⟨-, cs, hcs⟩ := name_of_mem m h
  exact ⟨cs ++ " ".toList ++ (Numeral.decimal k).toList, by simp [sampleText, ← hcs]⟩

theorem prefix_of_mem_samples {s : String} (h : s ∈ m.samples) : namePrefix <+: s.toList := by
  obtain ⟨x, hx, -, rfl⟩ := (mem_samples_iff m).1 h
  exact prefix_sampleText m hx x.2

/-- **A count has one sample, with its value, unless it was never increased.** -/
theorem sampleText_mem_samples_iff {name : String} {v : Nat} (h : (name, v) ∈ m.series) (k : Nat) :
    sampleText name k ∈ m.samples ↔ k ≠ 0 ∧ k = v := by
  rw [mem_samples_iff]
  constructor
  · rintro ⟨⟨name', v'⟩, hx, hv, heq⟩
    obtain ⟨rfl, rfl⟩ := sampleText_inj (name_of_mem m h).1 (name_of_mem m hx).1 heq
    exact ⟨hv, congrArg Prod.snd (List.inj_on_of_nodup_map (nodup_names m) hx h rfl)⟩
  · rintro ⟨hk, rfl⟩
    exact ⟨(name, k), h, hk, rfl⟩

/-- No two samples are the same. -/
theorem nodup_samples : m.samples.Nodup := by
  rw [samples_eq, List.nodup_iff_pairwise_ne, List.pairwise_filterMap]
  refine (List.pairwise_map.1 (nodup_names m)).imp_of_mem fun hx hy hne s hs s' hs' heq ↦ hne ?_
  have htext : sampleText _ _ = sampleText _ _ :=
    (sample?_eq_some_iff.1 hs).2.symm.trans (heq.trans (sample?_eq_some_iff.1 hs').2)
  exact (sampleText_inj (name_of_mem m hx).1 (name_of_mem m hy).1 htext).1

/-! ### The page -/

/-- What begins as a sample is neither blank nor a comment. -/
theorem isTold_of_prefix {s : String} (h : namePrefix <+: s.toList) : isTold s = true := by
  obtain ⟨cs, hcs⟩ := h
  have hne : s ≠ "" := by
    rintro rfl
    simp [namePrefix] at hcs
  simp [isTold, hne, ← hcs, namePrefix]

/-- Of a block, the samples are told. -/
theorem Block.filter_lines {b : Block} (h : ∀ s ∈ b.samples, isTold s = true) :
    b.lines.filter isTold = b.samples := by
  have hcomment : isTold ("# TYPE " ++ b.name ++ " " ++ b.type) = false := by simp [isTold]
  rw [lines]
  split
  · next hnone => simp [List.isEmpty_iff.1 hnone]
  · rw [List.filter_append, List.filter_cons_of_neg (by simp [hcomment]), List.filter_eq_self.2 h,
      List.filter_cons_of_neg (by simp [isTold]), List.filter_nil, List.append_nil]

/-- The blocks divide up the samples. -/
theorem flatMap_blocks : m.blocks.flatMap Block.samples = m.samples := by
  have hcons (s? : Option String) (ss : List (Option String)) :
      (s? :: ss).filterMap id = s?.toList ++ ss.filterMap id := by
    cases s? <;> rfl
  simp only [blocks, samples, List.flatMap_cons, List.flatMap_nil, List.filterMap_append,
    List.filterMap_map, hcons, List.filterMap_nil, List.append_nil, List.append_assoc]
  rfl

/-- **Of a page, the samples are told.** -/
theorem filter_page : m.page.filter isTold = m.samples := by
  have htold : ∀ b ∈ m.blocks, b.lines.filter isTold = b.samples := fun b hb ↦
    Block.filter_lines fun s hs ↦ isTold_of_prefix <| m.prefix_of_mem_samples <| by
      rw [← flatMap_blocks]
      exact List.mem_flatMap_of_mem hb hs
  rw [page, List.filter_flatMap, List.flatMap_congr htold, flatMap_blocks]

end Metrics

/-- **The log tells the samples.** -/
theorem Exposition.flush_log (m : Metrics) : log.flush m = m.samples.map .sample := by
  rw [flush, Metrics.filter_page]

end TracedFibonacci
