import TracedFibonacci.Proofs.Telemetry.Samples

/-!
# Flushing tells and changes nothing

Between recordings the counts may be flushed, into the log or by closing the listener. What is left
of such a sequence at its end is what was recorded in it (`Metrics.useAll_snd`), and what is told in
the course of it is told of what was recorded up to then (`Metrics.getElem?_useAll`). So the samples
can be read off the sequence: to each recording belongs one name (`Metrics.Mark.name`), and its
sample has the number of times that it was recorded (`Metrics.samples_of_uses`).

A sample is one of a count. What a page tells besides of how long computations took is left out of
it here (`Metrics.blocks`), and nothing is said of it.
-/

namespace TracedFibonacci

namespace Metrics

/-! ### The names of recordings -/

namespace Mark

/-- The name under which a recording is counted. -/
def name : Mark → String
  | .request => "fib_requests_total"
  | .result ok => labelled "fib_results_total" "outcome" (if ok then "ok" else "error")
  | .duration => "fib_compute_duration_seconds_count"
  | .error k => labelled "fib_input_errors_total" "kind" k.label

/-- Everything that can be recorded, in the order of the names. -/
def all : List Mark :=
  .duration :: RequestError.Kind.all.map .error ++ [.request, .result false, .result true]

theorem mem_all (x : Mark) : x ∈ all := by
  cases x with
  | error k => cases k <;> decide
  | result ok => cases ok <;> decide
  | request | duration => decide

end Mark

/-- The counts are those of the recordings, by name. -/
theorem series_counts (xs : List Mark) :
    (counts xs).series = Mark.all.map fun x ↦ (x.name, xs.count x) := rfl

variable {xs ys : List Mark}

theorem sampleText_mem_samples_counts (x : Mark) (k : Nat) :
    sampleText x.name k ∈ (counts xs).samples ↔ k ≠ 0 ∧ k = xs.count x := by
  refine sampleText_mem_samples_iff _ ?_ k
  rw [series_counts]
  exact List.mem_map_of_mem x.mem_all

theorem mem_samples_counts {s : String} (h : s ∈ (counts xs).samples) :
    ∃ x ∈ xs, s = sampleText x.name (xs.count x) := by
  obtain ⟨y, hy, hne, rfl⟩ := (mem_samples_iff _).1 h
  rw [series_counts] at hy
  obtain ⟨x, -, rfl⟩ := List.mem_map.1 hy
  exact ⟨x, List.count_pos_iff.1 (Nat.pos_of_ne_zero hne), rfl⟩

/-- Counting does not depend on the order. -/
theorem counts_congr (h : xs.Perm ys) : counts xs = counts ys := by
  simp only [counts, h.count_eq]

/-! ### Uses -/

/-- What a use records. -/
def Use.mark? : Use → Option Mark
  | .record x => some x
  | .flush _ => none

/-- What is left of some uses is what was recorded. -/
theorem useAll_snd (m : Metrics) (us : List Use) :
    (m.useAll us).2 = m.recordAll (us.filterMap Use.mark?) := by
  induction us generalizing m with
  | nil => rfl
  | cons u us ih => cases u <;> exact ih _

/-- What is told of a use is told of what was left by those before it. -/
theorem getElem?_useAll (m : Metrics) (us : List Use) (i : Nat) :
    (m.useAll us).1[i]? = us[i]?.map fun u ↦ ((m.useAll (us.take i)).2.use u).1 := by
  induction us generalizing m i with
  | nil => simp [useAll]
  | cons u us ih =>
    cases i with
    | zero => rfl
    | succ i => exact ih _ i

theorem count_filterMap_mark? (us : List Use) (x : Mark) :
    (us.filterMap Use.mark?).count x = us.count (.record x) := by
  induction us with
  | nil => rfl
  | cons u us ih =>
    cases u with
    | record y => simp [Use.mark?, List.count_cons, ih]
    | flush how => rw [List.filterMap_cons_none rfl, ih, List.count_cons_of_ne (by simp)]

/-! ### Samples -/

/-- The samples after some uses of new metrics. -/
def samplesAfter (us : List Use) : List String := (useAll {} us).2.samples

theorem samplesAfter_eq (us : List Use) :
    samplesAfter us = (counts (us.filterMap Use.mark?)).samples := by
  rw [samplesAfter, useAll_snd, recordAll_eq_counts]

/-- **What the samples tell of a sequence of uses.** Each recording has the sample with the number
of times that it occurs in the sequence, and no other, and none if it does not occur; there are no
samples besides these, and no two are the same. So the samples depend on what was recorded alone:
they are the same for every sequence with the same recordings in any order, wherever and how often
counts are flushed in it.

A flush into the log tells the samples of the uses before it, one event to each; none of them is a
comment or a blank line. A flush that closes the listener tells of that only, and a recording tells
nothing. -/
theorem samples_of_uses (us : List Use) :
    (∀ x k, sampleText x.name k ∈ samplesAfter us ↔ k ≠ 0 ∧ k = us.count (.record x)) ∧
    (∀ s ∈ samplesAfter us, ∃ x, .record x ∈ us ∧ s = sampleText x.name (us.count (.record x))) ∧
    (samplesAfter us).Nodup ∧
    (∀ vs, (us.filterMap Use.mark?).Perm (vs.filterMap Use.mark?) →
      samplesAfter vs = samplesAfter us) ∧
    (∀ i : Nat, us[i]? = some (.flush .log) →
      (useAll {} us).1[i]? = some ((samplesAfter (us.take i)).map .sample)) ∧
    (∀ s ∈ samplesAfter us, s ≠ "" ∧ s.toList.head? ≠ some '#') ∧
    (∀ (i : Nat) address, us[i]? = some (.flush (.listener address)) →
      (useAll {} us).1[i]? = some [.listenerStopped address.text]) ∧
    ∀ (i : Nat) x, us[i]? = some (.record x) → (useAll {} us).1[i]? = some [] := by
  refine ⟨fun x k ↦ ?_, fun s hs ↦ ?_, nodup_samples _, fun vs h ↦ ?_, fun i h ↦ ?_, fun s hs ↦ ?_,
    fun i address h ↦ ?_, fun i x h ↦ ?_⟩
  · rw [samplesAfter_eq, sampleText_mem_samples_counts, count_filterMap_mark?]
  · rw [samplesAfter_eq] at hs
    obtain ⟨x, hx, rfl⟩ := mem_samples_counts hs
    rw [← List.count_pos_iff, count_filterMap_mark?, List.count_pos_iff] at hx
    exact ⟨x, hx, by rw [count_filterMap_mark?]⟩
  · rw [samplesAfter_eq, samplesAfter_eq, counts_congr h]
  · rw [getElem?_useAll, h]
    exact congrArg some (Exposition.flush_log _)
  · have htold := isTold_of_prefix (prefix_of_mem_samples _ hs)
    simpa [isTold] using htold
  · rw [getElem?_useAll, h]
    rfl
  · rw [getElem?_useAll, h]
    rfl

/-- Requests and a result, with flushes of both kinds among them and without. -/
theorem samples_of_uses_reordered :
    let address : Net.SocketAddress := .v4 ⟨0, 0, 0, 0⟩ 9464
    let us : List Use := [.record .request, .flush .log, .record (.result true),
      .flush (.listener address), .record .request]
    let vs : List Use := [.record (.result true), .record .request, .record .request]
    samplesAfter vs = samplesAfter us ∧
    sampleText "fib_requests_total" 2 ∈ samplesAfter us ∧
    (useAll {} us).1[1]? = some [.sample "fib_requests_total 1"] := by
  intro address us vs
  obtain ⟨hcount, -, -, hperm, hlog, -⟩ := samples_of_uses us
  refine ⟨hperm vs ?_, (hcount .request 2).2 ⟨by decide, rfl⟩, ?_⟩
  · decide
  · rw [hlog 1 rfl]
    have hone : samplesAfter (us.take 1) = ["fib_requests_total 1"] := by decide +kernel
    rw [hone]
    rfl

end Metrics

end TracedFibonacci
