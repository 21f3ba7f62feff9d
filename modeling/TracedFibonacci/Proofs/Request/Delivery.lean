import TracedFibonacci.Proofs.Request.Pieces

/-!
# What a source delivers

However the bytes of a stream arrive, and whatever a reader's buffer holds of them, there is one
byte string that is still to be read: `Source.bytes`. An attempt to complete a line takes its bytes
from the front of it, and leaves the rest in order.

## One attempt

`bytes_readLine` is the account of one attempt, begun with some bytes of a line in hand. If it ends
with a line, that is the first piece of what was in hand and still to be read; if it has to wait, or
fails, then what it took has no newline. That an attempt stops at the first newline is a fact about
the buffer (`splitLine?_eq`); that chunks and refills leave no mark on the line is the induction.

## Sources by what they hold

A chunk without bytes ends a read as the end of the stream does, and so does a buffer without room.
`Source.Regular` leaves both out, and the classes after it leave out one thing more each: faults
(`Sound`), waits that never end (`Flowing`) and cancellations (`Calm`). An attempt adds nothing to
a source but what is left of a chunk (`mem_arrivals_readLine`), so it leaves each of these classes
as it found it.
-/

namespace TracedFibonacci

open Request

namespace Stream

/-- The bytes that a stream has before a wait that never ends. -/
def bytes : List Arrival → List UInt8
  | [] => []
  | .bytes bs :: rest => bs ++ bytes rest
  | .fault _ :: rest => bytes rest
  | .pause :: rest => bytes rest
  | .stall :: _ => []
  | .cancel :: rest => bytes rest
  | .delay _ :: rest => bytes rest

/-- The bytes that a read gives. -/
def Served.given : Served → List UInt8
  | .bytes bs => bs
  | _ => []

/-- The wait that a read meets, as it stood in the stream. -/
def Served.met : Served → List Arrival
  | .waiting w => w.arrival?.toList
  | _ => []

/-- A read divides the bytes of a stream into those it gives and those it leaves. -/
theorem bytes_serve (capacity : Nat) (as : List Arrival) :
    (serve capacity as).2.1.given ++
      bytes ((serve capacity as).2.1.met ++ (serve capacity as).2.2) = bytes as := by
  fun_induction serve capacity as with
  | case1 => rfl
  | case2 bs rest =>
    dsimp only [Served.given, Served.met, List.nil_append, bytes]
    split
    · next h => rw [List.take_of_length_le h]
    · rw [bytes, ← List.append_assoc, List.take_append_drop]
  | case3 f rest hf ih => exact ih
  | case4 f rest hf => rfl
  | case5 rest => rfl
  | case6 rest => rfl
  | case7 rest ih => exact ih
  | case8 rest ih => exact ih
  | case9 ms rest => rfl

/-- What a read meets comes from the stream, and it leaves nothing there but what was there or is
left of a chunk. -/
theorem origin_serve (capacity : Nat) (as : List Arrival) :
    ((serve capacity as).1 = true → .cancel ∈ as) ∧
    (∀ f, (serve capacity as).2.1 = .fault f → .fault f ∈ as) ∧
    ((serve capacity as).2.1 = .waiting .forever → .stall ∈ as) ∧
    ∀ a ∈ (serve capacity as).2.2, a ∈ as ∨ ∃ bs, bs ≠ [] ∧ a = .bytes bs := by
  fun_induction serve capacity as with
  | case1 => simp
  | case2 bs rest =>
    refine ⟨by simp, by simp, by simp, fun a ha ↦ ?_⟩
    dsimp only at ha
    split at ha
    · exact .inl (List.mem_cons_of_mem _ ha)
    · next h =>
      rcases List.mem_cons.1 ha with rfl | ha
      · exact .inr ⟨_, by simpa using h, rfl⟩
      · exact .inl (List.mem_cons_of_mem _ ha)
  | case3 f rest hf ih =>
    obtain ⟨h1, h2, h3, h4⟩ := ih
    exact ⟨fun h ↦ .tail _ (h1 h), fun g h ↦ .tail _ (h2 g h), fun h ↦ .tail _ (h3 h),
      fun a h ↦ (h4 a h).imp_left (.tail _)⟩
  | case4 f rest hf => simp +contextual
  | case5 rest => simp +contextual
  | case6 rest => simp +contextual
  | case7 rest ih =>
    obtain ⟨h1, h2, h3, h4⟩ := ih
    exact ⟨fun _ ↦ .head _, fun g h ↦ .tail _ (h2 g h), fun h ↦ .tail _ (h3 h),
      fun a h ↦ (h4 a h).imp_left (.tail _)⟩
  | case8 rest ih =>
    obtain ⟨h1, h2, h3, h4⟩ := ih
    exact ⟨fun h ↦ .tail _ (h1 h), fun g h ↦ .tail _ (h2 g h), fun h ↦ .tail _ (h3 h),
      fun a h ↦ (h4 a h).imp_left (.tail _)⟩
  | case9 ms rest => simp +contextual

/-- A read that gives nothing has come to the end of the stream. -/
theorem eq_nil_of_serve {capacity : Nat} {as rest : List Arrival} {c : Bool}
    (hcap : 0 < capacity) (hne : .bytes [] ∉ as) (h : serve capacity as = (c, .bytes [], rest)) :
    rest = [] := by
  fun_induction serve capacity as generalizing c with
  | case1 => simp_all
  | case2 bs rest' =>
    simp only [Prod.mk.injEq, Served.bytes.injEq, List.take_eq_nil_iff] at h
    rcases h.2.1 with h0 | rfl
    · omega
    · simp at hne
  | case3 f rest' hf ih => exact ih (fun hm ↦ hne (.tail _ hm)) h
  | case4 => simp at h
  | case5 => simp at h
  | case6 => simp at h
  | case7 rest' ih =>
    simp only [Prod.mk.injEq] at h
    exact ih (c := (serve capacity rest').1) (fun hm ↦ hne (.tail _ hm)) (by rw [← h.2])
  | case8 rest' ih => exact ih (fun hm ↦ hne (.tail _ hm)) h
  | case9 => simp at h

end Stream

namespace Source

/-- The bytes that are still to be read. -/
def bytes (s : Source) : List UInt8 := s.buffer ++ Stream.bytes s.arrivals

/-- A source whose buffer has room and whose chunks have bytes. -/
structure Regular (s : Source) : Prop where
  /-- The buffer takes at least one byte. -/
  capacity_pos : 0 < s.capacity
  /-- No chunk is empty. -/
  chunk_ne_nil : .bytes [] ∉ s.arrivals

/-- A source without faults. -/
structure Sound (s : Source) : Prop extends Regular s where
  /-- No read fails. -/
  no_fault : ∀ f, .fault f ∉ s.arrivals

/-- A source without faults that never waits for ever. -/
structure Flowing (s : Source) : Prop extends Sound s where
  /-- Every wait ends. -/
  no_stall : .stall ∉ s.arrivals

/-- A source without faults that never waits for ever and never cancels the run that reads it. -/
structure Calm (s : Source) : Prop extends Flowing s where
  /-- No read cancels the run. -/
  no_cancel : .cancel ∉ s.arrivals

/-! ### What an attempt leaves -/

theorem capacity_readLine (taken : List UInt8) (s : Source) :
    (readLine taken s).source.capacity = s.capacity := by
  fun_induction readLine taken s with
  | case1 => rfl
  | case2 => rfl
  | case3 taken₀ s h taken c b bs rest hs _ more ih => exact ih
  | case4 => rfl
  | case5 => rfl

/-- What an attempt meets comes from the source, and it leaves nothing there but what was there or
is left of a chunk. -/
theorem origin_readLine (taken : List UInt8) (s : Source) :
    ((readLine taken s).cancels = true → .cancel ∈ s.arrivals) ∧
    (∀ f, (readLine taken s).ended = .fault f → .fault f ∈ s.arrivals) ∧
    (∀ t, (readLine taken s).ended = .waiting t .forever → .stall ∈ s.arrivals) ∧
    ∀ a ∈ (readLine taken s).source.arrivals, a ∈ s.arrivals ∨ ∃ bs, bs ≠ [] ∧ a = .bytes bs := by
  fun_induction readLine taken s with
  | case1 taken s line rest h => simp +contextual
  | case2 taken₀ s h taken c rest hs =>
    obtain ⟨h1, h2, h3, h4⟩ := Stream.origin_serve s.capacity s.arrivals
    rw [hs] at h1 h4
    exact ⟨h1, by simp, by simp, h4⟩
  | case3 taken₀ s h taken c b bs rest hs _ more ih =>
    obtain ⟨h1, -, -, h4⟩ := Stream.origin_serve s.capacity s.arrivals
    rw [hs] at h1 h4
    -- what the rest of the attempt meets is in what the read has left, and is no chunk
    have hback : ∀ a, (∀ cs, a ≠ Arrival.bytes cs) → a ∈ rest → a ∈ s.arrivals := by
      intro a ha hm
      rcases h4 a hm with hm | ⟨cs, -, hcs⟩
      · exact hm
      · exact absurd hcs (ha cs)
    obtain ⟨i1, i2, i3, i4⟩ := ih
    refine ⟨fun hc ↦ ?_, fun f hf ↦ hback _ (by simp) (i2 f hf),
      fun t ht ↦ hback _ (by simp) (i3 t ht), fun a ha ↦ ?_⟩
    · rcases Bool.or_eq_true_iff.1 hc with hc | hc
      · exact h1 hc
      · exact hback _ (by simp) (i1 hc)
    · exact (i4 a ha).elim (h4 a) .inr
  | case4 taken₀ s h c f rest hs =>
    obtain ⟨h1, h2, -, h4⟩ := Stream.origin_serve s.capacity s.arrivals
    rw [hs] at h1 h2 h4
    exact ⟨h1, fun g hg ↦ h2 g (by simpa using hg), by simp, h4⟩
  | case5 taken₀ s h taken c w rest hs =>
    obtain ⟨h1, -, h3, h4⟩ := Stream.origin_serve s.capacity s.arrivals
    rw [hs] at h1 h3 h4
    exact ⟨h1, by simp, fun t ht ↦ h3 (by simp_all), h4⟩

theorem mem_arrivals_readLine {taken : List UInt8} {s : Source} {a : Arrival}
    (ha : a ∈ (readLine taken s).source.arrivals) (hchunk : ∀ bs, bs ≠ [] → a ≠ .bytes bs) :
    a ∈ s.arrivals :=
  ((origin_readLine taken s).2.2.2 a ha).resolve_right fun ⟨bs, hbs, h⟩ ↦ hchunk bs hbs h

theorem Regular.readLine {s : Source} (hs : s.Regular) (taken : List UInt8) :
    (readLine taken s).source.Regular where
  capacity_pos := by
    rw [capacity_readLine]
    exact hs.capacity_pos
  chunk_ne_nil h := hs.chunk_ne_nil (mem_arrivals_readLine h (by simp +contextual))

theorem Sound.readLine {s : Source} (hs : s.Sound) (taken : List UInt8) :
    (readLine taken s).source.Sound where
  toRegular := hs.toRegular.readLine taken
  no_fault f h := hs.no_fault f (mem_arrivals_readLine h (by simp))

theorem Flowing.readLine {s : Source} (hs : s.Flowing) (taken : List UInt8) :
    (readLine taken s).source.Flowing where
  toSound := hs.toSound.readLine taken
  no_stall h := hs.no_stall (mem_arrivals_readLine h (by simp))

theorem Calm.readLine {s : Source} (hs : s.Calm) (taken : List UInt8) :
    (readLine taken s).source.Calm where
  toFlowing := hs.toFlowing.readLine taken
  no_cancel h := hs.no_cancel (mem_arrivals_readLine h (by simp))

theorem Regular.giveUp {s : Source} (hs : s.Regular) (w : Wait) : (s.giveUp w).Regular where
  capacity_pos := hs.capacity_pos
  chunk_ne_nil := by
    have := hs.chunk_ne_nil
    cases w <;> simpa [Source.giveUp, Wait.arrival?] using this

theorem Sound.giveUp {s : Source} (hs : s.Sound) (w : Wait) : (s.giveUp w).Sound where
  toRegular := hs.toRegular.giveUp w
  no_fault f := by
    have := hs.no_fault f
    cases w <;> simpa [Source.giveUp, Wait.arrival?] using this

/-! ### The bytes an attempt takes -/

@[simp] theorem giveUp_turn (s : Source) : s.giveUp .turn = s := rfl

/-- A wait of some length is no byte. -/
@[simp] theorem bytes_giveUp_sleep (s : Source) (ms : Nat) :
    (s.giveUp (.sleep ms)).bytes = s.bytes := rfl

/-- **One attempt takes one piece.** Begun with `taken` in hand, it ends with the first piece of
what was in hand and still to be read, or it has no newline yet. -/
theorem bytes_readLine {taken : List UInt8} {s : Source} (hs : s.Regular)
    (ht : newline ∉ taken) :
    match (readLine taken s).ended with
    | .line bs => cut (taken ++ s.bytes) = (bs, (readLine taken s).source.bytes)
    | .fault _ =>
      ∃ t, newline ∉ t ∧ t ++ (readLine taken s).source.bytes = taken ++ s.bytes
    | .waiting t w =>
      newline ∉ t ∧ t ++ ((readLine taken s).source.giveUp w).bytes = taken ++ s.bytes := by
  fun_induction readLine taken s with
  | case1 taken s line rest h =>
    obtain ⟨hn, hcut⟩ := splitLine?_eq_some h
    dsimp only [bytes]
    rw [cut_append_of_notMem ht, cut_append_of_mem hn, hcut]
  | case2 taken₀ s h taken c rest hs' =>
    have hb := Stream.bytes_serve s.capacity s.arrivals
    have hbuf := splitLine?_eq_none h
    rw [hs'] at hb
    obtain rfl := Stream.eq_nil_of_serve hs.capacity_pos hs.chunk_ne_nil hs'
    replace hb : [] = Stream.bytes s.arrivals := hb
    dsimp only [bytes]
    rw [← hb, List.append_nil, cut_of_notMem (by simp [ht, hbuf])]
    rfl
  | case3 taken₀ s h taken c b bs rest hs' _ more ih =>
    have hb := Stream.bytes_serve s.capacity s.arrivals
    have hbuf := splitLine?_eq_none h
    obtain ⟨-, -, -, hrest⟩ := Stream.origin_serve s.capacity s.arrivals
    rw [hs'] at hb hrest
    -- the chunk has gone into the buffer, and nothing else has changed
    have hreg : Regular { s with buffer := b :: bs, arrivals := rest } := by
      refine ⟨hs.capacity_pos, fun hm ↦ ?_⟩
      rcases hrest _ hm with hm | ⟨cs, hcs, hc⟩
      · exact hs.chunk_ne_nil hm
      · exact hcs (Arrival.bytes.inj hc).symm
    have hsum : taken ++ bytes { s with buffer := b :: bs, arrivals := rest } =
        taken₀ ++ s.bytes := by
      dsimp only [bytes, taken]
      rw [List.append_assoc, ← hb]
      rfl
    rw [hsum] at ih
    exact ih hreg (by simp [taken, ht, hbuf])
  | case4 taken₀ s h c f rest hs' =>
    have hb := Stream.bytes_serve s.capacity s.arrivals
    have hbuf := splitLine?_eq_none h
    rw [hs'] at hb
    refine ⟨taken₀ ++ s.buffer, by simp [ht, hbuf], ?_⟩
    dsimp only [bytes]
    rw [List.append_assoc, ← hb]
    rfl
  | case5 taken₀ s h taken c w rest hs' =>
    have hb := Stream.bytes_serve s.capacity s.arrivals
    have hbuf := splitLine?_eq_none h
    rw [hs'] at hb
    refine ⟨by simp [taken, ht, hbuf], ?_⟩
    dsimp only [bytes, taken]
    rw [List.append_assoc, ← hb]
    rfl

end Source

end TracedFibonacci
