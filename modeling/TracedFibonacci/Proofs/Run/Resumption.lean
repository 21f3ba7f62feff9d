import TracedFibonacci.Proofs.Request.Value
import TracedFibonacci.Proofs.Run.Undisturbed

/-!
# Going on after a cancelled run

A run that is cancelled in the middle of a line loses what it has taken of that line, and the next
run takes the tail of it for a line. `Session.lost` is what is lost in front of a state: the bytes
of the input that were used up to there, behind their last newline. The tail may be a request of its
own, and then the next run reports on a number that nobody asked for.

How far that goes is decided by what is lost. A run reports on the lines of the input, and the
reports of all runs are those of a single one, exactly when every run that reports at all has lost
nothing but zeros.

## What it rests on

* `Run.Takes.split` divides what a run takes into the lines it reports on and a remainder, in which
  there is no newline if the run was cancelled.
* `value?_append_iff` compares the first of these lines with the line of the input that it is the
  tail of. The others are lines of the input as they are (`exists_line`).
* The prefix of a single run is followed through the session by an induction over its steps, with
  the lost beginning as the part that changes (`prefix_iff`).
-/

namespace TracedFibonacci

open Request Source

/-! ### The lines that a run reports on -/

namespace Request

theorem accepted_append {ps : List (List UInt8)} {ns : List UInt64}
    (h : ps.map value? = ns.map some) (qs : List (List UInt8)) :
    accepted (ps ++ qs) = ns ++ accepted qs := by
  induction ps generalizing ns with
  | nil =>
    obtain rfl : ns = [] := by simpa using h.symm
    rfl
  | cons p ps ih =>
    cases ns with
    | nil => simp at h
    | cons n ns =>
      simp only [List.map_cons, List.cons.injEq] at h
      rw [List.cons_append, accepted, h.1, List.cons_append, ← ih h.2]

/-- What is lost in front of a row of requests changes the first of them alone. -/
theorem exists_line {w : List UInt8} {n : UInt64} {ns : List UInt64} (hw : unfinished w = [])
    (hv : (pieces w).map value? = (n :: ns).map some) (tail : List UInt8) :
    ∃ line ls, value? line = some n ∧ ls.map value? = ns.map some ∧
      pieces (w ++ tail) = line :: (ls ++ pieces tail) ∧
      ∀ t, newline ∉ t → pieces (t ++ (w ++ tail)) = (t ++ line) :: (ls ++ pieces tail) := by
  have hne : w ≠ [] := by
    rintro rfl
    simp at hv
  have hmem := newline_mem_of_unfinished hw hne
  rw [pieces_of_ne_nil hne, List.map_cons, List.map_cons, List.cons.injEq] at hv
  have hcut : cut (w ++ tail) = ((cut w).1, (cut w).2 ++ tail) := cut_append_of_mem hmem tail
  have hrest : pieces ((cut w).2 ++ tail) = pieces (cut w).2 ++ pieces tail :=
    pieces_append (by rw [unfinished_cut hmem, hw]) tail
  refine ⟨(cut w).1, pieces (cut w).2, hv.1, hv.2, ?_, fun t ht ↦ ?_⟩
  · rw [pieces_of_ne_nil (by simp [hne]), hcut, hrest]
  · rw [pieces_append_of_notMem ht (by simp [hne]), hcut, hrest]

/-- **A row of requests behind a lost beginning** begins the requests of the whole exactly when the
beginning is zeros. -/
theorem prefix_accepted_iff {w t : List UInt8} {n : UInt64} {ns : List UInt64}
    (hw : unfinished w = []) (hv : (pieces w).map value? = (n :: ns).map some)
    (ht : newline ∉ t) (tail : List UInt8) (xs : List UInt64) :
    (n :: ns) ++ xs <+: accepted (pieces (t ++ (w ++ tail))) ↔
      (∀ b ∈ t, b = zero) ∧ xs <+: accepted (pieces tail) := by
  obtain ⟨line, ls, hline, hls, -, htorn⟩ := exists_line hw hv tail
  rw [htorn t ht, ← value?_append_iff hline]
  by_cases h : value? (t ++ line) = some n
  · have hall : ((t ++ line) :: ls).map value? = (n :: ns).map some := by
      rw [List.map_cons, h, hls, List.map_cons]
    rw [← List.cons_append, accepted_append hall, List.prefix_append_right_inj]
    exact ⟨fun hx ↦ ⟨h, hx⟩, fun hx ↦ hx.2⟩
  · refine ⟨fun hx ↦ absurd ?_ h, fun hx ↦ absurd hx.1 h⟩
    rw [accepted] at hx
    cases hval : value? (t ++ line) with
    | none =>
      rw [hval] at hx
      simp at hx
    | some m =>
      rw [hval, List.cons_append, List.cons_prefix_cons] at hx
      rw [hx.1]

theorem prefix_row_iff {w t : List UInt8} {ns : List UInt64} (hw : unfinished w = [])
    (hv : (pieces w).map value? = ns.map some) (ht : newline ∉ t) (tail : List UInt8) :
    ns <+: accepted (pieces (t ++ (w ++ tail))) ↔ (ns ≠ [] → ∀ b ∈ t, b = zero) := by
  cases ns with
  | nil => simp
  | cons n ns =>
    have hrow := prefix_accepted_iff hw hv ht tail []
    rw [List.append_nil] at hrow
    rw [hrow]
    simp

end Request

/-- **What a run takes** are the lines of its reports, and then something that has no newline if the
run is cancelled. -/
theorem Run.Takes.split {policy : OverflowPolicy} {p q : Position} {rs : List Report} {e : Ending}
    (h : Takes policy p rs e q) :
    ∃ (ns : List UInt64) (w u : List UInt8), rs = ns.map (.on policy) ∧
      p.bytes = w ++ (u ++ q.bytes) ∧ unfinished w = [] ∧ (pieces w).map value? = ns.map some ∧
      (e = .cancelled → newline ∉ u) := by
  induction h with
  | idle p => exact ⟨[], [], [], rfl, rfl, rfl, rfl, fun _ ↦ List.not_mem_nil⟩
  | last hi =>
    cases hi with
    | @givenUp lines t bs e ht he => exact ⟨[], [], t, rfl, rfl, rfl, rfl, fun _ ↦ ht⟩
    | @refused lines lines' bs e hr =>
      exact ⟨[], [], (cut bs).1, rfl, (cut_append_cut bs).symm, rfl, rfl, nofun⟩
    | @unanswered lines lines' bs n e hr he =>
      refine ⟨[], [], (cut bs).1, rfl, (cut_append_cut bs).symm, rfl, rfl, ?_⟩
      rintro rfl
      rcases he with he | ⟨_, he⟩ <;> contradiction
  | more hi _ ih =>
    cases hi with
    | @answered lines lines' bs n hr =>
      obtain ⟨ns, w, u, rfl, hbytes, hw, hv, hu⟩ := ih
      have hval := value?_of_receive hr
      have hmem := newline_mem_cut_iff.1 (newline_mem_of_value? hval)
      obtain ⟨hline, hone⟩ := pieces_cut hmem
      refine ⟨n :: ns, (cut bs).1 ++ w, u, rfl, ?_, ?_, ?_, hu⟩
      · dsimp only at hbytes ⊢
        rw [List.append_assoc, ← hbytes, cut_append_cut]
      · rw [unfinished_append hline, hw]
      · rw [pieces_append hline, hone, List.map_append, hv, List.map_cons, List.map_cons, hval]
        rfl

/-! ### The runs of a session -/

namespace Session

/-- One run of a session. -/
structure Turn where
  /-- What it starts from. -/
  before : State
  /-- What it comes to. -/
  finish : Finish

/-- The reports made by a run of a session. -/
def Turn.reports (x : Turn) : List Report := x.finish.activity.reports

/-- The runs of a session in order. -/
def turns (setup : Setup) (st : State) : List Step → List Turn
  | [] => []
  | .run :: ss => ⟨st, Run.start setup st⟩ :: turns setup (Run.start setup st).state ss
  | s :: ss => turns setup (step setup st s).2 ss

/-- The runs through the first that did not end by cancellation. -/
def throughFailure : List Turn → List Turn
  | [] => []
  | x :: xs => if x.finish.ending = .cancelled then x :: throughFailure xs else [x]

/-- The bytes of the input `bs` that were used before `st`. -/
def used (bs : List UInt8) (st : State) : List UInt8 :=
  bs.take (bs.length - st.reader.source.bytes.length)

/-- The beginning of a line of the input `bs` that is lost to a run from `st`. -/
def lost (bs : List UInt8) (st : State) : List UInt8 := unfinished (used bs st)

theorem used_eq {bs c : List UInt8} {st : State} (h : bs = c ++ st.reader.source.bytes) :
    used bs st = c := by
  rw [used, h, List.length_append, Nat.add_sub_cancel, List.take_left']
  rfl

theorem ran_eq_map_turns (setup : Setup) (st : State) (ss : List Step) :
    ran setup st ss = (turns setup st ss).map fun x ↦ (x.reports, x.finish.ending) := by
  induction ss generalizing st with
  | nil => rfl
  | cons s ss ih =>
    cases s with
    | run =>
      rw [turns, List.map_cons, ← ih]
      rfl
    | cancel => exact ih _
    | cancelIn ms => exact ih _
    | newContext => exact ih _

/-- A step that is no run leaves the reader alone. -/
theorem reader_step (setup : Setup) (st : State) {s : Step} (hs : s ≠ .run) :
    (step setup st s).2.reader = st.reader := by
  cases s with
  | run => exact absurd rfl hs
  | cancel => rfl
  | cancelIn ms => rfl
  | newContext => rfl

theorem turns_of_ne_run (setup : Setup) (st : State) {s : Step} (hs : s ≠ .run) (ss : List Step) :
    turns setup st (s :: ss) = turns setup (step setup st s).2 ss := by
  cases s with
  | run => exact absurd rfl hs
  | cancel => rfl
  | cancelIn ms => rfl
  | newContext => rfl

/-- A run of a session starts from a part of the input that is left. -/
theorem exists_used {setup : Setup} {st : State} (hs : st.reader.source.Sound) {ss : List Step}
    {x : Turn} (hx : x ∈ turns setup st ss) :
    x.before.reader.source.Sound ∧ x.finish = Run.start setup x.before ∧
      ∃ c, st.reader.source.bytes = c ++ x.before.reader.source.bytes := by
  induction ss generalizing st with
  | nil => simp [turns] at hx
  | cons s ss ih =>
    by_cases hrun : s = .run
    · subst hrun
      rw [turns] at hx
      rcases List.mem_cons.1 hx with rfl | hx
      · exact ⟨hs, rfl, [], rfl⟩
      · obtain ⟨hs', ht⟩ := Run.takes_start setup hs
        obtain ⟨h1, h2, c, hc⟩ := ih hs' hx
        obtain ⟨-, w, u, -, hbytes, -⟩ := ht.split
        refine ⟨h1, h2, w ++ (u ++ c), ?_⟩
        replace hbytes : st.reader.source.bytes =
            w ++ (u ++ (Run.start setup st).state.reader.source.bytes) := hbytes
        rw [hbytes, hc, List.append_assoc, List.append_assoc]
    · rw [turns_of_ne_run setup st hrun] at hx
      rw [← reader_step setup st hrun] at hs ⊢
      exact ih hs hx

/-! ### One run and the lines of the input -/

/-- The line of the input `bs` that report number `i` of a run from `st` stands for. -/
def lineOf? (bs : List UInt8) (st : State) (i : Nat) : Option (List UInt8) :=
  (pieces bs)[(used bs st).count newline + i]?

/-- The lines of the input from the one on that a run begins in. -/
theorem lineOf?_eq {bs c : List UInt8} {st : State} (h : bs = c ++ st.reader.source.bytes)
    (i : Nat) : lineOf? bs st i = (pieces (unfinished c ++ st.reader.source.bytes))[i]? := by
  obtain ⟨whole, hwhole, hu⟩ := exists_whole c
  rw [lineOf?, used_eq h]
  have hcount : c.count newline = (pieces whole).length := by
    rw [length_pieces hu]
    conv_lhs => rw [hwhole]
    rw [List.count_append, List.count_eq_zero.2 (newline_notMem_unfinished c), Nat.add_zero]
  have hpieces : pieces bs = pieces whole ++ pieces (unfinished c ++ st.reader.source.bytes) := by
    rw [← pieces_append hu, ← List.append_assoc, ← hwhole, h]
  rw [hcount, hpieces, List.getElem?_append_right (Nat.le_add_right _ _), Nat.add_sub_cancel_left]

/-- What a run reports on are the values of the pieces that it finds. -/
theorem value?_of_report {policy : OverflowPolicy} {p q : Position} {rs : List Report} {e : Ending}
    (h : Run.Takes policy p rs e q) {i : Nat} {r : Report} (hr : rs[i]? = some r) :
    r = .on policy r.n ∧ ∃ line, (pieces p.bytes)[i]? = some line ∧ value? line = some r.n := by
  obtain ⟨ns, w, u, rfl, hbytes, hw, hv, -⟩ := h.split
  rw [List.getElem?_map, Option.map_eq_some_iff] at hr
  obtain ⟨n, hn, rfl⟩ := hr
  have hi : ((pieces w).map value?)[i]? = some (some n) := by
    rw [hv, List.getElem?_map, hn, Option.map_some]
  rw [List.getElem?_map, Option.map_eq_some_iff] at hi
  obtain ⟨line, hline, hval⟩ := hi
  refine ⟨rfl, line, ?_, hval⟩
  rw [hbytes, pieces_append hw, List.getElem?_append_left (List.getElem?_eq_some_iff.1 hline).1,
    hline]

section Torn

variable {policy : OverflowPolicy} {bs c : List UInt8} {st : State} {q : Position}
  {rs : List Report} {e : Ending}

/-- Behind its first report, a run reports on lines of the input. -/
theorem lineOf?_of_later_report (h : Run.Takes policy st.position rs e q)
    (hc : bs = c ++ st.reader.source.bytes) {i : Nat} {r : Report} (hr : rs[i + 1]? = some r) :
    ∃ line, lineOf? bs st (i + 1) = some line ∧ value? line = some r.n := by
  obtain ⟨-, p, hp, hval⟩ := value?_of_report h hr
  obtain ⟨ns, w, u, rfl, hbytes, hw, hv, -⟩ := h.split
  replace hbytes : st.reader.source.bytes = w ++ (u ++ q.bytes) := hbytes
  cases ns with
  | nil => simp at hr
  | cons n ns =>
    obtain ⟨line, ls, -, -, hintact, htorn⟩ := exists_line hw hv (u ++ q.bytes)
    replace hp : (pieces st.reader.source.bytes)[i + 1]? = some p := hp
    rw [hbytes, hintact, List.getElem?_cons_succ] at hp
    refine ⟨p, ?_, hval⟩
    rw [lineOf?_eq hc, hbytes, htorn _ (newline_notMem_unfinished c), List.getElem?_cons_succ, hp]

/-- **A run reports on lines of the input exactly when it has lost nothing but zeros**, or makes no
report. -/
theorem lineOf?_iff (h : Run.Takes policy st.position rs e q)
    (hc : bs = c ++ st.reader.source.bytes) :
    (∀ i r, rs[i]? = some r → ∃ line, lineOf? bs st i = some line ∧ value? line = some r.n) ↔
      (rs ≠ [] → ∀ b ∈ lost bs st, b = zero) := by
  obtain ⟨ns, w, u, rfl, hbytes, hw, hv, -⟩ := h.split
  replace hbytes : st.reader.source.bytes = w ++ (u ++ q.bytes) := hbytes
  rw [lost, used_eq hc]
  cases ns with
  | nil => simp
  | cons n ns =>
    obtain ⟨line, ls, hline, -, -, htorn⟩ := exists_line hw hv (u ++ q.bytes)
    have hfirst : lineOf? bs st 0 = some (unfinished c ++ line) := by
      rw [lineOf?_eq hc, hbytes, htorn _ (newline_notMem_unfinished c)]
      rfl
    rw [← value?_append_iff hline]
    constructor
    · intro hall _
      obtain ⟨p, hp, hval⟩ := hall 0 (.on policy n) rfl
      obtain rfl : unfinished c ++ line = p := Option.some.inj (hfirst.symm.trans hp)
      exact hval
    · intro hzero i r hr
      cases i with
      | zero =>
        obtain rfl : Report.on policy n = r := by simpa using hr
        exact ⟨_, hfirst, hzero (by simp)⟩
      | succ i => exact lineOf?_of_later_report h hc hr

end Torn

/-! ### All runs and a single one -/

/-- What is lost is not changed by whole lines in front of the input. -/
theorem lost_append {whole bs : List UInt8} {st : State} (hw : unfinished whole = [])
    (h : ∃ c, bs = c ++ st.reader.source.bytes) : lost (whole ++ bs) st = lost bs st := by
  obtain ⟨c, hc⟩ := h
  have hc' : whole ++ bs = (whole ++ c) ++ st.reader.source.bytes := by
    rw [hc, List.append_assoc]
  rw [lost, lost, used_eq hc, used_eq hc', unfinished_append hw]

theorem mem_of_mem_throughFailure {x : Turn} {xs : List Turn} (h : x ∈ throughFailure xs) :
    x ∈ xs := by
  induction xs with
  | nil => exact h
  | cons y xs ih =>
    rw [throughFailure] at h
    split at h
    · rcases List.mem_cons.1 h with rfl | h
      · exact .head _
      · exact .tail _ (ih h)
    · exact List.mem_singleton.1 h ▸ .head _

/-- Whole lines in front of what is left change nothing in what the later runs have lost. -/
theorem forall_lost_iff {setup : Setup} {st : State} (hs : st.reader.source.Sound)
    {whole : List UInt8} (hw : unfinished whole = []) (u : List UInt8) (ss : List Step) :
    (∀ x ∈ throughFailure (turns setup st ss), x.reports ≠ [] →
        ∀ b ∈ lost (whole ++ (u ++ st.reader.source.bytes)) x.before, b = zero) ↔
      ∀ x ∈ throughFailure (turns setup st ss), x.reports ≠ [] →
        ∀ b ∈ lost (u ++ st.reader.source.bytes) x.before, b = zero := by
  refine forall₂_congr fun x hx ↦ ?_
  obtain ⟨-, -, c, hc⟩ := exists_used hs (mem_of_mem_throughFailure hx)
  rw [lost_append hw ⟨u ++ c, by rw [hc, List.append_assoc]⟩]

/-- The reports of a session that begins behind `t`, the lost beginning of a line, are a prefix of
the requests of the whole exactly when no run that reports has lost anything but zeros. -/
theorem prefix_iff (setup : Setup) {st : State} (hs : st.reader.source.Sound) {t : List UInt8}
    (ht : newline ∉ t) (ss : List Step) :
    ∃ ns : List UInt64,
      (throughFailure (turns setup st ss)).flatMap (·.reports) = ns.map (.on setup.policy) ∧
      (ns <+: accepted (pieces (t ++ st.reader.source.bytes)) ↔
        ∀ x ∈ throughFailure (turns setup st ss), x.reports ≠ [] →
          ∀ b ∈ lost (t ++ st.reader.source.bytes) x.before, b = zero) := by
  induction ss generalizing st t with
  | nil => exact ⟨[], rfl, by simp [turns, throughFailure]⟩
  | cons s ss ih =>
    by_cases hrun : s = .run
    · subst hrun
      obtain ⟨hs', htakes⟩ := Run.takes_start setup hs
      obtain ⟨ns, w, u, hns, hbytes, hw, hv, hu⟩ := htakes.split
      replace hbytes : st.reader.source.bytes =
          w ++ (u ++ (Run.start setup st).state.reader.source.bytes) := hbytes
      -- the first run has lost what is in hand
      have hlost : lost (t ++ st.reader.source.bytes) st = t := by
        rw [lost, used_eq rfl, unfinished_of_notMem ht]
      have hfirst : (Turn.mk st (Run.start setup st)).reports = ns.map (.on setup.policy) := hns
      rw [turns, throughFailure]
      by_cases hcan : (Run.start setup st).ending = .cancelled
      · rw [if_pos hcan]
        replace hu := hu hcan
        cases ns with
        | nil =>
          obtain rfl : w = [] := by
            rw [← flatten_pieces w, List.map_eq_nil_iff.1 hv, List.flatten_nil]
          -- what this run has taken is lost to the next one too
          have hsum : t ++ st.reader.source.bytes =
              (t ++ u) ++ (Run.start setup st).state.reader.source.bytes := by
            rw [hbytes, List.nil_append, List.append_assoc]
          have htu : newline ∉ t ++ u := by simp [ht, hu]
          obtain ⟨ms, hms, hiff⟩ := ih hs' htu
          refine ⟨ms, ?_, ?_⟩
          · rw [List.flatMap_cons, hfirst, hms]
            rfl
          · rw [List.forall_mem_cons, hsum, hiff, hfirst]
            simp
        | cons n ns =>
          obtain ⟨ms, hms, hiff⟩ := ih hs' hu
          have hwhole : unfinished (t ++ w) = [] :=
            unfinished_append_whole t hw (by rintro rfl; simp at hv)
          refine ⟨(n :: ns) ++ ms, ?_, ?_⟩
          · rw [List.flatMap_cons, hfirst, hms, List.map_append]
          · rw [List.forall_mem_cons, hfirst, hlost, hbytes, prefix_accepted_iff hw hv ht, hiff,
              ← List.append_assoc, forall_lost_iff hs' hwhole]
            simp
      · rw [if_neg hcan]
        refine ⟨ns, by simpa using hfirst, ?_⟩
        rw [List.forall_mem_singleton, hfirst, hlost, hbytes, prefix_row_iff hw hv ht]
        simp
    · rw [turns_of_ne_run setup st hrun]
      rw [← reader_step setup st hrun] at hs ⊢
      exact ih hs ht

/-! ### The law of resumption -/

theorem share_readings (lines : Nat) (bs : List UInt8) :
    (share (readings lines (pieces bs))).1 = accepted (pieces bs) := by
  induction bs using pieces_induction generalizing lines with
  | nil => rfl
  | piece bs hbs ih =>
    have hp := cut_ne_nil hbs
    rw [pieces_of_ne_nil hbs, readings_cons hp, accepted, ← toOption_receive lines]
    cases (Reader.receive lines (cut bs).1).1 with
    | error e => rfl
    | ok n =>
      rw [share, ih]
      rfl

end Session

/-- The same, with a receiver of the reports who leaves the run alone. -/
def Setup.calmed (setup : Setup) : Setup := { setup with cancelsAfter? := none, breaksAt? := none }

/-- The same, over the same bytes, with nothing that cancels a run. -/
def State.calmed (st : State) : State :=
  { st with
    clock := {}
    reader := { st.reader with
      source := { st.reader.source with
        arrivals := st.reader.source.arrivals.filter (· ≠ .cancel) } } }

theorem Stream.bytes_filter (as : List Arrival) : bytes (as.filter (· ≠ .cancel)) = bytes as := by
  fun_induction bytes as with
  | case1 => rfl
  | case2 bs rest ih => simpa [bytes] using ih
  | case3 f rest ih => simpa [bytes] using ih
  | case4 rest ih => simpa [bytes] using ih
  | case5 rest => simp [bytes]
  | case6 rest ih => simpa [bytes] using ih
  | case7 ms rest ih => simpa [bytes] using ih

theorem State.undisturbed_calmed {st : State} (hs : st.reader.source.Flowing) :
    st.calmed.Undisturbed := by
  have hmem : ∀ {a}, a ∈ st.calmed.reader.source.arrivals → a ∈ st.reader.source.arrivals :=
    fun ha ↦ (List.mem_filter.1 ha).1
  exact ⟨⟨⟨⟨⟨hs.capacity_pos, fun h ↦ hs.chunk_ne_nil (hmem h)⟩, fun f h ↦ hs.no_fault f (hmem h)⟩,
    fun h ↦ hs.no_stall (hmem h)⟩, by simp [State.calmed]⟩, rfl, rfl⟩

/-- A run that nobody cancels reports on the requests of the whole input. -/
theorem Run.reports_calmed (setup : Setup) {st : State} (hs : st.reader.source.Flowing) :
    (start setup.calmed st.calmed).activity.reports =
      (accepted (pieces st.reader.source.bytes)).map (.on setup.policy) := by
  have hst := State.undisturbed_calmed hs
  have hsetup : setup.calmed.Undisturbing := ⟨rfl, rfl⟩
  obtain ⟨-, e, he⟩ := undisturbed_start hsetup hst
  obtain ⟨-, ht⟩ := takes_start setup.calmed hst.calm.toSound
  rw [he] at ht
  obtain ⟨ns, hns, hshare⟩ := share_of_takes ht
  have hbytes : st.calmed.position.bytes = st.reader.source.bytes :=
    congrArg (st.reader.source.buffer ++ ·) (Stream.bytes_filter _)
  have hfst := congrArg Prod.fst hshare
  rw [Session.share_readings, hbytes] at hfst
  rw [hns, hfst]
  rfl

namespace Session

/-- **Going on after cancelled runs.** In any session, a run reports on the values of the pieces it
finds; all but the first of them are lines of the input. They all are, in place, exactly when what
the run has lost of its first line is zeros; and up to the first failure the reports of all runs are
a prefix of those of a single run that nobody cancels exactly when that is so for each of these runs
that reports at all. -/
theorem resumed_reports_iff {setup : Setup} {st : State} (hs : st.reader.source.Flowing)
    (ss : List Step) :
    ran setup st ss = (turns setup st ss).map (fun x ↦ (x.reports, x.finish.ending)) ∧
    (∀ x ∈ turns setup st ss,
      (∀ (i : Nat) (r : Report), x.reports[i]? = some r → r = .on setup.policy r.n ∧
        ∃ p, (pieces x.before.reader.source.bytes)[i]? = some p ∧ value? p = some r.n) ∧
      (∀ (i : Nat) (r : Report), x.reports[i + 1]? = some r → ∃ line,
        lineOf? st.reader.source.bytes x.before (i + 1) = some line ∧ value? line = some r.n) ∧
      ((∀ (i : Nat) (r : Report), x.reports[i]? = some r → ∃ line,
          lineOf? st.reader.source.bytes x.before i = some line ∧ value? line = some r.n) ↔
        (x.reports ≠ [] → ∀ b ∈ lost st.reader.source.bytes x.before, b = zero))) ∧
    ((throughFailure (turns setup st ss)).flatMap (·.reports) <+:
        (Run.start setup.calmed st.calmed).activity.reports ↔
      ∀ x ∈ throughFailure (turns setup st ss), x.reports ≠ [] →
        ∀ b ∈ lost st.reader.source.bytes x.before, b = zero) := by
  refine ⟨ran_eq_map_turns setup st ss, fun x hx ↦ ?_, ?_⟩
  · obtain ⟨hsound, hfin, c, hc⟩ := exists_used hs.toSound hx
    have ht := (Run.takes_start setup hsound).2
    rw [← hfin] at ht
    exact ⟨fun i r ↦ value?_of_report ht, fun i r ↦ lineOf?_of_later_report ht hc,
      lineOf?_iff ht hc⟩
  · obtain ⟨ns, hns, hiff⟩ := prefix_iff setup hs.toSound List.not_mem_nil ss
    rw [List.nil_append] at hiff
    rw [← hiff, hns, Run.reports_calmed setup hs]
    refine ⟨fun h ↦ ?_, fun h ↦ h.map _⟩
    simpa [Function.comp_def, Report.on] using h.map (·.n)

/-- Two zeros and a carriage return are torn off two lines, and the second leaves no request. -/
theorem resumed_reports_iff_zeros :
    let st : State := { reader := { source := {
      capacity := 4
      arrivals := [.bytes [48, 48], .cancel, .delay 3, .bytes [51, 52, 10, 53], .pause,
        .bytes [54, 13], .cancel, .pause, .bytes [10, 55, 10]] } } }
    let ss : List Step := [.run, .newContext, .run, .newContext, .run, .run]
    st.reader.source.Flowing ∧
      (throughFailure (turns {} st ss)).flatMap (·.reports) <+:
        (Run.start ({} : Setup).calmed st.calmed).activity.reports := by
  intro st ss
  have hs : st.reader.source.Flowing := ⟨⟨⟨by decide, by decide⟩, by simp [st]⟩, by decide⟩
  exact ⟨hs, (resumed_reports_iff hs ss).2.2.2 (by decide +kernel)⟩

/-- The input `1234` and a newline, of which the first run takes `12` before it is cancelled. -/
def halfLine : State :=
  { reader := { source := {
      arrivals := [.bytes [49, 50], .cancel, .pause, .bytes [51, 52, 10]] } } }

/-- The second of two runs reports on `34`, which is no line of the input, and a single run would
not have reported on it. -/
theorem half_line_answered :
    (∃ x ∈ turns {} halfLine [.run, .newContext, .run], ∃ r ∈ x.reports,
      ∀ line ∈ pieces halfLine.reader.source.bytes, value? line ≠ some r.n) ∧
    ¬(throughFailure (turns {} halfLine [.run, .newContext, .run])).flatMap (·.reports) <+:
      (Run.start ({} : Setup).calmed halfLine.calmed).activity.reports := by
  have hmem : 34 ∈ (turns {} halfLine [.run, .newContext, .run]).flatMap
      fun x ↦ x.reports.map (·.n) := by
    decide +kernel
  have hlines : ∀ line ∈ pieces halfLine.reader.source.bytes, value? line ≠ some 34 := by
    decide +kernel
  have hreports : ((throughFailure (turns {} halfLine [.run, .newContext, .run])).flatMap
      (·.reports)).map (·.n) = [34] := by
    decide +kernel
  have halone : (Run.start ({} : Setup).calmed halfLine.calmed).activity.reports.map (·.n) =
      [1234] := by
    decide +kernel
  refine ⟨?_, fun h ↦ ?_⟩
  · obtain ⟨x, hx, hr⟩ := List.mem_flatMap.1 hmem
    obtain ⟨r, hr, hn⟩ := List.mem_map.1 hr
    exact ⟨x, hx, r, hr, hn ▸ hlines⟩
  · have hprefix := h.map (·.n)
    rw [hreports, halone] at hprefix
    exact absurd hprefix (by decide)

end Session

end TracedFibonacci
