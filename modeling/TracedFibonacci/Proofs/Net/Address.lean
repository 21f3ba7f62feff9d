import TracedFibonacci.Net.SocketAddress
import TracedFibonacci.Proofs.Text.Numeral
import Mathlib.Tactic.Common

/-!
# Addresses are read back from their texts

Both ways of writing an IPv6 address give it back: with the longest row of zeros left out, and with
the IPv4 address that it stands for. So does the text of a socket address, with or without a scope.

The double colon is what makes an address hard to read back, since everything depends on finding the
one that was written and no other. Groups begin with a digit, so a colon between two of them is
never followed by another one, and the search passes over all groups in front of the double colon
(`splitDouble?_writeGroups`). How many zeros it stands for is then a matter of counting to eight.
-/

namespace TracedFibonacci.Net

open Text

/-- What is read back one by one is read back as a list. -/
theorem mapM_map_eq_some {α β : Type} {f : β → Option α} {g : α → β} (h : ∀ x, f (g x) = some x)
    (xs : List α) : (xs.map g).mapM f = some xs := by
  induction xs with
  | nil => rfl
  | cons x xs ih => simp [List.mapM_cons, h, ih]

namespace Ipv6

/-! ### Groups -/

theorem writeGroup_ne_nil (g : UInt16) : writeGroup g ≠ [] := Numeral.write_ne_nil 16 g.toNat

theorem colon_notMem_writeGroup (g : UInt16) : ':' ∉ writeGroup g := by
  intro h
  obtain ⟨d, hd, hc⟩ := Numeral.exists_digit_of_mem_write (by decide) h
  have hall : ∀ d < 16, ':' ≠ Numeral.digitChar d := by decide
  exact hall d hd hc

theorem readGroup?_writeGroup (g : UInt16) : readGroup? (writeGroup g) = some g := by
  have hlength : (writeGroup g).length ≤ 4 := Numeral.length_write_le (by decide) g.toNat_lt
  rw [readGroup?, if_neg (by simp [writeGroup_ne_nil, hlength]), writeGroup,
    Numeral.read?_write (by decide) (by decide), Option.map_some, UInt16.ofNat_toNat]

theorem writeGroups_cons_cons (g h : UInt16) (gs : List UInt16) :
    writeGroups (g :: h :: gs) = writeGroup g ++ ':' :: writeGroups (h :: gs) := by
  simp [writeGroups, List.intercalate_cons_cons]

theorem writeGroups_singleton (g : UInt16) : writeGroups [g] = writeGroup g := by
  simp [writeGroups]

theorem exists_writeGroups_eq_cons (g : UInt16) (gs : List UInt16) :
    ∃ c cs, writeGroups (g :: gs) = c :: cs ∧ c ≠ ':' := by
  obtain ⟨c, cs, hcs⟩ := List.exists_cons_of_ne_nil (writeGroup_ne_nil g)
  have hc : c ≠ ':' := by
    rintro rfl
    exact colon_notMem_writeGroup g (by simp [hcs])
  cases gs with
  | nil => exact ⟨c, cs, by rw [writeGroups_singleton, hcs], hc⟩
  | cons h gs => exact ⟨c, _, by rw [writeGroups_cons_cons, hcs]; rfl, hc⟩

theorem writeGroups_ne_nil {gs : List UInt16} (h : gs ≠ []) : writeGroups gs ≠ [] := by
  obtain ⟨g, gs, rfl⟩ := List.exists_cons_of_ne_nil h
  obtain ⟨c, cs, hcs, -⟩ := exists_writeGroups_eq_cons g gs
  simp [hcs]

theorem splitOn_writeGroups {gs : List UInt16} (h : gs ≠ []) :
    (writeGroups gs).splitOn ':' = gs.map writeGroup := by
  rw [writeGroups, List.splitOn_intercalate]
  · rintro _ hl
    obtain ⟨g, -, rfl⟩ := List.mem_map.1 hl
    exact colon_notMem_writeGroup g
  · simpa using h

theorem readFront?_writeGroups (gs : List UInt16) : readFront? (writeGroups gs) = some gs := by
  rcases eq_or_ne gs [] with rfl | h
  · rfl
  · rw [readFront?, if_neg (by simp [writeGroups_ne_nil h]), splitOn_writeGroups h,
      mapM_map_eq_some readGroup?_writeGroup]

theorem readBack?_writeGroups (gs : List UInt16) : readBack? (writeGroups gs) = some gs := by
  rcases List.eq_nil_or_concat' gs with rfl | ⟨gs, g, rfl⟩
  · rfl
  · have hne : gs ++ [g] ≠ [] := by simp
    simp [readBack?, writeGroups_ne_nil hne, splitOn_writeGroups hne,
      mapM_map_eq_some readGroup?_writeGroup, readLast?, readGroup?_writeGroup]

/-! ### The double colon -/

theorem splitDouble?_of_notMem {cs : List Char} (h : ':' ∉ cs) (rest : List Char) :
    splitDouble? (cs ++ rest) = (splitDouble? rest).map fun p ↦ (cs ++ p.1, p.2) := by
  induction cs with
  | nil => simp
  | cons c cs ih =>
    rw [List.mem_cons, not_or] at h
    rw [List.cons_append, splitDouble?.eq_2, ih h.2, Option.map_map]
    · rfl
    · rintro _ rfl
      exact absurd rfl h.1

/-- A colon that another character follows is no double colon. -/
theorem splitDouble?_single {c : Char} (h : c ≠ ':') (cs : List Char) :
    splitDouble? (':' :: c :: cs) = (splitDouble? (c :: cs)).map fun p ↦ (':' :: p.1, p.2) := by
  rw [splitDouble?.eq_2]
  intro _ _ hcs
  exact h (List.cons.inj hcs).1

/-- **The search for the double colon passes over groups.** -/
theorem splitDouble?_writeGroups (gs : List UInt16) (rest : List Char) :
    splitDouble? (writeGroups gs ++ rest) =
      (splitDouble? rest).map fun p ↦ (writeGroups gs ++ p.1, p.2) := by
  induction gs with
  | nil => simp [writeGroups]
  | cons g gs ih =>
    cases gs with
    | nil => rw [writeGroups_singleton, splitDouble?_of_notMem (colon_notMem_writeGroup g)]
    | cons h gs =>
      obtain ⟨c, cs, hcs, hc⟩ := exists_writeGroups_eq_cons h gs
      rw [writeGroups_cons_cons, List.append_assoc,
        splitDouble?_of_notMem (colon_notMem_writeGroup g), List.cons_append]
      rw [hcs, List.cons_append] at ih ⊢
      rw [splitDouble?_single hc, ih, Option.map_map, Option.map_map]
      congr 1
      funext p
      simp

theorem ofGroups?_groups (ip : Ipv6) : ofGroups? ip.groups = some ip := dif_pos ip.length_eq

/-- **An address is read back from its text.** -/
theorem read?_write (ip : Ipv6) : read? ip.write = some ip := by
  have hgroups := take_zeros_drop ip.groups
  have hlength := congrArg List.length hgroups
  rw [write]
  generalize longestZeros ip.groups = zeros at hgroups hlength
  obtain ⟨start, length⟩ := zeros
  dsimp only at hgroups hlength ⊢
  rw [ip.length_eq, List.length_append, List.length_append, List.length_replicate] at hlength
  split
  · next hfew =>
    rw [read?, ← List.append_nil (writeGroups ip.groups), splitDouble?_writeGroups]
    simp [splitDouble?, readBack?_writeGroups, ofGroups?_groups]
  · next hmany =>
    have hfits : (ip.groups.take start).length + (ip.groups.drop (start + length)).length ≤ 7 := by
      omega
    have hzeros : 8 - (ip.groups.take start).length - (ip.groups.drop (start + length)).length =
        length := by omega
    rw [read?, List.append_assoc, splitDouble?_writeGroups]
    simp only [List.cons_append, List.nil_append, splitDouble?, Option.map_some, List.append_nil,
      readFront?_writeGroups, readBack?_writeGroups, Option.bind_eq_bind, Option.bind_some]
    rw [if_pos hfits, hzeros, hgroups, ofGroups?_groups]

theorem mem_writeGroups {gs : List UInt16} {c : Char} (h : c ∈ writeGroups gs) :
    c = ':' ∨ ∃ d < 16, c = Numeral.digitChar d := by
  induction gs with
  | nil => simp [writeGroups] at h
  | cons g gs ih =>
    have hgroup (hc : c ∈ writeGroup g) : ∃ d < 16, c = Numeral.digitChar d :=
      Numeral.exists_digit_of_mem_write (by decide) hc
    cases gs with
    | nil => exact .inr (hgroup (writeGroups_singleton g ▸ h))
    | cons g' gs =>
      rw [writeGroups_cons_cons, List.mem_append, List.mem_cons] at h
      rcases h with h | h | h
      · exact .inr (hgroup h)
      · exact .inl h
      · exact ih h

/-- An address is written with colons and hexadecimal digits. -/
theorem mem_write {ip : Ipv6} {c : Char} (h : c ∈ ip.write) :
    c = ':' ∨ ∃ d < 16, c = Numeral.digitChar d := by
  rw [write] at h
  split at h
  split at h
  · exact mem_writeGroups h
  · simp only [List.mem_append, List.mem_cons, List.not_mem_nil, or_false, or_self] at h
    rcases h with (h | h) | h
    · exact mem_writeGroups h
    · exact .inl h
    · exact mem_writeGroups h

end Ipv6

/-! ### IPv4 addresses -/

namespace Ipv4

theorem write_eq (ip : Ipv4) :
    ip.write = Numeral.write 10 ip.a.toNat ++ '.' :: (Numeral.write 10 ip.b.toNat ++
      '.' :: (Numeral.write 10 ip.c.toNat ++ '.' :: Numeral.write 10 ip.d.toNat)) := by
  simp [write, List.intercalate_cons_cons]

/-- An address is written with dots and digits. -/
theorem mem_write {ip : Ipv4} {c : Char} (h : c ∈ ip.write) : c = '.' ∨ c.isDigit = true := by
  simp only [write_eq, List.mem_append, List.mem_cons] at h
  rcases h with h | h | h | h | h | h | h
  all_goals first | exact .inl h | exact .inr (Numeral.isDigit_of_mem_write h)

theorem exists_write_eq_cons (ip : Ipv4) : ∃ c cs, ip.write = c :: cs ∧ c.isDigit = true := by
  obtain ⟨c, cs, hcs⟩ := List.exists_cons_of_ne_nil (Numeral.write_ne_nil 10 ip.a.toNat)
  exact ⟨c, _, by rw [write_eq, hcs]; rfl, Numeral.isDigit_of_mem_write (hcs ▸ List.mem_cons_self)⟩

/-- An address is too long for a group of an IPv6 address. -/
theorem readGroup?_write (ip : Ipv4) : Ipv6.readGroup? ip.write = none := by
  have hpos (n : Nat) : 0 < (Numeral.write 10 n).length :=
    List.length_pos_of_ne_nil (Numeral.write_ne_nil 10 n)
  have ha := hpos ip.a.toNat
  have hb := hpos ip.b.toNat
  have hc := hpos ip.c.toNat
  have hd := hpos ip.d.toNat
  refine if_pos (.inr ?_)
  simp only [write_eq, List.length_append, List.length_cons]
  omega

end Ipv4

/-! ### IPv4 addresses within IPv6 addresses -/

namespace Ipv6

theorem group_bytes (g : UInt16) :
    group (UInt8.ofNat (g.toNat / 256)) (UInt8.ofNat g.toNat) = g := by
  have hg := g.toNat_lt
  rw [← UInt16.toNat_inj, group, UInt16.toNat_add, UInt16.toNat_mul, UInt8.toNat_toUInt16,
    UInt8.toNat_toUInt16, UInt8.toNat_ofNat', UInt8.toNat_ofNat']
  simp only [UInt16.reduceToNat]
  omega

theorem read?_mapped (ip : Ipv4) :
    read? ("::ffff:".toList ++ ip.write) =
      some ⟨[0, 0, 0, 0, 0, 0xFFFF, group ip.a ip.b, group ip.c ip.d], rfl⟩ := by
  have hcolon : ':' ∉ ip.write := fun h ↦ by
    rcases Ipv4.mem_write h with h | h <;> exact absurd h (by decide)
  have hfirst : readGroup? "ffff".toList = some 0xFFFF := by decide +kernel
  have hsplit : ("ffff:".toList ++ ip.write).splitOn ':' = ["ffff".toList, ip.write] := by
    show ("ffff".toList ++ ':' :: ip.write).splitOn ':' = _
    rw [List.splitOn_append_cons_self_of_not_mem (by decide), List.splitOn_eq_singleton hcolon]
  have hback : readBack? ("ffff:".toList ++ ip.write) =
      some [0xFFFF, group ip.a ip.b, group ip.c ip.d] := by
    rw [readBack?, if_neg (by simp), hsplit]
    simp only [List.dropLast, List.mapM_cons, List.mapM_nil, hfirst, List.getLast?_cons_cons,
      List.getLast?_singleton, Option.getD_some, readLast?, Ipv4.readGroup?_write,
      Ipv4.read?_write]
    rfl
  have hdouble : splitDouble? ("::ffff:".toList ++ ip.write) =
      some ([], "ffff:".toList ++ ip.write) := rfl
  rw [read?, hdouble]
  simp only [readFront?, hback]
  rfl

end Ipv6

/-! ### Socket addresses -/

namespace SocketAddress

theorem read?_writeIpv6 (ip : Ipv6) : Ipv6.read? (writeIpv6 ip) = some ip := by
  rw [writeIpv6]
  cases hinner : ip.mapped? with
  | none => exact Ipv6.read?_write ip
  | some inner =>
    rw [Ipv6.mapped?] at hinner
    split at hinner
    · next hi lo hgroups =>
      obtain rfl := Option.some.inj hinner
      obtain ⟨groups, hlength⟩ := ip
      dsimp only at hgroups ⊢
      subst hgroups
      rw [Ipv6.read?_mapped]
      simp only [Ipv6.group_bytes]
    · contradiction

theorem readBelow?_write {bound n : Nat} (h : n < bound) :
    readBelow? bound (Numeral.write 10 n) = some n := by
  rw [readBelow?, if_neg (by simp [Numeral.write_ne_nil]),
    Numeral.read?_write (by decide) (by decide)]
  simp [h]

theorem readPort?_write (port : UInt16) : readPort? (Numeral.write 10 port.toNat) = some port := by
  rw [readPort?, readBelow?_write port.toNat_lt, Option.map_some, UInt16.ofNat_toNat]

theorem readScope?_write (scope : UInt32) :
    readScope? (Numeral.write 10 scope.toNat) = some scope := by
  rw [readScope?, readBelow?_write scope.toNat_lt, Option.map_some, UInt32.ofNat_toNat]

/-- What is no digit does not stand in a number. -/
theorem notMem_write {c : Char} (h : c.isDigit = false) (n : Nat) : c ∉ Numeral.write 10 n :=
  fun hc ↦ by simp [Numeral.isDigit_of_mem_write hc] at h

/-- Neither the end of an IPv6 address nor the mark of a scope stands in it. -/
theorem notMem_writeIpv6 {c : Char} (h : c = ']' ∨ c = '%') (ip : Ipv6) : c ∉ writeIpv6 ip := by
  intro hc
  rw [writeIpv6] at hc
  split at hc
  · rcases List.mem_append.1 hc with hc | hc
    · rcases h with rfl | rfl <;> exact absurd hc (by decide)
    · rcases h with rfl | rfl <;> rcases Ipv4.mem_write hc with hc | hc <;>
        exact absurd hc (by decide)
  · have hall : ∀ d < 16, ']' ≠ Numeral.digitChar d ∧ '%' ≠ Numeral.digitChar d := by decide
    rcases Ipv6.mem_write hc with rfl | ⟨d, hd, rfl⟩
    · exact absurd h (by decide)
    · rcases h with h | h
      · exact (hall d hd).1 h.symm
      · exact (hall d hd).2 h.symm

theorem splitOn_inside (ip : Ipv6) (scope : UInt32) :
    (writeIpv6 ip ++ writeScope scope).splitOn '%' = writeIpv6 ip ::
      if scope = 0 then [] else [Numeral.write 10 scope.toNat] := by
  have hmark := notMem_writeIpv6 (.inr rfl) ip
  rw [writeScope]
  split
  · rw [List.append_nil, List.splitOn_eq_singleton hmark]
  · rw [List.splitOn_append_cons_self_of_not_mem hmark,
      List.splitOn_eq_singleton (notMem_write (by decide) _)]

theorem notMem_inside (ip : Ipv6) (scope : UInt32) : ']' ∉ writeIpv6 ip ++ writeScope scope := by
  rw [List.mem_append, not_or, writeScope]
  refine ⟨notMem_writeIpv6 (.inl rfl) ip, ?_⟩
  split
  · simp
  · simpa using notMem_write (by decide) scope.toNat

/-- **A socket address is read back from its text.** -/
theorem read?_write (a : SocketAddress) : read? a.write = some a := by
  cases a with
  | v4 ip port =>
    obtain ⟨c, cs, hcs, hc⟩ := ip.exists_write_eq_cons
    have hcolon : ':' ∉ ip.write := fun h ↦ by
      rcases Ipv4.mem_write h with h | h <;> exact absurd h (by decide)
    have hsplit : (v4 ip port).write.splitOn ':' = [ip.write, Numeral.write 10 port.toNat] := by
      rw [write, writePort, List.splitOn_append_cons_self_of_not_mem hcolon,
        List.splitOn_eq_singleton (notMem_write (by decide) _)]
    rw [read?.eq_def]
    split
    · next rest hrest =>
      rw [write, hcs] at hrest
      obtain ⟨rfl, -⟩ := List.cons.inj hrest
      exact absurd hc (by decide)
    · rw [hsplit]
      simp [Ipv4.read?_write, readPort?_write]
  | v6 ip scope port =>
    have hwrite : (v6 ip scope port).write =
        '[' :: (writeIpv6 ip ++ writeScope scope ++ ']' :: writePort port) := by
      simp [write]
    have hsplit : (writeIpv6 ip ++ writeScope scope ++ ']' :: writePort port).splitOn ']' =
        [writeIpv6 ip ++ writeScope scope, writePort port] := by
      rw [List.splitOn_append_cons_self_of_not_mem (notMem_inside ip scope), writePort,
        List.splitOn_eq_singleton]
      simpa using notMem_write (by decide) port.toNat
    rw [hwrite, read?.eq_1, hsplit, writePort]
    simp only [splitOn_inside]
    split_ifs with hscope
    · simp [read?_writeIpv6, readPort?_write, hscope]
    · simp [read?_writeIpv6, readPort?_write, readScope?_write]

end SocketAddress

end TracedFibonacci.Net
