import TracedFibonacci.Proofs.Idna.Ascii
import TracedFibonacci.Proofs.Net.Address
import TracedFibonacci.Proofs.Text.Percent
import TracedFibonacci.Url.Host

/-!
# Hosts are read back from their texts

A host that was read is in its normal form: a domain name is its own encoding, and it does not look
like an IPv4 address. So its text means a domain name again, and the same one. The text of an IPv4
address is at first a domain name as well, of four labels of digits, and only then seen to end in a
number; it is one of the many spellings of that address, the one with four parts in decimal.
-/

namespace TracedFibonacci.Url.Host

open Text Net Idna

/-- A host in its normal form. -/
def IsNormal : Host → Prop
  | .domain name => toAscii? name = some name ∧ name ≠ [] ∧ endsInNumber name = false
  | .ipv4 _ | .ipv6 _ => True

/-- **A host that was read is in its normal form.** -/
theorem isNormal_of_read {cs : List Char} {host : Host} (h : read cs = .ok host) :
    host.IsNormal := by
  rw [read.eq_def] at h
  split at h
  · -- in brackets there is nothing but an IPv6 address
    repeat' split at h
    · cases h
      trivial
    all_goals cases h
  · split at h
    · cases h
    split at h
    · cases h
    · next name hname =>
      split at h
      · cases h
      · next hne =>
        split at h
        · split at h <;> cases h
          trivial
        · next hnumber =>
          cases h
          exact ⟨toAscii?_toAscii? hname, by simpa using hne, by simpa using hnumber⟩

/-! ### The characters of a host -/

/-- The characters of hosts: visible ASCII that neither ends a host nor stands between it and the
user. -/
def IsHostChar (c : Char) : Prop := isVisible c = true ∧ c ∉ "#/?@\\".toList

instance : DecidablePred IsHostChar := fun _ ↦ inferInstanceAs (Decidable (_ ∧ _))

instance : DecidablePred IsPlainAscii := fun _ ↦ inferInstanceAs (Decidable (_ ∧ _ ∧ _))

theorem isHostChar_of_isPlainAscii {c : Char} (h : IsPlainAscii c) :
    IsHostChar c ∧ c ∉ "%:[]".toList :=
  forall_ascii (p := fun c ↦ IsPlainAscii c → IsHostChar c ∧ c ∉ "%:[]".toList)
    (by decide +kernel) h.1 h

theorem isPlainAscii_of_isDigit {c : Char} (h : c.isDigit = true) : IsPlainAscii c ∧ c ≠ '.' := by
  have hlt : c.toNat < 128 := by
    simp only [Char.isDigit, Bool.and_eq_true, decide_eq_true_eq, UInt32.le_iff_toNat_le] at h
    exact Nat.lt_of_le_of_lt h.2 (by decide)
  exact forall_ascii (p := fun c ↦ c.isDigit = true → IsPlainAscii c ∧ c ≠ '.')
    (by decide +kernel) hlt h

theorem isPlainAscii_of_mem_ipv4 {ip : Ipv4} {c : Char} (h : c ∈ ip.write) : IsPlainAscii c := by
  rcases Ipv4.mem_write h with rfl | h
  · decide
  · exact (isPlainAscii_of_isDigit h).1

theorem isHostChar_of_mem_write {host : Host} (h : host.IsNormal) {c : Char}
    (hc : c ∈ host.write) : IsHostChar c := by
  cases host with
  | domain name => exact (isHostChar_of_isPlainAscii (isPlainAscii_of_toAscii? h.1 c hc)).1
  | ipv4 ip => exact (isHostChar_of_isPlainAscii (isPlainAscii_of_mem_ipv4 hc)).1
  | ipv6 ip =>
    have hdigit : ∀ d < 16, IsHostChar (Numeral.digitChar d) := by decide +kernel
    simp only [write, List.mem_append, List.mem_singleton] at hc
    rcases hc with (rfl | hc) | rfl
    · decide
    · rcases Ipv6.mem_write hc with rfl | ⟨d, hd, rfl⟩
      · decide
      · exact hdigit d hd
    · decide

theorem write_ne_nil {host : Host} (h : host.IsNormal) : host.write ≠ [] := by
  cases host with
  | domain name => exact h.2.1
  | ipv4 ip =>
    obtain ⟨c, cs, hcs, -⟩ := ip.exists_write_eq_cons
    simp [write, hcs]
  | ipv6 ip => simp [write]

/-! ### Names -/

/-- A name in plain ASCII that is its own encoding is first taken for a domain name. -/
theorem read_of_plain {name : List Char} (hascii : toAscii? name = some name) (hne : name ≠ []) :
    (endsInNumber name = false → read name = .ok (.domain name)) ∧
    ∀ ip, endsInNumber name = true → ((parts name).mapM partValue?).bind ipv4OfParts? = some ip →
      read name = .ok (.ipv4 ip) := by
  have hplain := isPlainAscii_of_toAscii? hascii
  have hpercent : '%' ∉ name := fun h ↦
    (isHostChar_of_isPlainAscii (hplain '%' h)).2 (by decide)
  have hbracket : ∀ rest, name ≠ '[' :: rest := by
    rintro rest rfl
    exact (isHostChar_of_isPlainAscii (hplain '[' List.mem_cons_self)).2 (by decide)
  rw [read.eq_2 name fun rest h ↦ hbracket rest h, decode_percentDecode hpercent]
  simp only [String.toList_ofList, hascii, List.isEmpty_iff, hne, if_false]
  refine ⟨fun hnumber ↦ ?_, fun ip hnumber hip ↦ ?_⟩
  · rw [if_neg (by simp [hnumber])]
  · rw [if_pos hnumber, hip]

/-! ### IPv4 addresses -/

theorem isMarked_of_isDigit {label : List Char} (h : ∀ c ∈ label, c.isDigit = true) :
    isMarked label = false := by
  cases label with
  | nil => rfl
  | cons c label =>
    have hc : 'x' ≠ c := by
      rintro rfl
      exact absurd (h 'x' List.mem_cons_self) (by decide)
    simp [isMarked, marker, List.isPrefixOf, hc]

theorem toAscii?_ipv4 (ip : Ipv4) : toAscii? ip.write = some ip.write := by
  rw [Ipv4.write]
  refine toAscii?_intercalate (by simp) (labelsFit_of_plain ?_)
  intro label hlabel
  obtain ⟨x, -, rfl⟩ := List.mem_map.1 hlabel
  have hdigit : ∀ c ∈ Numeral.write 10 x.toNat, c.isDigit = true :=
    fun _ ↦ Numeral.isDigit_of_mem_write
  exact ⟨fun c hc ↦ isPlainAscii_of_isDigit (hdigit c hc), isMarked_of_isDigit hdigit⟩

/-- A number is the value of its decimal digits, since no zero stands in front of them. -/
theorem partValue?_write (n : Nat) : partValue? (Numeral.write 10 n) = some n := by
  have hread : Numeral.read? 10 (Numeral.write 10 n) = some n :=
    Numeral.read?_write (by decide) (by decide) n
  -- zero alone begins with the mark of another base, and behind it there is nothing
  rcases Nat.eq_zero_or_pos n with rfl | hn
  · rw [Numeral.write_zero] at hread ⊢
    exact hread
  · obtain ⟨c, cs, hcs, hc⟩ := Numeral.exists_write_eq_cons hn
    rw [hcs] at hread ⊢
    rw [partValue?.eq_def]
    split <;> simp_all

/-- The bytes of an address. -/
def bytes (ip : Ipv4) : List Nat := [ip.a.toNat, ip.b.toNat, ip.c.toNat, ip.d.toNat]

theorem parts_ipv4 (ip : Ipv4) : parts ip.write = (bytes ip).map (Numeral.write 10) := by
  have hsplit : ip.write.splitOn '.' = (bytes ip).map (Numeral.write 10) := by
    rw [Ipv4.write]
    refine List.splitOn_intercalate _ (fun label hlabel ↦ ?_) (by simp)
    obtain ⟨x, -, rfl⟩ := List.mem_map.1 hlabel
    exact Ipv4.dot_notMem_write x
  rw [parts, hsplit]
  exact if_neg (by simp [bytes, Numeral.write_ne_nil])

theorem endsInNumber_ipv4 (ip : Ipv4) : endsInNumber ip.write = true := by
  rw [endsInNumber, parts_ipv4]
  simp [bytes, partValue?_write]

theorem ipv4OfParts?_bytes (ip : Ipv4) : ipv4OfParts? (bytes ip) = some ip := by
  obtain ⟨a, b, c, d⟩ := ip
  have ha := a.toNat_lt
  have hb := b.toNat_lt
  have hc := c.toNat_lt
  have hd := d.toNat_lt
  have hnumber : Ipv4.ofNat (((a.toNat * 256 + b.toNat) * 256 + c.toNat) <<< 8 + d.toNat) =
      ⟨a, b, c, d⟩ := by
    simp only [Ipv4.ofNat, Nat.shiftLeft_eq, Nat.shiftRight_eq_div_pow, Ipv4.mk.injEq,
      ← UInt8.toNat_inj, UInt8.toNat_ofNat']
    omega
  simp [ipv4OfParts?, bytes, Numeral.ofDigits, hnumber, ha, hb, hc, hd]

theorem read_ipv4 (ip : Ipv4) : read ip.write = .ok (.ipv4 ip) := by
  obtain ⟨c, cs, hcs, -⟩ := ip.exists_write_eq_cons
  refine (read_of_plain (toAscii?_ipv4 ip) (by simp [hcs])).2 ip (endsInNumber_ipv4 ip) ?_
  rw [parts_ipv4, mapM_map_eq_some partValue?_write, Option.bind_some, ipv4OfParts?_bytes]

/-- **A host in its normal form is read back from its text.** -/
theorem read_write {host : Host} (h : host.IsNormal) : read host.write = .ok host := by
  cases host with
  | domain name => exact (read_of_plain h.1 h.2.1).1 h.2.2
  | ipv4 ip => exact read_ipv4 ip
  | ipv6 ip =>
    rw [write, List.append_assoc, List.singleton_append, read, if_pos (by simp),
      List.dropLast_concat, Ipv6.read?_write]

end TracedFibonacci.Url.Host
