import TracedFibonacci.Proofs.Text.Blank
import TracedFibonacci.Proofs.Url.Host
import TracedFibonacci.Proofs.Url.Path
import TracedFibonacci.Url.WebUrl

/-!
# URLs of the web are read back from their texts

Reading a URL brings it to a normal form, in which every part is encoded for its place, the host and
the path are in their own normal forms, and the port is not the default one. The normal form is all
that the way back needs (`WebUrl.read_write`), and what reading gives has it (`isNormal_of_read`).

A URL is taken apart at marks, and each cut must find the mark that was written and no other. For
each part the encoding has seen to that: no mark that ends a part can stand in it. The exception is
the host, in which nothing is encoded; a domain name holds none of the marks, and an IPv6 address,
which is full of colons, stands in brackets.
-/

namespace TracedFibonacci.Url

open Text Net

/-! ### Cutting at a mark -/

theorem cut?_append {p : Char → Bool} {before rest : List Char} {c : Char}
    (h : ∀ d ∈ before, p d = false) (hc : p c = true) :
    cut? p (before ++ c :: rest) = some (before, rest) := by
  have hbefore : ∀ d ∈ before, (!p d) = true := fun d hd ↦ by rw [h d hd]; rfl
  rw [cut?, List.dropWhile_append_of_pos hbefore, List.takeWhile_append_of_pos hbefore]
  simp [hc]

theorem cut?_eq_none {p : Char → Bool} {cs : List Char} (h : ∀ d ∈ cs, p d = false) :
    cut? p cs = none := by
  have hcs : cs.dropWhile (!p ·) = [] := by simpa [dropWhile_eq_nil_iff_all] using h
  rw [cut?, hcs]

theorem beq_of_notMem {mark : Char} {cs : List Char} (h : mark ∉ cs) :
    ∀ d ∈ cs, (d == mark) = false :=
  fun _ hd ↦ beq_eq_false_iff_ne.2 (ne_of_mem_of_not_mem hd h)

/-- A part is found behind its mark, if there is one. -/
theorem cutPart_append {mark : Char} {before : List Char} (h : mark ∉ before)
    (part? : Option (List Char)) :
    cutPart mark (before ++ WebUrl.writePart mark part?) = (before, part?) := by
  cases part? with
  | none => rw [WebUrl.writePart, List.append_nil, cutPart, cut?_eq_none (beq_of_notMem h)]
  | some part => rw [WebUrl.writePart, cutPart, cut?_append (beq_of_notMem h) (by simp)]

theorem cutUser_of_notMem {cs : List Char} (h : '@' ∉ cs) : cutUser cs = ([], cs) := by
  rw [cutUser, cut?_eq_none (beq_of_notMem (mt List.mem_reverse.1 h))]

theorem cutUser_append {user cs : List Char} (h : '@' ∉ cs) :
    cutUser (user ++ '@' :: cs) = (user, cs) := by
  have hreverse : (user ++ '@' :: cs).reverse = cs.reverse ++ '@' :: user.reverse := by simp
  rw [cutUser, hreverse, cut?_append (beq_of_notMem (mt List.mem_reverse.1 h)) (by decide)]
  simp

/-! ### The host and the port -/

theorem cutPort_outside {cs : List Char} (h : ∀ c ∈ cs, c ≠ ':' ∧ c ≠ '[') (rest : List Char) :
    cutPort false (cs ++ rest) = (cs ++ (cutPort false rest).1, (cutPort false rest).2) := by
  induction cs with
  | nil => rfl
  | cons c cs ih =>
    obtain ⟨hc, hcs⟩ := List.forall_mem_cons.1 h
    simp [cutPort, hc.1, hc.2, ih hcs]

theorem cutPort_inside {cs : List Char} (h : ']' ∉ cs) (rest : List Char) :
    cutPort true (cs ++ ']' :: rest) =
      (cs ++ ']' :: (cutPort false rest).1, (cutPort false rest).2) := by
  induction cs with
  | nil => simp [cutPort]
  | cons c cs ih =>
    obtain ⟨hc, hcs⟩ := not_or.1 (List.mem_cons.not.1 h)
    have hend : (c != ']') = true := bne_iff_ne.2 (Ne.symm hc)
    simp [cutPort, hend, ih hcs]

/-- Cutting off the port leaves a whole host. -/
theorem cutPort_write {host : Host} (h : host.IsNormal) (port? : Option (List Char)) :
    cutPort false (host.write ++ WebUrl.writePart ':' port?) = (host.write, port?) := by
  have hport : cutPort false (WebUrl.writePart ':' port?) = ([], port?) := by
    cases port? <;> simp [WebUrl.writePart, cutPort]
  have hplain {name : List Char} (hname : ∀ c ∈ name, Idna.IsPlainAscii c) :
      ∀ c ∈ name, c ≠ ':' ∧ c ≠ '[' := by
    intro c hc
    have hmark := (Host.isHostChar_of_isPlainAscii (hname c hc)).2
    exact ⟨fun h ↦ hmark (h ▸ by decide), fun h ↦ hmark (h ▸ by decide)⟩
  cases host with
  | domain name =>
    rw [Host.write, cutPort_outside (hplain (Idna.isPlainAscii_of_toAscii? h.1)), hport]
    simp
  | ipv4 ip =>
    rw [Host.write, cutPort_outside (hplain fun _ ↦ Host.isPlainAscii_of_mem_ipv4), hport]
    simp
  | ipv6 ip =>
    -- its colons are inside the brackets, and nothing in it closes them
    have hbracket : ']' ∉ ip.write := by
      have hdigit : ∀ d < 16, ']' ≠ Numeral.digitChar d := by decide
      intro hmem
      rcases Ipv6.mem_write hmem with h | ⟨d, hd, h⟩
      · exact absurd h (by decide)
      · exact hdigit d hd h
    simp [Host.write, cutPort, cutPort_inside hbracket, hport]

theorem readPort_write {secure : Bool} {port? : Option UInt16}
    (h : port? ≠ some (WebUrl.defaultPort secure)) :
    readPort (some (WebUrl.defaultPort secure))
      ((port?.map fun p ↦ Numeral.write 10 p.toNat).getD []) = .ok port? := by
  cases port? with
  | none => rfl
  | some p =>
    have hp : ¬65535 < p.toNat := Nat.not_lt.2 (Nat.le_of_lt_succ p.toNat_lt)
    have hdefault : WebUrl.defaultPort secure ≠ p := fun hd ↦ h (congrArg some hd.symm)
    rw [Option.map_some, Option.getD_some, readPort, Numeral.read?_write (by decide) (by decide)]
    simp [hp, hdefault, Numeral.write_ne_nil]

namespace WebUrl

/-! ### Normal forms -/

/-- A URL in its normal form. -/
structure IsNormal (u : WebUrl) : Prop where
  /-- The user name is encoded. -/
  username : IsEncoded userReserved u.username
  /-- The password is encoded. -/
  password : IsEncoded userReserved u.password
  /-- The host is in its normal form. -/
  host : u.host.IsNormal
  /-- The port is not the one that is meant without any. -/
  port : u.port? ≠ some (defaultPort u.secure)
  /-- The path is in its normal form. -/
  path : u.path.IsNormal
  /-- The query is encoded. -/
  query : ∀ q, u.query? = some q → IsEncoded queryReserved q
  /-- The fragment is encoded. -/
  fragment : ∀ f, u.fragment? = some f → IsEncoded fragmentReserved f

end WebUrl

theorem ne_of_readPort {default : UInt16} {cs : List Char} {port? : Option UInt16}
    (h : readPort (some default) cs = .ok port?) : port? ≠ some default := by
  rw [readPort] at h
  repeat' split at h
  · cases h
  · cases h
  · cases h
    simp
  · next hport =>
    cases h
    rw [not_or] at hport
    exact fun hdefault ↦ hport.2 hdefault.symm

theorem isNormal_of_readWeb {secure : Bool} {cs : List Char} {u : WebUrl}
    (h : readWeb secure cs = .ok u) : u.IsNormal := by
  have huser : Spared userReserved := by decide +kernel
  simp only [readWeb, bind, Except.bind, pure, Except.pure] at h
  split at h
  · cases h
  split at h
  · cases h
  next host hhost =>
  split at h
  · cases h
  next port? hport =>
  cases h
  refine ⟨isEncoded_percentEncode huser _, isEncoded_percentEncode huser _,
    Host.isNormal_of_read hhost, ne_of_readPort hport, Path.isNormal_read _, ?_, ?_⟩
  · intro q hq
    obtain ⟨part, -, rfl⟩ := Option.map_eq_some_iff.1 hq
    exact isEncoded_percentEncode (by decide +kernel) part
  · intro f hf
    obtain ⟨part, -, rfl⟩ := Option.map_eq_some_iff.1 hf
    exact isEncoded_percentEncode (by decide +kernel) part

theorem exists_of_map_eq_ok {α β : Type} {f : α → β} {x : Except Fault α} {b : β}
    (h : x.map f = .ok b) : ∃ a, x = .ok a ∧ f a = b := by
  cases x with
  | error e => cases h
  | ok a => exact ⟨a, rfl, Except.ok.inj h⟩

theorem exists_readWeb_of_read {cs : List Char} {u : WebUrl} (h : read cs = .ok (.web u)) :
    ∃ secure rest, readWeb secure rest = .ok u := by
  rw [read.eq_def] at h
  split at h
  · cases h
  · next scheme rest _ =>
    dsimp only at h
    split at h
    · obtain ⟨_, hweb, ⟨⟩⟩ := exists_of_map_eq_ok h
      exact ⟨false, rest, hweb⟩
    split at h
    · obtain ⟨_, hweb, ⟨⟩⟩ := exists_of_map_eq_ok h
      exact ⟨true, rest, hweb⟩
    · obtain ⟨_, -, ⟨⟩⟩ := exists_of_map_eq_ok h

/-- **A URL that was read is in its normal form.** -/
theorem isNormal_of_read {cs : List Char} {u : WebUrl} (h : read cs = .ok (.web u)) :
    u.IsNormal := by
  obtain ⟨_, _, h⟩ := exists_readWeb_of_read h
  exact isNormal_of_readWeb h

namespace WebUrl

/-! ### The parts of a text -/

/-- What stands in front of the at-sign. -/
def user (u : WebUrl) : List Char :=
  u.username ++ writePart ':' (if u.password = [] then none else some u.password)

/-- The host and the port. -/
def hostAndPort (u : WebUrl) : List Char :=
  u.host.write ++ writePart ':' (u.port?.map fun p ↦ Numeral.write 10 p.toNat)

/-- What stands before the path. -/
def authority (u : WebUrl) : List Char := writeUser u.username u.password ++ u.hostAndPort

/-- The path and what follows it. -/
def tail (u : WebUrl) : List Char :=
  u.path.write ++ writePart '?' u.query? ++ writePart '#' u.fragment?

theorem write_eq (u : WebUrl) : u.write = writeScheme u.secure ++ (u.authority ++ u.tail) := by
  simp [write, authority, hostAndPort, tail]

theorem writeUser_eq (u : WebUrl) :
    writeUser u.username u.password = if u.user = [] then [] else u.user ++ ['@'] := by
  cases hname : u.username <;> cases hpassword : u.password <;>
    simp [writeUser, user, writePart, hname, hpassword]

theorem mem_writePart {mark c : Char} {part? : Option (List Char)} (h : c ∈ writePart mark part?) :
    c = mark ∨ ∃ part, part? = some part ∧ c ∈ part := by
  cases part? with
  | none => exact absurd h List.not_mem_nil
  | some part => exact (List.mem_cons.1 h).imp_right fun hc ↦ ⟨part, rfl, hc⟩

theorem endsAuthority_eq_false {marks : List Char} {c : Char}
    (hmarks : '/' ∈ marks ∧ '\\' ∈ marks ∧ '?' ∈ marks ∧ '#' ∈ marks) (h : c ∉ marks) :
    endsAuthority c = false := by
  obtain ⟨hslash, hbackslash, hquery, hfragment⟩ := hmarks
  refine Bool.eq_false_iff.2 fun hend ↦ h ?_
  simp only [endsAuthority, Bool.or_eq_true, beq_iff_eq] at hend
  rcases hend with ((rfl | rfl) | rfl) | rfl <;> assumption

section Normal

variable {u : WebUrl} (h : u.IsNormal) {c : Char}

include h

/-- The host and the port hold no mark that could end them. -/
theorem isHostChar_of_mem_hostAndPort (hc : c ∈ u.hostAndPort) : Host.IsHostChar c := by
  rcases List.mem_append.1 hc with hc | hc
  · exact Host.isHostChar_of_mem_write h.host hc
  · rcases mem_writePart hc with rfl | ⟨digits, hdigits, hc⟩
    · decide
    · obtain ⟨p, -, rfl⟩ := Option.map_eq_some_iff.1 hdigits
      have hdigit := Host.isPlainAscii_of_isDigit (Numeral.isDigit_of_mem_write hc)
      exact (Host.isHostChar_of_isPlainAscii hdigit.1).1

theorem of_mem_user (hc : c ∈ u.user) : isVisible c = true ∧ endsAuthority c = false := by
  have hfree {cs : List Char} (hcs : IsEncoded userReserved cs) (hc : c ∈ cs) :
      isVisible c = true ∧ endsAuthority c = false :=
    (hcs c hc).imp_right (endsAuthority_eq_false (by decide))
  rcases List.mem_append.1 hc with hc | hc
  · exact hfree h.username hc
  · rcases mem_writePart hc with rfl | ⟨password, hpassword, hc⟩
    · decide
    · split at hpassword
      · cases hpassword
      · cases hpassword
        exact hfree h.password hc

theorem of_mem_authority (hc : c ∈ u.authority) :
    isVisible c = true ∧ endsAuthority c = false := by
  rw [authority, writeUser_eq, List.mem_append] at hc
  rcases hc with hc | hc
  · split at hc
    · exact absurd hc List.not_mem_nil
    · rcases List.mem_append.1 hc with hc | hc
      · exact of_mem_user h hc
      · obtain rfl := List.mem_singleton.1 hc
        decide
  · exact (isHostChar_of_mem_hostAndPort h hc).imp_right (endsAuthority_eq_false (by decide))

theorem visible_of_mem_tail (hc : c ∈ u.tail) : isVisible c = true := by
  rw [tail, List.mem_append, List.mem_append] at hc
  rcases hc with (hc | hc) | hc
  · exact (Path.visible_of_mem_write h.path hc).1
  · rcases mem_writePart hc with rfl | ⟨query, hquery, hc⟩
    · decide
    · exact (h.query query hquery c hc).1
  · rcases mem_writePart hc with rfl | ⟨fragment, hfragment, hc⟩
    · decide
    · exact (h.fragment fragment hfragment c hc).1

/-- The text of a URL is visible ASCII. -/
theorem visible_of_mem_write (hc : c ∈ u.write) : isVisible c = true := by
  have hscheme : ∀ secure, (writeScheme secure).all isVisible = true := by decide
  rw [write_eq, List.mem_append, List.mem_append] at hc
  rcases hc with hc | hc | hc
  · exact List.all_eq_true.1 (hscheme u.secure) c hc
  · exact (of_mem_authority h hc).1
  · exact visible_of_mem_tail h hc

/-! ### Taking a text apart -/

theorem cutPart_user :
    cutPart ':' u.user = (u.username, if u.password = [] then none else some u.password) := by
  refine cutPart_append (fun hmem ↦ ?_) _
  exact (h.username _ hmem).2 (by decide)

theorem cutUser_authority : cutUser u.authority = (u.user, u.hostAndPort) := by
  have hat : '@' ∉ u.hostAndPort := fun hmem ↦
    (isHostChar_of_mem_hostAndPort h hmem).2 (by decide)
  rw [authority, writeUser_eq]
  split
  · next huser => rw [huser, List.nil_append, cutUser_of_notMem hat]
  · rw [List.append_assoc, List.singleton_append, cutUser_append hat]

theorem authority_ne_nil : u.authority ≠ [] := by
  simp [authority, hostAndPort, Host.write_ne_nil h.host]

theorem exists_tail_eq_cons : ∃ cs, u.tail = '/' :: cs := by
  obtain ⟨s, path, hpath⟩ := List.exists_cons_of_ne_nil h.path.1
  exact ⟨_, by rw [tail, hpath, Path.write_cons]; rfl⟩

/-- The slashes behind the scheme are no part of the authority, and the authority ends where the
path begins. -/
theorem cut_authority :
    ("//".toList ++ (u.authority ++ u.tail)).dropWhile Path.isSeparator = u.authority ++ u.tail ∧
      (u.authority ++ u.tail).takeWhile (!endsAuthority ·) = u.authority ∧
      (u.authority ++ u.tail).dropWhile (!endsAuthority ·) = u.tail := by
  have hall : ∀ c ∈ u.authority, (!endsAuthority c) = true :=
    fun c hc ↦ by rw [(of_mem_authority h hc).2]; rfl
  have hslash : endsAuthority '/' = true := by decide
  obtain ⟨cs, hcs⟩ := exists_tail_eq_cons h
  refine ⟨?_, ?_, ?_⟩
  · obtain ⟨c, rest, hrest⟩ := List.exists_cons_of_ne_nil (authority_ne_nil h)
    have hc : Path.isSeparator c = false := by
      have hend := (of_mem_authority h (hrest ▸ List.mem_cons_self)).2
      simp only [endsAuthority, Path.isSeparator, Bool.or_eq_false_iff] at hend ⊢
      exact hend.1.1
    rw [hrest]
    simp [hc, show Path.isSeparator '/' = true by decide]
  · rw [List.takeWhile_append_of_pos hall, hcs]
    simp [hslash]
  · rw [List.dropWhile_append_of_pos hall, hcs]
    simp [hslash]

/-- The fragment comes off the end first, and then the query. -/
theorem cut_tail :
    cutPart '#' u.tail = (u.path.write ++ writePart '?' u.query?, u.fragment?) ∧
      cutPart '?' (u.path.write ++ writePart '?' u.query?) = (u.path.write, u.query?) := by
  have hpath {c : Char} (hc : c ∈ pathReserved) : c ∉ u.path.write :=
    fun hmem ↦ (Path.visible_of_mem_write h.path hmem).2 hc
  have hquery : '#' ∉ writePart '?' u.query? := by
    intro hmem
    rcases mem_writePart hmem with heq | ⟨query, hquery, hc⟩
    · exact absurd heq (by decide)
    · exact (h.query query hquery '#' hc).2 (by decide)
  refine ⟨cutPart_append ?_ _, cutPart_append (hpath (by decide)) _⟩
  exact List.mem_append.not.2 (not_or.2 ⟨hpath (by decide), hquery⟩)

end Normal

/-! ### Reading a text back -/

theorem readWeb_write {u : WebUrl} (h : u.IsNormal) :
    readWeb u.secure ("//".toList ++ (u.authority ++ u.tail)) = .ok u := by
  obtain ⟨hslashes, hauthority, htail⟩ := cut_authority h
  obtain ⟨hfragment, hquery⟩ := cut_tail h
  have hport := cutPort_write h.host (u.port?.map fun p ↦ Numeral.write 10 p.toNat)
  have hpassword : (if u.password = [] then none else some u.password).getD [] = u.password := by
    split <;> simp_all
  have hparts {reserved : List Char} {part? : Option (List Char)}
      (hall : ∀ part, part? = some part → IsEncoded reserved part) :
      part?.map (percentEncode reserved) = part? := by
    cases part? with
    | none => rfl
    | some part => rw [Option.map_some, (hall part rfl).percentEncode_eq]
  -- each cut is made of what the one before has left
  rw [readWeb, hslashes, hauthority, htail, cutUser_authority h]
  dsimp only
  rw [hostAndPort, hport, hfragment]
  dsimp only
  rw [hquery, cutPart_user h]
  dsimp only
  rw [if_neg (by simpa using Host.write_ne_nil h.host), Host.read_write h.host,
    readPort_write h.port, h.username.percentEncode_eq, hpassword, h.password.percentEncode_eq,
    Path.read_write h.path, hparts h.query, hparts h.fragment]
  rfl

/-- From visible ASCII nothing is taken away. -/
theorem clean_of_visible {cs : List Char} (h : ∀ c ∈ cs, isVisible c = true) : clean cs = cs := by
  have hedge : ∀ c ∈ cs, decide (c.toNat ≤ 0x20) = false := by
    intro c hc
    have hvisible := h c hc
    simp only [isVisible, Bool.and_eq_true, decide_eq_true_eq] at hvisible
    exact decide_eq_false (by omega)
  have hkeep : cs.filter (fun c ↦ !(c == '\t' || c == '\n' || c == '\r')) = cs := by
    refine List.filter_eq_self.2 fun c hc ↦ ?_
    have hvisible := h c hc
    by_contra hend
    simp only [Bool.not_eq_true, Bool.not_eq_false', Bool.or_eq_true, beq_iff_eq] at hend
    rcases hend with (rfl | rfl) | rfl <;> exact absurd hvisible (by decide)
  rw [clean, hkeep]
  exact strip_eq_self hedge

theorem cutScheme?_write (secure : Bool) (rest : List Char) :
    cutScheme? (writeScheme secure ++ rest) =
      some ((if secure then "https" else "http").toList, "//".toList ++ rest) := by
  cases secure <;> rfl

/-- **A URL in its normal form is read back from its text.** -/
theorem read_write {u : WebUrl} (h : u.IsNormal) : read u.write = .ok (.web u) := by
  have hread := readWeb_write h
  rw [read.eq_def, clean_of_visible fun _ ↦ visible_of_mem_write h, write_eq, cutScheme?_write]
  cases hsecure : u.secure <;> rw [hsecure] at hread
  · simp only [Bool.false_eq_true, if_false, String.ofList_toList, if_true, hread]
    rfl
  · simp only [if_true, String.ofList_toList, hread]
    rfl

end WebUrl

end TracedFibonacci.Url
