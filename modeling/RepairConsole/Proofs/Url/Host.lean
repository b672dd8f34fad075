import Mathlib.Algebra.Group.Nat.Defs
import RepairConsole.Proofs.Url.Host.IPv6
import RepairConsole.Proofs.Url.Host.Label
import RepairConsole.Proofs.Url.Percent
import RepairConsole.Url.Address
/-!
# Reading a host again

Whatever the spelling a host was read from, what is printed for it is read as the same host.
-/

namespace RepairConsole.Url

/-! ## ASCII -/

theorem forall_ascii {P : Char → Prop} (h : ∀ n < 128, P (Char.ofNat n)) {c : Char}
    (hc : c.toNat < 128) : P c := by
  have hP := h c.toNat hc
  rwa [Char.ofNat_toNat] at hP

theorem imp_of_ascii {P Q : Char → Prop} {c : Char} (h : P c) (hc : c.toNat < 128)
    (hall : ∀ n < 128, P (Char.ofNat n) → Q (Char.ofNat n)) : Q c :=
  forall_ascii (P := fun c => P c → Q c) hall hc h

theorem utf8_of_ascii {cs : List Char} (h : ∀ c ∈ cs, c.toNat < 128) :
    utf8 cs = cs.map fun c => UInt8.ofNat c.toNat := by
  have hone : ∀ n < 128, utf8 [Char.ofNat n] = [UInt8.ofNat (Char.ofNat n).toNat] := by
    decide +kernel
  induction cs with
  | nil => rfl
  | cons c cs ih =>
    obtain ⟨hc, hcs⟩ := List.forall_mem_cons.1 h
    have hchar := forall_ascii (P := fun c => utf8 [c] = [UInt8.ofNat c.toNat]) hone hc
    rw [← List.singleton_append, utf8_append, hchar, ih hcs]
    rfl

theorem decode_of_plain {bytes : List UInt8} (h : ∀ b ∈ bytes, b ≠ 0x25) :
    decode bytes = bytes := by
  induction bytes with
  | nil => rfl
  | cons b bytes ih =>
    obtain ⟨hb, hbytes⟩ := List.forall_mem_cons.1 h
    rw [decode_cons hb, ih hbytes]

namespace Host

/-! ## Names -/

/-- A character of a name: one of ASCII that is no mark of a URL, in lower case. -/
structure InName (c : Char) : Prop where
  ascii : c.toNat < 128
  allowed : isForbidden c = false
  lower : c.toLower = c

instance (c : Char) : Decidable (InName c) :=
  decidable_of_iff (c.toNat < 128 ∧ isForbidden c = false ∧ c.toLower = c)
    ⟨fun h => ⟨h.1, h.2.1, h.2.2⟩, fun h => ⟨h.1, h.2, h.3⟩⟩

theorem inName_iff {c : Char} (hascii : c.toNat < 128) : InName c ↔ mayStand c = true :=
  forall_ascii (P := fun c => InName c ↔ mayStand c = true) (by decide +kernel) hascii

/-- A name that can stand for a host. -/
structure IsName (cs : List Char) : Prop where
  chars : ∀ c ∈ cs, InName c
  sound : Label.areSound (cs.splitOn '.') = true

theorem InName.byte {c : Char} (h : InName c) :
    UInt8.ofNat c.toNat < 0x80 ∧ UInt8.ofNat c.toNat ≠ 0x25 ∧
      (Char.ofNat (UInt8.ofNat c.toNat).toNat).toLower = c :=
  imp_of_ascii (Q := fun c => UInt8.ofNat c.toNat < 0x80 ∧ UInt8.ofNat c.toNat ≠ 0x25 ∧
    (Char.ofNat (UInt8.ofNat c.toNat).toNat).toLower = c) h h.ascii (by decide +kernel)

theorem IsName.characters?_eq {cs : List Char} (h : IsName cs) :
    characters? (decode (utf8 cs)) = some cs := by
  have hbytes : decode (utf8 cs) = cs.map fun c => UInt8.ofNat c.toNat := by
    rw [utf8_of_ascii fun c hc => (h.chars c hc).ascii]
    exact decode_of_plain (List.forall_mem_map.2 fun c hc => (h.chars c hc).byte.2.1)
  have hchars : (decode (utf8 cs)).map (fun b => (Char.ofNat b.toNat).toLower) = cs := by
    rw [hbytes, List.map_map]
    conv => rhs; rw [← List.map_id cs]
    exact List.map_congr_left fun c hc => (h.chars c hc).byte.2.2
  have hascii : (decode (utf8 cs)).all (· < 0x80) = true := by
    rw [hbytes, List.all_eq_true]
    refine List.forall_mem_map.2 fun c hc => decide_eq_true (h.chars c hc).byte.1
  rw [characters?, if_pos hascii, hchars]

theorem name?_of_characters? {bytes : List UInt8} {cs : List Char}
    (h : characters? bytes = some cs) :
    name? bytes =
      let name := ['.'].intercalate ((cs.splitOn '.').map Label.spelling)
      if Label.areSound (cs.splitOn '.') && name.all mayStand then some name else none := by
  rw [name?, h]
  rfl

/-- Labels in ASCII are their own spelling. -/
theorem map_spelling_splitOn {cs : List Char} (h : ∀ c ∈ cs, c.toNat < 128) :
    (cs.splitOn '.').map Label.spelling = cs.splitOn '.' := by
  conv_rhs => rw [← List.map_id (cs.splitOn '.')]
  refine List.map_congr_left fun label hlabel => ?_
  exact Label.spelling_of_isAscii (Label.isAscii_iff.2 fun c hc =>
    h c (Text.mem_of_mem_splitOn hlabel hc))

/-- A name is read as it stands. -/
theorem IsName.name?_eq {cs : List Char} (h : IsName cs) : name? (decode (utf8 cs)) = some cs := by
  have hallowed : cs.all mayStand = true :=
    List.all_eq_true.2 fun c hc => (inName_iff (h.chars c hc).ascii).1 (h.chars c hc)
  rw [name?_of_characters? h.characters?_eq, map_spelling_splitOn fun c hc => (h.chars c hc).ascii,
    List.intercalate_splitOn]
  dsimp only
  rw [h.sound, hallowed]
  rfl

/-- What is read as a name is one. -/
theorem isName_of_name? {bytes : List UInt8} {cs : List Char} (h : name? bytes = some cs) :
    IsName cs := by
  obtain ⟨text, htext, -⟩ := Option.bind_eq_some_iff.1 h
  rw [name?_of_characters? htext] at h
  dsimp only at h
  rw [Option.ite_none_right_eq_some, Bool.and_eq_true] at h
  obtain ⟨⟨hsound, hallowed⟩, hname⟩ := h
  obtain rfl := Option.some.inj hname
  have hlabels : ∀ label ∈ (text.splitOn '.').map Label.spelling, '.' ∉ label := by
    refine List.forall_mem_map.2 fun label hlabel => ?_
    exact Label.not_mem_spelling (Text.not_mem_of_mem_splitOn hlabel) (by decide) (by decide)
  refine ⟨fun c hc => ?_, ?_⟩
  · have hascii : c.toNat < 128 := by
      rcases Text.mem_intercalate hc with rfl | ⟨part, hpart, hc⟩
      · decide
      · obtain ⟨label, -, rfl⟩ := List.mem_map.1 hpart
        exact (Label.mem_spelling hc).1
    exact (inName_iff hascii).2 (List.all_eq_true.1 hallowed c hc)
  · rw [List.splitOn_intercalate '.' hlabels (by simp [List.splitOn_ne_nil])]
    exact Label.areSound_spelling hsound

theorem areSound_of_digits {labels : List (List Char)}
    (h : ∀ label ∈ labels, ∀ c ∈ label, c.isDigit = true) : Label.areSound labels = true := by
  have htext : ∀ label ∈ labels, Label.text? label = some (label.map Char.toNat) := by
    intro label hlabel
    have hascii : Label.isAscii label = true := by
      refine Label.isAscii_iff.2 fun c hc => ?_
      have hbounds := Text.toNat_of_isDigit (h label hlabel c hc)
      omega
    have hmark : Label.mark.isPrefixOf label = false := by
      rw [Bool.eq_false_iff, Ne, List.isPrefixOf_iff_prefix]
      rintro ⟨coded, rfl⟩
      exact absurd (h _ hlabel 'x' List.mem_cons_self) (by decide)
    rw [Label.text?, hascii, hmark]
    rfl
  have hturns : ∀ n < 10, ((Role.of? (48 + n)).any Role.turns) = false := by decide +kernel
  have hdirected : Label.areDirected (labels.map (·.map Char.toNat)) = true := by
    unfold Label.areDirected
    rw [Bool.or_eq_true]
    left
    simp only [List.all_eq_true, List.forall_mem_map, Bool.not_eq_true']
    intro label hlabel c hc
    obtain ⟨hlow, hhigh⟩ := Text.toNat_of_isDigit (h label hlabel c hc)
    have hc := hturns (c.toNat - 48) (by omega)
    rwa [Nat.add_sub_cancel' hlow] at hc
  rw [Label.areSound, mapM_eq_some_map htext]
  exact hdirected

end Host

/-! ## IPv4 addresses -/

namespace IPv4

/-- The four bytes of an address. -/
def bytes (address : Nat) : List Nat := [24, 16, 8, 0].map fun shift => (address >>> shift) % 256

theorem text_eq (address : Nat) :
    text address = List.intercalate ['.'] ((bytes address).map fun n => (Nat.repr n).toList) := by
  rw [text, bytes, List.map_map]
  rfl

theorem lt_of_mem_bytes {address n : Nat} (h : n ∈ bytes address) : n < 256 := by
  obtain ⟨shift, -, rfl⟩ := List.mem_map.1 h
  exact Nat.mod_lt _ (by decide)

theorem labels_text (address : Nat) :
    labels (text address) = (bytes address).map fun n => (Nat.repr n).toList := by
  rw [text_eq]
  refine List.splitOn_intercalate '.' ?_ (by simp [bytes])
  rintro _ hlabel hdot
  obtain ⟨n, -, rfl⟩ := List.mem_map.1 hlabel
  exact absurd (Text.isDigit_of_mem_repr hdot) (by decide)

theorem parts_text (address : Nat) : parts (text address) = labels (text address) := by
  unfold parts
  split
  -- Only an empty last label would be dropped, and all labels have digits.
  · next before heq =>
    rw [List.reverse_eq_cons_iff, labels_text] at heq
    have hempty : [] ∈ (bytes address).map fun n => (Nat.repr n).toList := by
      rw [heq]
      exact List.mem_append_right _ (List.mem_singleton_self [])
    obtain ⟨n, -, hn⟩ := List.mem_map.1 hempty
    exact absurd hn (by simp [Nat.toDigits_ne_nil])
  · rfl

theorem endsInNumber_text (address : Nat) : endsInNumber (text address) = true := by
  have hlast : (parts (text address)).getLast? =
      some (Nat.repr ((address >>> 0) % 256)).toList := by
    rw [parts_text, labels_text]
    rfl
  unfold endsInNumber
  rw [hlast]
  dsimp only
  rw [Text.allDigits_repr]
  rfl

theorem part?_repr {n : Nat} (h : n < 256) : part? (Nat.repr n).toList = some n := by
  have hall : ∀ n < 256, part? (Nat.repr n).toList = some n := by decide +kernel
  exact hall n h

theorem combine_bytes {address : Nat} (h : address < 2 ^ 32) :
    combine 0 4 (bytes address) = some address := by
  have hbyte : ∀ n, n % 256 < 256 := fun n => Nat.mod_lt n (by decide)
  simp only [bytes, List.map_cons, List.map_nil, combine, hbyte, Nat.shiftRight_eq_div_pow,
    Nat.shiftLeft_eq, if_true, Nat.reduceMul, Nat.reduceSub, Nat.reducePow, Nat.one_mul,
    Option.some.injEq]
  omega

theorem parse?_text {address : Nat} (h : address < 2 ^ 32) :
    parse? (text address) = some address := by
  have hparts : (parts (text address)).mapM part? = some (bytes address) := by
    rw [parts_text, labels_text]
    exact mapM_map_of_mem fun n hn => part?_repr (lt_of_mem_bytes hn)
  have hfour : ¬ 4 < (parts (text address)).length := by
    rw [parts_text, labels_text]
    simp [bytes]
  unfold parse?
  dsimp only
  rw [if_neg hfour, hparts]
  exact combine_bytes h

theorem lt_of_combine {ns : List Nat} {address bytesLeft result : Nat}
    (hlength : ns.length ≤ bytesLeft) (h : combine address bytesLeft ns = some result) :
    result < (address + 1) * 256 ^ bytesLeft := by
  induction ns generalizing address bytesLeft with
  | nil => cases h
  | cons n ns ih =>
    cases ns with
    | nil =>
      rw [combine, Option.ite_none_right_eq_some, Nat.one_shiftLeft, Nat.pow_mul] at h
      obtain ⟨hn, heq⟩ := h
      cases heq
      rw [Nat.shiftLeft_eq, Nat.pow_mul, Nat.succ_mul]
      exact Nat.add_lt_add_left hn _
    | cons m more =>
      obtain ⟨k, rfl⟩ : ∃ k, bytesLeft = k + 1 := ⟨bytesLeft - 1, by simp at hlength; omega⟩
      rw [combine, Option.ite_none_right_eq_some] at h
      · obtain ⟨hn, h⟩ := h
        have hle : address * 256 + n + 1 ≤ (address + 1) * 256 := by omega
        calc result < (address * 256 + n + 1) * 256 ^ k := ih (by simpa using hlength) h
          _ ≤ (address + 1) * 256 * 256 ^ k := Nat.mul_le_mul_right _ hle
          _ = (address + 1) * 256 ^ (k + 1) := by rw [Nat.pow_succ, Nat.mul_assoc, Nat.mul_comm 256]
      · nofun

theorem lt_of_parse? {cs : List Char} {address : Nat} (h : parse? cs = some address) :
    address < 2 ^ 32 := by
  unfold parse? at h
  dsimp only at h
  rw [Option.ite_none_left_eq_some] at h
  obtain ⟨hfour, h⟩ := h
  obtain ⟨ns, hns, h⟩ := Option.bind_eq_some_iff.1 h
  have hlength := length_of_mapM hns
  exact lt_of_combine (by omega) h

theorem text_ne_nil (address : Nat) : text address ≠ [] := by
  intro hnil
  have hlength := congrArg List.length (labels_text address)
  have hfour : (bytes address).length = 4 := rfl
  rw [hnil, List.length_map, hfour] at hlength
  exact absurd hlength (by decide)

theorem mem_text {address : Nat} {c : Char} (h : c ∈ text address) :
    c = '.' ∨ c.isDigit = true := by
  rw [text_eq] at h
  refine (Text.mem_intercalate h).imp_right ?_
  rintro ⟨_, hlabel, hc⟩
  obtain ⟨n, -, rfl⟩ := List.mem_map.1 hlabel
  exact Text.isDigit_of_mem_repr hc

end IPv4

/-! ## Hosts -/

namespace Host

/-- A host as it is read. -/
inductive Normal : Host → Prop
  | name {cs : List Char} (isName : IsName cs) (ne : cs ≠ [])
    (ends : IPv4.endsInNumber cs = false) : Normal (.name cs)
  | ipv4 {address : Nat} (h : address < 2 ^ 32) : Normal (.ipv4 address)
  | ipv6 {pieces : List Nat} (h : IPv6.IsAddress pieces) : Normal (.ipv6 pieces)

theorem normal_of_parseBracketed {cs : List Char} {host : Host} (h : parseBracketed cs = .ok host) :
    Normal host := by
  unfold parseBracketed at h
  split at h
  · split at h
    · next pieces hpieces =>
      cases h
      exact .ipv6 (IPv6.isAddress_of_parse? hpieces)
    · cases h
  · cases h

theorem normal_of_parse {cs : List Char} {host : Host} (h : parse cs = .ok host) : Normal host := by
  unfold parse at h
  split at h
  · exact normal_of_parseBracketed h
  · split at h
    · cases h
    · cases h
    · next text hne htext =>
      have hname := isName_of_name? htext
      split at h
      · split at h
        · next address haddress =>
          cases h
          exact .ipv4 (IPv4.lt_of_parse? haddress)
        · cases h
      · next hends =>
        cases h
        exact .name hname hne (by simpa using hends)

/-- What follows from its characters: a name is not taken for an address in brackets. -/
theorem IsName.parse_eq {cs : List Char} (h : IsName cs) (hne : cs ≠ []) :
    parse cs = if IPv4.endsInNumber cs then
        match IPv4.parse? cs with
        | some address => .ok (ipv4 address)
        | none => .error .badIPv4
      else .ok (name cs) := by
  have hbracket : ¬ cs.head? = some '[' := by
    intro hhead
    exact absurd (h.chars '[' (List.mem_of_head? hhead)).allowed (by decide)
  unfold parse
  rw [if_neg hbracket, h.name?_eq]
  cases cs with
  | nil => exact absurd rfl hne
  | cons c cs => rfl

theorem isName_ipv4 (address : Nat) : IsName (IPv4.text address) := by
  refine ⟨fun c hc => ?_, ?_⟩
  · rcases IPv4.mem_text hc with rfl | hdigit
    · decide
    · have hbounds := Text.toNat_of_isDigit hdigit
      exact imp_of_ascii (P := fun c => c.isDigit = true) hdigit (by omega) (by decide +kernel)
  · have hlabels := IPv4.labels_text address
    unfold IPv4.labels at hlabels
    rw [hlabels]
    refine areSound_of_digits (List.forall_mem_map.2 fun n _ c hc => ?_)
    exact Text.isDigit_of_mem_repr hc

/-- What is printed for a host is read as that host. -/
theorem Normal.parse_text {host : Host} (h : Normal host) : parse host.text = .ok host := by
  cases h with
  | @name cs isName ne ends =>
    rw [text, isName.parse_eq ne, ends]
    rfl
  | @ipv4 address h =>
    rw [text, (isName_ipv4 address).parse_eq (IPv4.text_ne_nil address),
      IPv4.endsInNumber_text, IPv4.parse?_text h]
    rfl
  | @ipv6 pieces h =>
    have hhead : ('[' :: IPv6.text pieces ++ [']']).head? = some '[' := rfl
    have hlast : ('[' :: IPv6.text pieces ++ [']']).getLast? = some ']' := List.getLast?_concat
    have hinside : ('[' :: IPv6.text pieces ++ [']']).tail.dropLast = IPv6.text pieces := by simp
    rw [text, parse, if_pos hhead, parseBracketed, if_pos hlast, hinside, IPv6.parse?_text h]

/-! ## The characters of a host -/

/-- A character that is printed for a host. -/
def InHost (c : Char) : Prop :=
  0x20 < c.toNat ∧ c.toNat < 0x7F ∧ c ∉ ['#', '/', '?', '@', '\\']

instance (c : Char) : Decidable (InHost c) := by unfold InHost; infer_instance

theorem InName.inHost {c : Char} (h : InName c) : InHost c :=
  imp_of_ascii h h.ascii (by decide +kernel)

theorem Normal.inHost {host : Host} (h : Normal host) {c : Char} (hc : c ∈ host.text) :
    InHost c := by
  cases h with
  | name isName => exact (isName.chars c hc).inHost
  | @ipv4 address => exact ((isName_ipv4 address).chars c hc).inHost
  | ipv6 =>
    have hall : ("0123456789abcdef".toList.all (InHost ·)) = true := by decide +kernel
    rw [text, List.mem_append, List.mem_cons, List.mem_singleton] at hc
    rcases hc with (rfl | hc) | rfl
    · decide
    · rcases IPv6.mem_text hc with rfl | hc
      · decide
      · exact of_decide_eq_true (List.all_eq_true.1 hall c hc)
    · decide

theorem Normal.text_ne_nil {host : Host} (h : Normal host) : host.text ≠ [] := by
  cases h with
  | name isName ne => exact ne
  | @ipv4 address => exact IPv4.text_ne_nil address
  | ipv6 => exact List.cons_ne_nil _ _

/-! ## Where a host ends -/

/-- What may follow a host: a port, or nothing. -/
def EndsHost (rest : List Char) : Prop := rest.head?.all (· == ':') = true

theorem splitHost_of_endsHost {rest : List Char} (h : EndsHost rest) :
    splitHost false rest = ([], rest) := by
  cases rest with
  | nil => rfl
  | cons c rest =>
    obtain rfl : c = ':' := by simpa [EndsHost] using h
    rfl

theorem splitHost_plain {cs rest : List Char} (h : ∀ c ∈ cs, c ≠ ':' ∧ c ≠ '[')
    (hrest : EndsHost rest) : splitHost false (cs ++ rest) = (cs, rest) := by
  induction cs with
  | nil => exact splitHost_of_endsHost hrest
  | cons c cs ih =>
    obtain ⟨⟨hcolon, hbracket⟩, hcs⟩ := List.forall_mem_cons.1 h
    rw [List.cons_append, splitHost, if_neg (fun h => hcolon h.1)]
    simp [hbracket, ih hcs]

theorem splitHost_bracketed {cs rest : List Char} (h : ']' ∉ cs) (hrest : EndsHost rest) :
    splitHost true (cs ++ ']' :: rest) = (cs ++ [']'], rest) := by
  induction cs with
  | nil => simp [splitHost, splitHost_of_endsHost hrest]
  | cons c cs ih =>
    rw [List.mem_cons, not_or] at h
    rw [List.cons_append, splitHost]
    simp [Ne.symm h.1, ih h.2]

theorem Normal.splitHost_text {host : Host} (h : Normal host) {rest : List Char}
    (hrest : EndsHost rest) : splitHost false (host.text ++ rest) = (host.text, rest) := by
  have hname : ∀ c, InName c → c ≠ ':' ∧ c ≠ '[' := by
    intro c hc
    constructor <;> · rintro rfl; exact absurd hc (by decide)
  cases h with
  | name isName => exact splitHost_plain (fun c hc => hname c (isName.chars c hc)) hrest
  | @ipv4 address =>
    exact splitHost_plain (fun c hc => hname c ((isName_ipv4 address).chars c hc)) hrest
  | @ipv6 pieces =>
    have hclose : ']' ∉ IPv6.text pieces := by
      intro hmem
      rcases IPv6.mem_text hmem with h | h
      · exact absurd h (by decide)
      · exact absurd h (by decide)
    have hinside := splitHost_bracketed hclose hrest
    rw [text, List.cons_append, List.cons_append, List.append_assoc, List.singleton_append,
      splitHost]
    simp [hinside]

end Host
end RepairConsole.Url
