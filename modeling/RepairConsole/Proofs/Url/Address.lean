import Mathlib.Data.List.Basic
import RepairConsole.Proofs.Text.Cut
import RepairConsole.Proofs.Url.Host
import RepairConsole.Url.Base
/-!
# Reading an origin again

The parts of an origin that was read keep to alphabets that leave out the marks between them. So
whatever follows the origin as a path, its parts are found where they were printed.
-/

namespace RepairConsole.Url

/-! ## User information -/

/-- A character that user information is written with. -/
def InUser (c : Char) : Prop := c.toNat < 128 ∧ standsInUser (UInt8.ofNat c.toNat) = true

instance (c : Char) : Decidable (InUser c) := by unfold InUser; infer_instance

theorem inUser_of_mem {cs : List Char} {c : Char} (h : c ∈ encodeUser cs) : InUser c := by
  have hall : ∀ b : UInt8, (if standsInUser b then [Char.ofNat b.toNat]
      else escapedByte b).all (InUser ·) = true :=
    forall_byte (by decide +kernel)
  obtain ⟨b, -, hc⟩ := List.mem_flatMap.1 h
  exact of_decide_eq_true (List.all_eq_true.1 (hall b) c hc)

/-- What is written for user information stands for itself. -/
theorem encodeUser_of_inUser {cs : List Char} (h : ∀ c ∈ cs, InUser c) : encodeUser cs = cs := by
  rw [encodeUser, utf8_of_ascii fun c hc => (h c hc).1, encode, List.flatMap_map]
  have hself : ∀ c ∈ cs, (if standsInUser (UInt8.ofNat c.toNat) then
      [Char.ofNat (UInt8.ofNat c.toNat).toNat] else escapedByte (UInt8.ofNat c.toNat)) = [c] := by
    intro c hc
    have hchar : Char.ofNat (UInt8.ofNat c.toNat).toNat = c :=
      imp_of_ascii (Q := fun c => Char.ofNat (UInt8.ofNat c.toNat).toNat = c) (h c hc)
        (h c hc).1 (by decide +kernel)
    rw [if_pos (h c hc).2, hchar]
  rw [List.flatMap_congr hself, List.flatMap_singleton']

/-- A character between the slashes of a URL and its path. -/
def InAuthority (c : Char) : Prop :=
  0x20 < c.toNat ∧ c.toNat < 0x7F ∧ c ∉ ['#', '/', '?', '\\']

instance (c : Char) : Decidable (InAuthority c) := by unfold InAuthority; infer_instance

theorem InUser.inAuthority {c : Char} (h : InUser c) : InAuthority c ∧ c ≠ ':' ∧ c ≠ '@' :=
  imp_of_ascii (Q := fun c => InAuthority c ∧ c ≠ ':' ∧ c ≠ '@') h h.1 (by decide +kernel)

theorem inAuthority_of_isDigit {c : Char} (h : c.isDigit = true) : InAuthority c := by
  have hbounds := Text.toNat_of_isDigit h
  exact imp_of_ascii (P := fun c => c.isDigit = true) h (by omega) (by decide +kernel)

/-! ## Cutting the authority -/

theorem splitUser_append {front rest : List Char} (h : '@' ∉ rest) :
    splitUser (front ++ '@' :: rest) = (some front, rest) := by
  have hreverse : (front ++ '@' :: rest).reverse = rest.reverse ++ '@' :: front.reverse := by simp
  have hrest := Text.forall_bne fun hmem => h (List.mem_reverse.1 hmem)
  rw [splitUser, hreverse, Text.span_append_cons hrest (by decide)]
  simp

theorem splitUser_of_not_mem {cs : List Char} (h : '@' ∉ cs) : splitUser cs = (none, cs) := by
  have hall := Text.forall_bne fun hmem => h (List.mem_reverse.1 hmem)
  rw [splitUser, Text.span_of_all hall]

theorem splitPassword_append {user : List Char} (h : ':' ∉ user) (password : List Char) :
    splitPassword (user ++ ':' :: password) = (user, password) := by
  rw [splitPassword, Text.span_append_cons (Text.forall_bne h) (by decide)]

theorem splitPassword_of_not_mem {user : List Char} (h : ':' ∉ user) :
    splitPassword user = (user, []) := by
  rw [splitPassword, Text.span_of_all (Text.forall_bne h)]

theorem parsePort_repr {port : Nat} (h : port ≤ 65535) :
    parsePort (':' :: (Nat.repr port).toList) = .ok (some port) := by
  obtain ⟨d, ds, hdigits⟩ := List.exists_cons_of_ne_nil
    (l := (Nat.repr port).toList) (by simp [Nat.toDigits_ne_nil])
  have hread := Text.readDigits?_repr port
  rw [hdigits] at hread ⊢
  rw [parsePort]
  · rw [hread]
    simp [h]
  · nofun

/-! ## Origins -/

/-- An origin as it is read. -/
structure Origin.Normal (o : Origin) : Prop where
  user : ∀ c ∈ o.user, InUser c
  password : ∀ c ∈ o.password, InUser c
  host : o.host.Normal
  port : ∀ port, o.port = some port → port ≤ 65535 ∧ some port ≠ defaultPort o.scheme

/-- What stands between the slashes of a URL and its path. -/
def Origin.authority (o : Origin) : List Char := o.userText ++ o.host.text ++ o.portText

theorem le_of_parsePort {cs : List Char} {port : Nat} (h : parsePort cs = .ok (some port)) :
    port ≤ 65535 := by
  unfold parsePort at h
  split at h
  · cases h
  · cases h
  · split at h
    · split at h
      · cases h
        assumption
      · cases h
    · cases h

theorem normal_of_parseAuthority {scheme : String} {cs : List Char} {o : Origin}
    (h : parseAuthority scheme cs = .ok o) : o.Normal ∧ o.scheme = scheme := by
  unfold parseAuthority at h
  dsimp only at h
  split at h
  · cases h
  · obtain ⟨host, hhost, h⟩ := bind_eq_ok h
    obtain ⟨port, hport, h⟩ := bind_eq_ok h
    cases h
    refine ⟨⟨fun _ => inUser_of_mem, fun _ => inUser_of_mem, Host.normal_of_parse hhost, ?_⟩, rfl⟩
    intro p hp
    dsimp only at hp
    split at hp
    · cases hp
    · next hother =>
      rw [hp] at hother hport
      exact ⟨le_of_parsePort hport, hother⟩

namespace Origin.Normal

variable {o : Origin}

theorem endsHost_portText : Host.EndsHost o.portText := by
  unfold Origin.portText
  split <;> rfl

theorem parsePort_portText (h : o.Normal) : parsePort o.portText = .ok o.port := by
  unfold Origin.portText
  cases hport : o.port with
  | none => rfl
  | some port => exact parsePort_repr (h.port port hport).1

theorem mem_portText {c : Char} (hc : c ∈ o.portText) : c = ':' ∨ c.isDigit = true := by
  unfold Origin.portText at hc
  split at hc
  · exact (List.mem_cons.1 hc).imp_right Text.isDigit_of_mem_repr
  · nomatch hc

theorem mem_userText {c : Char} (hc : c ∈ o.userText) :
    c ∈ o.user ∨ c ∈ o.password ∨ c = ':' ∨ c = '@' := by
  unfold Origin.userText at hc
  split at hc
  · nomatch hc
  · rw [List.mem_append, List.mem_append, List.mem_singleton] at hc
    rcases hc with (hc | hc) | hc
    · exact Or.inl hc
    · split at hc
      · nomatch hc
      · rcases List.mem_cons.1 hc with hc | hc
        · exact Or.inr (Or.inr (Or.inl hc))
        · exact Or.inr (Or.inl hc)
    · exact Or.inr (Or.inr (Or.inr hc))

theorem inAuthority (h : o.Normal) {c : Char} (hc : c ∈ o.authority) : InAuthority c := by
  rw [Origin.authority, List.mem_append, List.mem_append] at hc
  rcases hc with (hc | hc) | hc
  · rcases mem_userText hc with hc | hc | rfl | rfl
    · exact (h.user c hc).inAuthority.1
    · exact (h.password c hc).inAuthority.1
    · decide
    · decide
  · obtain ⟨hlow, hhigh, hmark⟩ := h.host.inHost hc
    refine ⟨hlow, hhigh, fun hmem => hmark ?_⟩
    simp only [List.mem_cons, List.not_mem_nil, or_false] at hmem ⊢
    tauto
  · rcases mem_portText hc with rfl | hc
    · decide
    · exact inAuthority_of_isDigit hc

/-- User information ends at the last `@`, and the user at the first colon in it. -/
theorem splitUser_authority (h : o.Normal) :
    ∃ userinfo, splitUser o.authority = (userinfo, o.host.text ++ o.portText) ∧
      splitPassword (userinfo.getD []) = (o.user, o.password) := by
  have hafter : '@' ∉ o.host.text ++ o.portText := by
    rw [List.mem_append, not_or]
    refine ⟨fun hmem => absurd (h.host.inHost hmem) (by decide), fun hmem => ?_⟩
    rcases mem_portText hmem with heq | hdigit
    · exact absurd heq (by decide)
    · exact absurd hdigit (by decide)
  have hcolon : ':' ∉ o.user := fun hmem => (h.user _ hmem).inAuthority.2.1 rfl
  unfold Origin.authority Origin.userText
  split
  · next hnone =>
    rw [List.isEmpty_iff, List.isEmpty_iff] at hnone
    refine ⟨none, splitUser_of_not_mem hafter, ?_⟩
    rw [hnone.1, hnone.2]
    rfl
  · rw [List.append_assoc, List.append_assoc, List.append_assoc, List.singleton_append,
      ← List.append_assoc, splitUser_append hafter]
    refine ⟨_, rfl, ?_⟩
    rw [Option.getD_some]
    split
    · next hpassword =>
      rw [List.append_nil, splitPassword_of_not_mem hcolon, List.isEmpty_iff.1 hpassword]
    · exact splitPassword_append hcolon _

/-- An origin is read from what is printed for it. -/
theorem parseAuthority_authority (h : o.Normal) :
    parseAuthority o.scheme o.authority = .ok o := by
  obtain ⟨userinfo, hsplit, hpassword⟩ := h.splitUser_authority
  have hempty : ¬ o.host.text.isEmpty = true := by
    rw [List.isEmpty_iff]
    exact h.host.text_ne_nil
  have hport : (if o.port = defaultPort o.scheme then none else o.port) = o.port := by
    cases hport : o.port with
    | none => exact ite_self _
    | some port => exact if_neg (h.port port hport).2
  unfold parseAuthority
  rw [hsplit]
  dsimp only
  rw [hpassword, h.host.splitHost_text endsHost_portText]
  dsimp only
  rw [if_neg hempty, h.host.parse_text, h.parsePort_portText]
  change Except.ok _ = _
  rw [hport, encodeUser_of_inUser h.user, encodeUser_of_inUser h.password]

theorem authority_ne_nil (h : o.Normal) : o.authority ≠ [] := by
  have hhost := h.host.text_ne_nil
  simp [Origin.authority, hhost]

end Origin.Normal

/-! ## Cutting a URL -/

theorem dropWhile_of_none {p : Char → Bool} {cs : List Char} (h : ∀ c ∈ cs, p c = false) :
    cs.dropWhile p = cs := by
  cases cs with
  | nil => rfl
  | cons c cs => exact List.dropWhile_cons_of_neg (by simp [h c List.mem_cons_self])

theorem tidy_of_visible {cs : List Char} (h : ∀ c ∈ cs, 0x20 < c.toNat) : tidy cs = cs := by
  have hedge : ∀ c ∈ cs, decide (c.toNat ≤ 0x20) = false :=
    fun c hc => decide_eq_false (Nat.not_le.2 (h c hc))
  have hback : ∀ c ∈ cs.reverse, decide (c.toNat ≤ 0x20) = false :=
    fun c hc => hedge c (List.mem_reverse.1 hc)
  have hkept : ∀ c ∈ cs, (!(['\t', '\n', '\r'].contains c)) = true := by
    intro c hc
    rw [Bool.not_eq_true', List.contains_eq_mem, decide_eq_false_iff_not]
    intro hmem
    have hlow : (['\t', '\n', '\r'].all (·.toNat ≤ 0x20)) = true := by decide
    exact absurd (h c hc) (Nat.not_lt.2 (of_decide_eq_true (List.all_eq_true.1 hlow c hmem)))
  unfold tidy
  dsimp only
  rw [dropWhile_of_none hedge, dropWhile_of_none hback, List.reverse_reverse,
    List.filter_eq_self.2 hkept]

theorem splitScheme_of_web {scheme : String} (h : scheme = "http" ∨ scheme = "https")
    (rest : List Char) : splitScheme (scheme.toList ++ ':' :: rest) = some (scheme, rest) := by
  have hschemes : ∀ scheme ∈ ["http", "https"], scheme.toList.all isSchemeChar = true ∧
      (scheme.toList.head?.all Char.isAlpha) = true ∧ scheme.toList ≠ [] ∧
        String.ofList (scheme.toList.map Char.toLower) = scheme := by decide +kernel
  obtain ⟨hchars, hfirst, hne, hlower⟩ := hschemes scheme (by simpa using h)
  obtain ⟨c, cs, hscheme⟩ := List.exists_cons_of_ne_nil hne
  unfold splitScheme
  rw [Text.span_append_cons (List.all_eq_true.1 hchars) (by decide)]
  rw [hscheme] at hfirst hlower ⊢
  change c.isAlpha = true at hfirst
  change (if c.isAlpha = true then some (String.ofList ((c :: cs).map Char.toLower), rest)
    else none) = _
  rw [if_pos hfirst, hlower]

theorem endsAuthority_of_inAuthority {c : Char} (h : InAuthority c) :
    endsAuthority true c = false := by
  have hmark := h.2.2
  simp only [List.mem_cons, List.not_mem_nil, or_false, not_or] at hmark
  obtain ⟨hhash, hslash, hquestion, hback⟩ := hmark
  simp [endsAuthority, isSlash, hhash, hslash, hquestion, hback]

theorem isSlash_of_inAuthority {c : Char} (h : InAuthority c) : isSlash true c = false := by
  have hends := endsAuthority_of_inAuthority h
  simp only [endsAuthority, Bool.or_eq_false_iff] at hends
  exact hends.1.1

theorem chars_eq (o : Origin) : o.chars = o.scheme.toList ++ ':' :: '/' :: '/' :: o.authority := by
  simp [Origin.chars, Origin.authority]

/-- Nothing but printed characters of ASCII is printed for an origin. -/
theorem Origin.Normal.visible {o : Origin} (h : o.Normal)
    (hscheme : o.scheme = "http" ∨ o.scheme = "https") {c : Char} (hc : c ∈ o.chars) :
    0x20 < c.toNat ∧ c.toNat < 0x7F ∧ c ≠ '#' ∧ c ≠ '?' := by
  have hschemes : ∀ scheme ∈ ["http", "https"], (scheme.toList.all fun c =>
      0x20 < c.toNat ∧ c.toNat < 0x7F ∧ c ≠ '#' ∧ c ≠ '?') = true := by decide +kernel
  rw [chars_eq, List.mem_append, List.mem_cons, List.mem_cons, List.mem_cons] at hc
  rcases hc with hc | rfl | rfl | rfl | hc
  · exact of_decide_eq_true
      (List.all_eq_true.1 (hschemes o.scheme (by simpa using hscheme)) c hc)
  · decide
  · decide
  · decide
  · obtain ⟨hlow, hhigh, hmark⟩ := h.inAuthority hc
    simp only [List.mem_cons, List.not_mem_nil, or_false, not_or] at hmark
    exact ⟨hlow, hhigh, hmark.1, hmark.2.2.1⟩

/-- What is printed for an origin, with a path behind it, is read as that origin and that path. -/
theorem Origin.Normal.parse_chars {o : Origin} (h : o.Normal)
    (hscheme : o.scheme = "http" ∨ o.scheme = "https") {path : List Char}
    (hvisible : ∀ c ∈ path, 0x20 < c.toNat) :
    Address.parse (String.ofList (o.chars ++ '/' :: path)) =
      .ok (.web o (pathSegments ('/' :: path))) := by
  have htidy : tidy (o.chars ++ '/' :: path) = o.chars ++ '/' :: path := by
    refine tidy_of_visible fun c hc => ?_
    rw [List.mem_append, List.mem_cons] at hc
    rcases hc with hc | rfl | hc
    · exact (h.visible hscheme hc).1
    · decide
    · exact hvisible c hc
  have hweb : (defaultPort o.scheme).isSome = true := by
    rcases hscheme with h | h <;> rw [h] <;> rfl
  have hends : ∀ c ∈ o.authority, (!endsAuthority true c) = true := by
    intro c hc
    rw [endsAuthority_of_inAuthority (h.inAuthority hc)]
    rfl
  have hslashes : ('/' :: '/' :: (o.authority ++ '/' :: path)).dropWhile (isSlash true) =
      o.authority ++ '/' :: path := by
    obtain ⟨c, cs, hauthority⟩ := List.exists_cons_of_ne_nil h.authority_ne_nil
    have hc := isSlash_of_inAuthority (h.inAuthority (hauthority ▸ List.mem_cons_self))
    rw [hauthority, List.dropWhile_cons_of_pos (by decide), List.dropWhile_cons_of_pos (by decide),
      List.cons_append, List.dropWhile_cons_of_neg (by simp [hc])]
  unfold Address.parse
  rw [String.toList_ofList, htidy, chars_eq, List.append_assoc, List.cons_append, List.cons_append,
    List.cons_append, splitScheme_of_web hscheme]
  dsimp only
  rw [if_pos hweb, hslashes, Text.span_append_cons hends (by decide)]
  dsimp only
  rw [h.parseAuthority_authority]
  rfl

/-! ## What is read -/

/-- The authority and the path of what follows a scheme of the web. -/
def cutAuthority (rest : List Char) : List Char × List Char :=
  (rest.dropWhile (isSlash true)).span (!endsAuthority true ·)

theorem parse_eq_web_iff {raw : String} {o : Origin} {path : List (List Char)} :
    Address.parse raw = .ok (.web o path) ↔
      ∃ scheme rest, splitScheme (tidy raw.toList) = some (scheme, rest) ∧
        (defaultPort scheme).isSome = true ∧ parseAuthority scheme (cutAuthority rest).1 = .ok o ∧
          pathSegments (cutAuthority rest).2 = path := by
  constructor
  · intro h
    unfold Address.parse at h
    split at h
    · cases h
    · next scheme rest hsplit =>
      split at h
      · next hweb =>
        obtain ⟨origin, horigin, h⟩ := bind_eq_ok h
        cases h
        exact ⟨scheme, rest, hsplit, hweb, horigin, rfl⟩
      · -- Of an address of another scheme only the form is looked at.
        split at h
        · split at h
          · split at h
            · obtain ⟨_, -, h⟩ := bind_eq_ok h
              cases h
            · cases h
          · cases h
        · split at h
          · obtain ⟨_, -, h⟩ := bind_eq_ok h
            cases h
          · cases h
  · rintro ⟨scheme, rest, hsplit, hweb, horigin, rfl⟩
    unfold Address.parse
    rw [hsplit]
    dsimp only
    rw [if_pos hweb]
    unfold cutAuthority at horigin
    rw [horigin]
    rfl

theorem normal_of_parse {raw : String} {o : Origin} {path : List (List Char)}
    (h : Address.parse raw = .ok (.web o path)) : o.Normal := by
  obtain ⟨scheme, rest, -, -, horigin, -⟩ := parse_eq_web_iff.1 h
  exact (normal_of_parseAuthority horigin).1

/-! ## Queries and fragments -/

section Marks

variable {mark : Char} {p : Char → Bool} (tail : List Char)

theorem dropWhile_append_mark (hmark : p mark = false) (cs : List Char) :
    (cs ++ mark :: tail).dropWhile p = cs.dropWhile p ++ mark :: tail := by
  induction cs with
  | nil => exact List.dropWhile_cons_of_neg (by simp [hmark])
  | cons c cs ih =>
    rw [List.cons_append, List.dropWhile_cons, List.dropWhile_cons, ih]
    split <;> rfl

theorem takeWhile_append_mark (hmark : p mark = false) (cs : List Char) :
    (cs ++ mark :: tail).takeWhile p = cs.takeWhile p := by
  induction cs with
  | nil => exact List.takeWhile_cons_of_neg (by simp [hmark])
  | cons c cs ih => rw [List.cons_append, List.takeWhile_cons, List.takeWhile_cons, ih]

theorem cutAuthority_append_mark (hmark : mark = '?' ∨ mark = '#') (rest : List Char) :
    cutAuthority (rest ++ mark :: tail) =
      ((cutAuthority rest).1, (cutAuthority rest).2 ++ mark :: tail) := by
  have hslash : isSlash true mark = false := by rcases hmark with rfl | rfl <;> decide
  have hends : (!endsAuthority true mark) = false := by rcases hmark with rfl | rfl <;> decide
  simp only [cutAuthority, List.span_eq_takeWhile_dropWhile, dropWhile_append_mark tail hslash]
  rw [takeWhile_append_mark (p := (!endsAuthority true ·)) tail hends,
    dropWhile_append_mark (p := (!endsAuthority true ·)) tail hends]

theorem pathSegments_append_mark (hmark : mark = '?' ∨ mark = '#') (path : List Char) :
    pathSegments (path ++ mark :: tail) = pathSegments path := by
  have hends : (mark != '?' && mark != '#') = false := by rcases hmark with rfl | rfl <;> decide
  unfold pathSegments
  rw [takeWhile_append_mark (p := fun c => c != '?' && c != '#') tail hends]

theorem splitScheme_append {cs rest : List Char} {scheme : String}
    (h : splitScheme cs = some (scheme, rest)) (more : List Char) :
    splitScheme (cs ++ more) = some (scheme, rest ++ more) := by
  unfold splitScheme at h
  rcases Text.span_cases isSchemeChar cs with ⟨hspan, -⟩ | ⟨front, c, back, rfl, hfront, hc, hspan⟩
  · rw [hspan] at h
    split at h
    · next heq => cases heq
    · cases h
  · rw [hspan] at h
    unfold splitScheme
    rw [List.append_assoc, List.cons_append, Text.span_append_cons hfront hc]
    split at h
    · next first others after heq =>
      cases heq
      rw [Option.ite_none_right_eq_some] at h
      obtain ⟨hfirst, heq⟩ := h
      cases heq
      exact if_pos hfirst
    · cases h

/-- What precedes a mark is made tidy as if it were alone, unless it ends in blanks. -/
theorem exists_tidy_append_mark (hmark : mark = '?' ∨ mark = '#') {front : List Char}
    (h : ∀ c ∈ front.getLast?, 0x20 < c.toNat) :
    ∃ kept, tidy (front ++ mark :: tail) = tidy front ++ mark :: kept := by
  have hedge : decide (mark.toNat ≤ 0x20) = false := by rcases hmark with rfl | rfl <;> decide
  have hkept : (!(['\t', '\n', '\r'].contains mark)) = true := by
    rcases hmark with rfl | rfl <;> decide
  -- Alone, the text would lose the blanks at its end, which stay in front of a mark.
  have hback : (front.dropWhile fun c => decide (c.toNat ≤ 0x20)).reverse.dropWhile
      (fun c => decide (c.toNat ≤ 0x20)) =
        (front.dropWhile fun c => decide (c.toNat ≤ 0x20)).reverse := by
    have hsplit := List.takeWhile_append_dropWhile (p := fun c : Char => decide (c.toNat ≤ 0x20))
      (l := front)
    generalize (front.dropWhile fun c => decide (c.toNat ≤ 0x20)) = rest at hsplit ⊢
    rcases List.eq_nil_or_concat rest with rfl | ⟨before, last, rfl⟩
    · rfl
    · have hlast := h last (by rw [← hsplit]; simp)
      rw [List.concat_eq_append, List.reverse_append, List.reverse_singleton,
        List.singleton_append, List.dropWhile_cons_of_neg (by simpa using hlast)]
  have hreverse : ∀ cs : List Char,
      (cs ++ mark :: tail).reverse = tail.reverse ++ mark :: cs.reverse := by simp
  unfold tidy
  dsimp only
  rw [dropWhile_append_mark tail hedge, hreverse, dropWhile_append_mark _ hedge, hback]
  simp only [List.reverse_append, List.reverse_cons, List.reverse_reverse, List.append_assoc,
    List.singleton_append, List.filter_append]
  rw [List.filter_cons_of_pos (p := fun c => !(['\t', '\n', '\r'].contains c)) hkept]
  exact ⟨_, rfl⟩

/-- A query or a fragment makes no difference to what is read before it. -/
theorem parse_append_mark (hmark : mark = '?' ∨ mark = '#') {front : List Char}
    (hlast : ∀ c ∈ front.getLast?, 0x20 < c.toNat) {o : Origin} {path : List (List Char)}
    (h : Address.parse (String.ofList front) = .ok (.web o path)) :
    Address.parse (String.ofList (front ++ mark :: tail)) = .ok (.web o path) := by
  obtain ⟨scheme, rest, hsplit, hweb, horigin, rfl⟩ := parse_eq_web_iff.1 h
  obtain ⟨kept, htidy⟩ := exists_tidy_append_mark tail hmark hlast
  rw [String.toList_ofList] at hsplit
  refine parse_eq_web_iff.2 ⟨scheme, rest ++ mark :: kept, ?_, hweb, ?_, ?_⟩
  · rw [String.toList_ofList, htidy, splitScheme_append hsplit]
  · rw [cutAuthority_append_mark kept hmark]
    exact horigin
  · rw [cutAuthority_append_mark kept hmark]
    exact pathSegments_append_mark kept hmark _

end Marks

end RepairConsole.Url
