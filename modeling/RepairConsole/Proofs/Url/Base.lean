import Mathlib.Data.List.Sections
import RepairConsole.Proofs.Remote.Confinement
import RepairConsole.Proofs.Url.Address
/-!
# The normal form of a base URL

However a base URL was spelt, it is printed in one way, and that is accepted as the same base. The
requests that are built from it are read as addresses with the same origin.
-/

namespace RepairConsole

/-! ## Dots -/

namespace Url

theorem mem_sections_of_lower {cs ds : List Char} (h : ∀ c ∈ cs, c.toNat < 128)
    (hlower : cs.map Char.toLower = ds) : cs ∈ (ds.map fun d => [d, d.toUpper]).sections := by
  have hall : ∀ n < 128,
      Char.ofNat n ∈ [(Char.ofNat n).toLower, (Char.ofNat n).toLower.toUpper] := by
    decide +kernel
  rw [← hlower, List.map_map, List.mem_sections, List.forall₂_map_right_iff, List.forall₂_same]
  exact fun c hc => forall_ascii (P := fun c => c ∈ [c.toLower, c.toLower.toUpper]) hall (h c hc)

/-- The segments that mean a directory are spellings of dots. -/
theorem decode_of_isDot {cs : List Char} (h : ∀ c ∈ cs, c.toNat < 128) (hdot : isDot cs = true) :
    decode (utf8 cs) = [0x2E] := by
  -- There are few spellings, in capitals and in small letters: all are looked at.
  have hall : ∀ text ∈ [".", "%2e"], ∀ cs ∈ (text.toList.map fun d => [d, d.toUpper]).sections,
      decode (utf8 cs) = [0x2E] := by decide +kernel
  unfold isDot at hdot
  rw [List.contains_iff_mem] at hdot
  have hlower : cs.map Char.toLower = (isDot.lowered cs).toList := String.toList_ofList.symm
  exact hall _ hdot cs (mem_sections_of_lower h hlower)

theorem decode_of_isDotDot {cs : List Char} (h : ∀ c ∈ cs, c.toNat < 128)
    (hdots : isDotDot cs = true) : decode (utf8 cs) = [0x2E, 0x2E] := by
  have hall : ∀ text ∈ ["..", "%2e.", ".%2e", "%2e%2e"],
      ∀ cs ∈ (text.toList.map fun d => [d, d.toUpper]).sections,
        decode (utf8 cs) = [0x2E, 0x2E] := by decide +kernel
  unfold isDotDot at hdots
  rw [List.contains_iff_mem] at hdots
  have hlower : cs.map Char.toLower = (isDot.lowered cs).toList := String.toList_ofList.symm
  exact hall _ hdots cs (mem_sections_of_lower h hlower)

/-- A segment that has no meaning of its own. -/
def NoDots (segment : List Char) : Prop := isDot segment = false ∧ isDotDot segment = false

instance (segment : List Char) : Decidable (NoDots segment) := inferInstanceAs (Decidable (_ ∧ _))

/-- No text is written as a segment of dots but the dots themselves. -/
theorem noDots_encodeSegment {cs : List Char} (hdot : encodeSegment cs ≠ ['.'])
    (hdots : encodeSegment cs ≠ ['.', '.']) : NoDots (encodeSegment cs) := by
  have hascii : ∀ c ∈ encodeSegment cs, c.toNat < 128 := by
    intro c hc
    have hbound := (inSegment_of_mem hc).2.1
    omega
  have hwritten : encodeSegment cs = encode standsInSegment (decode (utf8 (encodeSegment cs))) := by
    rw [decode_encodeSegment]
    rfl
  constructor
  · rw [← Bool.not_eq_true]
    intro h
    rw [decode_of_isDot hascii h] at hwritten
    exact hdot (hwritten.trans (by decide +kernel))
  · rw [← Bool.not_eq_true]
    intro h
    rw [decode_of_isDotDot hascii h] at hwritten
    exact hdots (hwritten.trans (by decide +kernel))

theorem resolveDots_of_noDots {segments : List (List Char)} (h : ∀ part ∈ segments, NoDots part)
    (walked : List (List Char)) : resolveDots walked segments = walked.reverse ++ segments := by
  induction segments generalizing walked with
  | nil => simp [resolveDots]
  | cons part rest ih =>
    obtain ⟨⟨hdot, hdots⟩, hrest⟩ := List.forall_mem_cons.1 h
    simp [resolveDots, hdot, hdots, ih hrest]

end Url

/-! ## The paths of requests -/

namespace Call

open Url

theorem noDots_of_segments (c : Call) : ∀ part ∈ c.segments, NoDots part :=
  c.forall_mem_segments (by decide +kernel) fun _ hdot hdots => noDots_encodeSegment hdot hdots

theorem splitOnP_pathChars {segments : List (List Char)}
    (h : ∀ part ∈ segments, ∀ ch ∈ part, isSlash true ch = false) {first : List Char}
    (hfirst : ∀ ch ∈ first, isSlash true ch = false) :
    (first ++ pathChars segments).splitOnP (isSlash true) = first :: segments := by
  induction segments generalizing first with
  | nil =>
    rw [pathChars, List.flatMap_nil, List.append_nil]
    exact List.splitOnP_eq_singleton hfirst
  | cons part rest ih =>
    obtain ⟨hpart, hrest⟩ := List.forall_mem_cons.1 h
    have hsplit := ih hrest hpart
    rw [pathChars, List.flatMap_cons, List.cons_append,
      List.splitOnP_append_cons_of_forall_mem hfirst _ (by decide)]
    exact congrArg (first :: ·) hsplit

theorem isSlash_of_inSegment {ch : Char} (h : InSegment ch) : isSlash true ch = false := by
  have hmark := h.2.2
  simp only [List.mem_append, List.mem_cons, not_or] at hmark
  simp [isSlash, hmark.2.1, hmark.2.2]

theorem exists_segments (c : Call) :
    ∃ more, c.segments = ["repair-management".toList, "v2".toList] ++ more := by
  obtain ⟨more, -, hsegments⟩ := c.below_segments
  rw [List.reverse_eq_iff, List.reverse_append] at hsegments
  exact ⟨more.reverse, hsegments⟩

/-- The path of a request is read as the segments that it was built from. -/
theorem pathSegments_target (c : Call) : pathSegments c.target = c.segments := by
  have hpath : ∀ ch ∈ pathOf c.target, (ch != '?' && ch != '#') = true := by
    intro ch hch
    obtain ⟨-, hhash, hquestion⟩ := visible_of_mem_path hch
    simp [hhash, hquestion]
  have htake : c.target.takeWhile (fun ch => ch != '?' && ch != '#') = pathChars c.segments := by
    rw [target_eq, List.takeWhile_append_of_pos hpath, pathOf_target]
    split <;> simp
  have hslash : ∀ part ∈ c.segments, ∀ ch ∈ part, isSlash true ch = false :=
    fun part hpart ch hch => isSlash_of_inSegment (c.inSegment_of_segments part hpart ch hch)
  have hnoDots := c.noDots_of_segments
  unfold pathSegments
  rw [htake]
  obtain ⟨first, rest, hsegments⟩ : ∃ first rest, c.segments = first :: rest := by
    obtain ⟨more, hmore⟩ := c.exists_segments
    exact ⟨_, _, hmore⟩
  rw [hsegments] at hslash hnoDots ⊢
  obtain ⟨hfirst, hrest⟩ := List.forall_mem_cons.1 hslash
  have htail : (pathChars (first :: rest)).tail = first ++ pathChars rest := rfl
  dsimp only
  rw [htail, splitOnP_pathChars hrest hfirst, resolveDots_of_noDots hnoDots]
  rfl

end Call

namespace Url

/-! ## Bases -/

/-- What an accepted base URL is. -/
structure IsBase (o : Origin) : Prop where
  scheme : o.scheme = "http" ∨ o.scheme = "https"
  printed : ∃ authority,
    o.baseText.toList = o.scheme.toList ++ ':' :: '/' :: '/' :: authority ++ ['/'] ∧
      ∀ c ∈ authority, c ∉ ['#', '/', '?', '\\']
  path : Address.parse o.baseText = .ok (.web o [[]])
  again : baseOfOption (some o.baseText) = .ok o
  requests : ∀ c : Call, Address.parse (c.url o) = .ok (.web o c.segments) ∧
    ["repair-management".toList, "v2".toList] <+: c.segments

theorem parseBase_eq_ok_iff {raw : String} {o : Origin} :
    parseBase raw = .ok o ↔
      Address.parse raw = .ok (.web o [[]]) ∧ (o.scheme = "http" ∨ o.scheme = "https") := by
  unfold parseBase
  constructor
  · intro h
    split at h
    · cases h
    · cases h
    · next origin path hparse =>
      split at h
      · cases h
      · next hscheme =>
        split at h
        · cases h
        · next hpath =>
          cases h
          rw [not_not.1 hpath] at hparse
          exact ⟨hparse, by tauto⟩
  · rintro ⟨hparse, hscheme⟩
    rw [hparse]
    dsimp only
    rw [if_neg (by tauto), if_neg (by simp)]

theorem isBase_of_parseBase {raw : String} {o : Origin} (h : parseBase raw = .ok o) : IsBase o := by
  obtain ⟨hparse, hscheme⟩ := parseBase_eq_ok_iff.1 h
  have hnormal := normal_of_parse hparse
  have hpath : Address.parse o.baseText = .ok (.web o [[]]) := by
    have hroot : pathSegments ['/'] = [[]] := by decide +kernel
    rw [Origin.baseText, hnormal.parse_chars hscheme (List.forall_mem_nil _), hroot]
  refine ⟨hscheme, ⟨o.authority, ?_, fun c hc => (hnormal.inAuthority hc).2.2⟩, hpath,
    parseBase_eq_ok_iff.2 ⟨hpath, hscheme⟩, fun c => ?_⟩
  · rw [Origin.baseText, String.toList_ofList, chars_eq]
  · obtain ⟨more, hmore⟩ := c.exists_segments
    obtain ⟨rest, hrest⟩ : ∃ rest, c.target = '/' :: rest := by
      rw [Call.target, hmore]
      exact ⟨_, rfl⟩
    have hvisible : ∀ ch ∈ rest, 0x20 < ch.toNat := by
      intro ch hch
      have hmem : ch ∈ c.target := by
        rw [hrest]
        exact List.mem_cons_of_mem _ hch
      exact (Call.visible_of_mem_target hmem).1.1
    refine ⟨?_, more, hmore.symm⟩
    rw [Call.url, hrest, hnormal.parse_chars hscheme hvisible, ← hrest, c.pathSegments_target]

/-- The faults of a text that is an address, but none of a base. -/
theorem fault_of_parseBase {raw : String} {address : Address} {fault : Fault}
    (hparse : Address.parse raw = .ok address) (h : parseBase raw = .error fault) :
    fault = .foreignScheme ∨ fault = .urlWithPath := by
  unfold parseBase at h
  rw [hparse] at h
  split at h
  · next heq => cases heq
  · cases h
    exact Or.inl rfl
  · split at h
    · cases h
      exact Or.inl rfl
    · split at h
      · cases h
        exact Or.inr rfl
      · cases h

/-- Every base URL has one printed form, which is accepted as that base, and all requests to it have
its origin and a path below the interface. An address is accepted if and only if it is one of the
web without a path; a query or a fragment right behind it makes no difference. -/
theorem base_url_normal_form :
    (∀ raw o, baseOfOption raw = .ok o → IsBase o) ∧
    (∀ raw address, Address.parse raw = .ok address →
      (∀ o, baseOfOption (some raw) = .ok o ↔
        address = .web o [[]] ∧ (o.scheme = "http" ∨ o.scheme = "https")) ∧
      ∀ fault, baseOfOption (some raw) = .error fault →
        fault.failure.kind = .invalidArgument) ∧
    ∀ front mark tail o, baseOfOption (some (String.ofList front)) = .ok o →
      (∀ c ∈ front.getLast?, 0x20 < c.toNat) → mark = '?' ∨ mark = '#' →
        baseOfOption (some (String.ofList (front ++ mark :: tail))) = .ok o := by
  refine ⟨fun raw o h => isBase_of_parseBase h, ?_, ?_⟩
  · intro raw address hparse
    refine ⟨fun o => ?_, fun fault h => ?_⟩
    · change parseBase raw = .ok o ↔ _
      rw [parseBase_eq_ok_iff, hparse, Except.ok.injEq]
    · rcases fault_of_parseBase hparse h with rfl | rfl <;> rfl
  · intro front mark tail o h hlast hmark
    obtain ⟨hparse, hscheme⟩ := parseBase_eq_ok_iff.1 h
    exact parseBase_eq_ok_iff.2 ⟨parse_append_mark tail hmark hlast hparse, hscheme⟩

theorem base_url_normal_form_of_spelling :
    (∃ o, baseOfOption (some "hTTps:\\\\u%41@0x7F.1:443/.") = .ok o ∧ IsBase o ∧
      o.baseText = "https://u%41@127.0.0.1/" ∧
        baseOfOption (some (String.ofList
          ("hTTps:\\\\u%41@0x7F.1:443/.".toList ++ '?' :: "x=1#y".toList))) = .ok o) ∧
      ∃ fault, baseOfOption (some "ftp://localhost/api") = .error fault ∧
        fault.failure.kind = .invalidArgument := by
  have hbase : baseOfOption (some "hTTps:\\\\u%41@0x7F.1:443/.") =
      .ok ⟨"https", "u%41".toList, [], .ipv4 0x7F000001, none⟩ := by decide +kernel
  have hparse : Address.parse "ftp://localhost/api" =
      .ok (.web ⟨"ftp", [], [], .name "localhost".toList, none⟩ ["api".toList]) := rfl
  have hrefused : baseOfOption (some "ftp://localhost/api") = .error .foreignScheme := by
    decide +kernel
  refine ⟨⟨_, hbase, base_url_normal_form.1 _ _ hbase, by decide +kernel, ?_⟩, _, hrefused,
    (base_url_normal_form.2.1 _ _ hparse).2 _ hrefused⟩
  have hlast : "hTTps:\\\\u%41@0x7F.1:443/.".toList.getLast? = some '.' := rfl
  refine base_url_normal_form.2.2 _ _ _ _ ?_ (fun c hc => ?_) (Or.inl rfl)
  · rw [String.ofList_toList]
    exact hbase
  · rw [hlast, Option.mem_some] at hc
    subst hc
    decide

end Url
end RepairConsole
