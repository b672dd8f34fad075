import Mathlib.Data.List.Basic
import RepairConsole.Proofs.Window.Notation
/-!
# One token for each list of components

What an operator means by a duration is the list of its components: digits as they were written,
each run with its unit. Two texts come to the same token if and only if they mean the same list,
and the token is a duration that comes to itself.
-/

namespace RepairConsole.Duration

/-! ## What a text means -/

/-- A character that belongs to a component. -/
def inComponent (c : Char) : Bool := c != 'P' && c != 'T'

/-- Components of days and of a clock, in any order. -/
def Measures (parts : List Component) : Prop :=
  ∀ c ∈ parts, c.Valid ∧ c.unit ∈ ['D', 'H', 'M', 'S']

/-- The text has these components from the left to the right, and nothing between them but the
marks in front of days and clock. -/
def Denotes (raw : String) (parts : List Component) : Prop :=
  Measures parts ∧ (upper raw).filter inComponent = written parts

/-- The components of a duration, from the left to the right. -/
def parts (d : Duration) : List Component := d.date ++ d.time

theorem isNumberChar_unit {u : Char} (h : u ∈ ['D', 'H', 'M', 'S']) : isNumberChar u = false := by
  have hall : ['D', 'H', 'M', 'S'].all isMark = true := by decide
  simpa [isMark] using List.all_eq_true.1 hall u h

theorem written_injective {parts parts' : List Component} (h : Measures parts)
    (h' : Measures parts') (heq : written parts = written parts') : parts = parts' := by
  induction parts generalizing parts' with
  | nil => exact (written_eq_nil_iff.1 heq.symm).symm
  | cons c parts ih =>
    cases parts' with
    | nil => exact absurd (written_eq_nil_iff.1 heq) (List.cons_ne_nil c parts)
    | cons c' parts' =>
      obtain ⟨⟨hvalid, hunit⟩, hparts⟩ := List.forall_mem_cons.1 h
      obtain ⟨⟨hvalid', hunit'⟩, hparts'⟩ := List.forall_mem_cons.1 h'
      rw [written_cons, written_cons] at heq
      -- A unit is no part of a number, so the first one cuts both texts at the same place.
      obtain ⟨hnumber, hunits, hrest⟩ := Text.append_cons_inj (isNumberChar_of_valid hvalid)
        (isNumberChar_unit hunit) (isNumberChar_of_valid hvalid') (isNumberChar_unit hunit')
        heq
      obtain ⟨number, unit⟩ := c
      obtain ⟨number', unit'⟩ := c'
      obtain rfl : number = number' := hnumber
      obtain rfl : unit = unit' := hunits
      rw [ih hparts hparts' hrest]

theorem Denotes.unique {raw : String} {parts parts' : List Component} (h : Denotes raw parts)
    (h' : Denotes raw parts') : parts = parts' :=
  written_injective h.1 h'.1 (h.2.symm.trans h'.2)

theorem WellFormed.measures {d : Duration} (h : d.WellFormed) : Measures d.parts := by
  refine List.forall_mem_append.2 ⟨fun c hc => ⟨h.date.1 c hc, ?_⟩, fun c hc => ⟨h.time.1 c hc, ?_⟩⟩
  · have hunit := h.date.2.subset (List.mem_map_of_mem hc)
    rw [List.mem_singleton.1 hunit]
    exact List.mem_cons_self
  · exact List.mem_cons_of_mem _ (h.time.2.subset (List.mem_map_of_mem hc))

/-- Days come in front and nowhere else, so the list tells where the clock starts. -/
theorem WellFormed.eq_of_parts {d e : Duration} (hd : d.WellFormed) (he : e.WellFormed)
    (h : d.parts = e.parts) : d = e := by
  have hdate : ∀ {d : Duration}, d.WellFormed → d.parts.filter (·.unit == 'D') = d.date := by
    intro d hd
    have hdays : d.date.filter (·.unit == 'D') = d.date := by
      refine List.filter_eq_self.2 fun c hc => ?_
      rw [List.mem_singleton.1 (hd.date.2.subset (List.mem_map_of_mem hc))]
      rfl
    have hclock : d.time.filter (·.unit == 'D') = [] := by
      refine List.filter_eq_nil_iff.2 fun c hc hunit => ?_
      have hmem := hd.time.2.subset (List.mem_map_of_mem hc)
      rw [eq_of_beq hunit] at hmem
      exact absurd hmem (by decide)
    rw [parts, List.filter_append, hdays, hclock, List.append_nil]
  obtain ⟨date, time⟩ := d
  obtain ⟨date', time'⟩ := e
  obtain rfl : date = date' := (hdate hd).symm.trans ((congrArg _ h).trans (hdate he))
  obtain rfl : time = time' := List.append_cancel_left h
  rfl

/-! ## What the two notations mean -/

theorem Measures.filter_written {parts : List Component} (h : Measures parts) :
    (written parts).filter inComponent = written parts := by
  refine List.filter_eq_self.2 fun c hc => ?_
  have hmem : isNumberChar c = true ∨ c ∈ ['D', 'H', 'M', 'S'] := by
    obtain ⟨part, hpart, hc⟩ := List.mem_flatMap.1 hc
    rcases List.mem_append.1 hc with hc | hc
    · exact Or.inl (isNumberChar_of_valid (h part hpart).1 c hc)
    · exact Or.inr (List.mem_singleton.1 hc ▸ (h part hpart).2)
  rw [inComponent, Bool.and_eq_true, bne_iff_ne, bne_iff_ne]
  refine ⟨?_, ?_⟩ <;>
  · rintro rfl
    exact absurd hmem (by decide)

theorem WellFormed.filter_iso {d : Duration} (h : d.WellFormed) :
    d.iso.filter inComponent = written d.parts := by
  have hself := h.measures.filter_written
  rw [parts, written_append, List.filter_append] at hself
  obtain ⟨date, time⟩ := d
  by_cases hnil : time = []
  · subst hnil
    rw [iso_of_date, parts, List.append_nil, List.filter_cons_of_neg (by decide)]
    simpa [written] using hself
  · rw [iso_of_time hnil, List.filter_cons_of_neg (by decide), List.filter_append,
      List.filter_cons_of_neg (by decide), hself, parts, written_append]

theorem Simple.eq_written {d : Duration} {cs : List Char} (h : Simple d cs) :
    cs = written d.parts := by
  cases h <;> simp [parts, written]

theorem Writes.denotes {d : Duration} {raw : String} (h : Writes d (upper raw)) :
    Denotes raw d.parts := by
  refine ⟨h.wellFormed.measures, ?_⟩
  rcases h with hsimple | ⟨hd, hiso⟩
  · have hd : d.WellFormed := Writes.wellFormed (Or.inl hsimple)
    rw [hsimple.eq_written, hd.measures.filter_written]
  · rw [hiso, hd.filter_iso]

theorem denotes_simple {raw : String} {digits : List Char} {unit : Char}
    (hunit : unit ∈ ['S', 'M', 'H', 'D']) (hdigits : Text.allDigits digits = true)
    (h : upper raw = digits ++ [unit]) : Denotes raw [⟨digits, unit⟩] := by
  by_cases hday : unit = 'D'
  · subst hday
    have hsimple : Simple ⟨[⟨digits, 'D'⟩], []⟩ (upper raw) := h ▸ .days hdigits
    exact Writes.denotes (Or.inl hsimple)
  · have hclock : unit = 'S' ∨ unit = 'M' ∨ unit = 'H' := by simpa [hday] using hunit
    have hsimple : Simple ⟨[], [⟨digits, unit⟩]⟩ (upper raw) := h ▸ .clock hdigits hclock
    exact Writes.denotes (Or.inl hsimple)

/-! ## Tokens -/

theorem token_eq (d : Duration) : d.token = String.ofList d.iso := rfl

theorem InAlphabet.isBlank_eq_false {c : Char} (h : InAlphabet c) : Text.isBlank c = false := by
  rcases h with hdigit | hmark
  · exact Text.isBlank_of_isDigit hdigit
  · have hall : ('.' :: marks).all (fun c => !Text.isBlank c) = true := by decide
    simpa using List.all_eq_true.1 hall c hmark

theorem InAlphabet.toUpper_eq {c : Char} (h : InAlphabet c) : c.toUpper = c := by
  rcases h with hdigit | hmark
  · have hle := (Text.toNat_of_isDigit hdigit).2
    exact toUpper_of_not_lower (Or.inl (by omega))
  · have hall : ('.' :: marks).all (fun c => c.toUpper == c) = true := by decide
    exact eq_of_beq (List.all_eq_true.1 hall c hmark)

theorem toUpper_of_isBlank {c : Char} (h : Text.isBlank c = true) : c.toUpper = c := by
  apply toUpper_of_not_lower
  simp only [Text.isBlank, Bool.or_eq_true, Bool.and_eq_true, decide_eq_true_eq, beq_iff_eq] at h
  omega

/-- Blanks around the characters of a duration are trimmed, whatever the case of its letters. -/
theorem upper_append {d : Duration} {cs before core after : List Char} (h : Writes d cs)
    (hbefore : Text.AllBlank before) (hafter : Text.AllBlank after)
    (hcore : core.map Char.toUpper = cs) :
    upper (String.ofList (before ++ (core ++ after))) = cs := by
  have hnot : ∀ c ∈ core, Text.isBlank c = false := by
    intro c hc
    rw [← Bool.not_eq_true]
    intro hblank
    have hmem : InAlphabet c.toUpper := h.mem (hcore ▸ List.mem_map_of_mem hc)
    rw [toUpper_of_isBlank hblank] at hmem
    rw [hmem.isBlank_eq_false] at hblank
    cases hblank
  rw [upper, Text.trim_append hbefore hnot hafter, String.toList_ofList, hcore]

theorem parse_of_writes {d : Duration} {raw : String} (h : Writes d (upper raw)) :
    parse raw = .ok d := by
  obtain ⟨e, he⟩ := parse_ok_iff.2 (inNotation_iff.2 ⟨d, h⟩)
  rw [he, (parse_eq_ok_iff.1 he).2.unique h]

theorem WellFormed.parse_token {d : Duration} (h : d.WellFormed) : parse d.token = .ok d := by
  have hwrites : Writes d d.iso := Or.inr ⟨h, rfl⟩
  have hcase : d.iso.map Char.toUpper = d.iso := calc
    d.iso.map Char.toUpper = d.iso.map id :=
      List.map_congr_left fun c hc => (hwrites.mem hc).toUpper_eq
    _ = d.iso := List.map_id _
  have hupper : upper (String.ofList ([] ++ (d.iso ++ []))) = d.iso :=
    upper_append hwrites nofun nofun hcase
  rw [List.nil_append, List.append_nil, ← token_eq] at hupper
  exact parse_of_writes (hupper ▸ hwrites)

theorem WellFormed.token_inj {d e : Duration} (hd : d.WellFormed) (he : e.WellFormed) :
    d.token = e.token ↔ d.parts = e.parts := by
  constructor
  · intro h
    have hparse := hd.parse_token
    rw [h, he.parse_token] at hparse
    rw [Except.ok.inj hparse]
  · intro h
    rw [hd.eq_of_parts he h]

theorem token_canonical {raw raw' : String} {d e : Duration} (h : parse raw = .ok d)
    (h' : parse raw' = .ok e) :
    (parse d.token).map token = .ok d.token ∧
    (∃ parts, Denotes raw parts) ∧
    (∀ parts parts', Denotes raw parts → Denotes raw' parts' →
      (d.token = e.token ↔ parts = parts')) ∧
    (∀ digits, ∀ unit ∈ ['S', 'M', 'H', 'D'], Text.allDigits digits = true →
      upper raw = digits ++ [unit] → Denotes raw [⟨digits, unit⟩]) ∧
    (∀ before core after, Text.AllBlank before → Text.AllBlank after →
      core.map Char.toUpper = upper raw →
      (parse (String.ofList (before ++ (core ++ after)))).map token = .ok d.token) := by
  have hd := (parse_eq_ok_iff.1 h).2
  have he := (parse_eq_ok_iff.1 h').2
  refine ⟨?_, ⟨d.parts, hd.denotes⟩, fun parts parts' hparts hparts' => ?_, ?_, ?_⟩
  · rw [hd.wellFormed.parse_token]
    rfl
  · rw [hparts.unique hd.denotes, hparts'.unique he.denotes]
    exact hd.wellFormed.token_inj he.wellFormed
  · intro digits unit hunit hdigits hraw
    exact denotes_simple hunit hdigits hraw
  · intro before core after hbefore hafter hcore
    rw [parse_of_writes ((upper_append hd hbefore hafter hcore).symm ▸ hd)]
    rfl

/-- `60s` and ` pt60S` are one, `1m` is another: nothing is converted. -/
theorem token_canonical_sixty :
    let sixty : Duration := ⟨[], [⟨['6', '0'], 'S'⟩]⟩
    let minute : Duration := ⟨[], [⟨['1'], 'M'⟩]⟩
    parse "60s" = .ok sixty ∧ parse " pt60S" = .ok sixty ∧ parse "1m" = .ok minute ∧
      (parse sixty.token).map token = .ok "PT60S" ∧ sixty.token ≠ minute.token := by
  intro sixty minute
  have hsixty : parse "60s" = .ok sixty := by decide +kernel
  have hpadded : parse " pt60S" = .ok sixty := by decide +kernel
  have hminute : parse "1m" = .ok minute := by decide +kernel
  obtain ⟨hfixed, -, hdifferent, hsimple, -⟩ := token_canonical hsixty hminute
  obtain ⟨-, -, -, hsimple', -⟩ := token_canonical hminute hsixty
  have hdenotes := hsimple ['6', '0'] 'S' (by decide) (by decide) (by decide +kernel)
  have hdenotes' := hsimple' ['1'] 'M' (by decide) (by decide) (by decide +kernel)
  refine ⟨hsixty, hpadded, hminute, hfixed, ?_⟩
  rw [Ne, hdifferent _ _ hdenotes hdenotes']
  decide

end RepairConsole.Duration
