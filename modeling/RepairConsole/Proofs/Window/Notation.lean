import Mathlib.Data.List.Basic
import RepairConsole.Proofs.Text.Trim
import RepairConsole.Proofs.Window.Grammar
/-!
# The two notations of a duration

The grammar of durations, spelled out character by character: `nX` with one of the units S, M, H
and D, or `P[nD][T[nH][nM][n[.n]S]]`. A text is taken for a duration if and only if it is in this
grammar once it is trimmed and in upper case, and the operator hears of a sign if and only if the
text as it was typed starts with one.
-/

namespace RepairConsole.Duration

/-! ## The grammar -/

/-- `nX`: a run of digits and the unit. -/
def Counts (unit : Char) (cs : List Char) : Prop :=
  ∃ digits, Text.allDigits digits = true ∧ cs = digits ++ [unit]

/-- `n[.n]S`. -/
def CountsSeconds (cs : List Char) : Prop :=
  Counts 'S' cs ∨ ∃ whole fraction, Text.allDigits whole = true ∧ Text.allDigits fraction = true ∧
    cs = whole ++ '.' :: (fraction ++ ['S'])

/-- A part in brackets may be missing. -/
def Bracketed (part : List Char → Prop) (cs : List Char) : Prop := cs = [] ∨ part cs

def InSimpleNotation (cs : List Char) : Prop := ∃ unit ∈ ['S', 'M', 'H', 'D'], Counts unit cs

/-- `P[nD][T[nH][nM][n[.n]S]]` with a component, and with one after the `T` if that is there. -/
inductive InIsoNotation : List Char → Prop
  | days {days : List Char} (hdays : Counts 'D' days) : InIsoNotation ('P' :: days)
  | clock {days hours minutes seconds : List Char} (hdays : Bracketed (Counts 'D') days)
    (hhours : Bracketed (Counts 'H') hours) (hminutes : Bracketed (Counts 'M') minutes)
    (hseconds : Bracketed CountsSeconds seconds) (hsome : hours ++ (minutes ++ seconds) ≠ []) :
    InIsoNotation ('P' :: (days ++ 'T' :: (hours ++ (minutes ++ seconds))))

/-- The text is a duration, but for the blanks around it and the case of its letters. -/
def InNotation (raw : String) : Prop := InSimpleNotation (upper raw) ∨ InIsoNotation (upper raw)

/-! ## Components in the grammar -/

/-- The text writes components in the order of `units`. -/
def Lists (units cs : List Char) : Prop := ∃ parts, InOrder units parts ∧ cs = written parts

theorem written_append (parts parts' : List Component) :
    written (parts ++ parts') = written parts ++ written parts' := List.flatMap_append

theorem written_eq_nil_iff {parts : List Component} : written parts = [] ↔ parts = [] := by
  cases parts with
  | nil => simp [written]
  | cons c parts => simp [written_cons]

theorem inOrder_append_iff {first later : List Char} {parts : List Component} :
    InOrder (first ++ later) parts ↔
      ∃ front rest, parts = front ++ rest ∧ InOrder first front ∧ InOrder later rest := by
  constructor
  · rintro ⟨hvalid, hunits⟩
    obtain ⟨us, vs, hsplit, hus, hvs⟩ := List.sublist_append_iff.1 hunits
    obtain ⟨front, rest, rfl, rfl, rfl⟩ := List.map_eq_append_iff.1 hsplit
    obtain ⟨hfront, hrest⟩ := List.forall_mem_append.1 hvalid
    exact ⟨front, rest, rfl, ⟨hfront, hus⟩, ⟨hrest, hvs⟩⟩
  · rintro ⟨front, rest, rfl, ⟨hfront, hus⟩, ⟨hrest, hvs⟩⟩
    refine ⟨List.forall_mem_append.2 ⟨hfront, hrest⟩, ?_⟩
    rw [List.map_append]
    exact hus.append hvs

theorem lists_append_iff {first later cs : List Char} :
    Lists (first ++ later) cs ↔
      ∃ front rest, cs = front ++ rest ∧ Lists first front ∧ Lists later rest := by
  constructor
  · rintro ⟨parts, hparts, rfl⟩
    obtain ⟨front, rest, rfl, hfront, hrest⟩ := inOrder_append_iff.1 hparts
    exact ⟨_, _, written_append front rest, ⟨front, hfront, rfl⟩, ⟨rest, hrest, rfl⟩⟩
  · rintro ⟨-, -, rfl, ⟨front, hfront, rfl⟩, ⟨rest, hrest, rfl⟩⟩
    exact ⟨_, inOrder_append_iff.2 ⟨front, rest, rfl, hfront, hrest⟩, (written_append ..).symm⟩

/-- Of a single unit there is one component at most. -/
theorem lists_singleton_iff {unit : Char} {cs : List Char} :
    Lists [unit] cs ↔ Bracketed (fun cs => ∃ number, (⟨number, unit⟩ : Component).Valid ∧
      cs = number ++ [unit]) cs := by
  constructor
  · rintro ⟨parts, ⟨hvalid, hunits⟩, rfl⟩
    rcases List.sublist_singleton.1 hunits with hnil | hone
    · exact Or.inl (written_eq_nil_iff.2 (List.map_eq_nil_iff.1 hnil))
    · obtain ⟨⟨number, u⟩, rfl, rfl⟩ := List.map_eq_singleton_iff.1 hone
      exact Or.inr ⟨number, hvalid _ List.mem_cons_self, by simp [written]⟩
  · rintro (rfl | ⟨number, hvalid, rfl⟩)
    · exact ⟨[], by simp [InOrder], rfl⟩
    · exact ⟨[⟨number, unit⟩], ⟨by simpa using hvalid, by simp⟩, by simp [written]⟩

theorem lists_whole_iff {unit : Char} (h : unit ≠ 'S') {cs : List Char} :
    Lists [unit] cs ↔ Bracketed (Counts unit) cs := by
  simp only [lists_singleton_iff, Component.Valid, h, false_and, or_false]
  rfl

theorem lists_seconds_iff {cs : List Char} : Lists ['S'] cs ↔ Bracketed CountsSeconds cs := by
  rw [lists_singleton_iff]
  refine or_congr_right ?_
  constructor
  · rintro ⟨number, hdigits | ⟨-, whole, fraction, hwhole, hfraction, rfl⟩, rfl⟩
    · exact Or.inl ⟨number, hdigits, rfl⟩
    · exact Or.inr ⟨whole, fraction, hwhole, hfraction, by simp⟩
  · rintro (⟨digits, hdigits, rfl⟩ | ⟨whole, fraction, hwhole, hfraction, rfl⟩)
    · exact ⟨digits, Or.inl hdigits, rfl⟩
    · exact ⟨whole ++ '.' :: fraction, Or.inr ⟨rfl, whole, fraction, hwhole, hfraction, rfl⟩,
        by simp⟩

theorem lists_clock_iff {cs : List Char} :
    Lists ['H', 'M', 'S'] cs ↔ ∃ hours minutes seconds, cs = hours ++ (minutes ++ seconds) ∧
      Bracketed (Counts 'H') hours ∧ Bracketed (Counts 'M') minutes ∧
      Bracketed CountsSeconds seconds := by
  have hhours : ∀ {cs}, Lists ['H'] cs ↔ Bracketed (Counts 'H') cs := lists_whole_iff (by decide)
  have hminutes : ∀ {cs}, Lists ['M'] cs ↔ Bracketed (Counts 'M') cs := lists_whole_iff (by decide)
  rw [show ['H', 'M', 'S'] = ['H'] ++ (['M'] ++ ['S']) from rfl, lists_append_iff]
  simp only [lists_append_iff, hhours, hminutes, lists_seconds_iff]
  constructor
  · rintro ⟨hours, -, rfl, hh, minutes, seconds, rfl, hm, hs⟩
    exact ⟨hours, minutes, seconds, rfl, hh, hm, hs⟩
  · rintro ⟨hours, minutes, seconds, rfl, hh, hm, hs⟩
    exact ⟨hours, _, rfl, hh, minutes, seconds, rfl, hm, hs⟩

/-! ## Durations in the grammar -/

theorem simple_iff {cs : List Char} : (∃ d, Simple d cs) ↔ InSimpleNotation cs := by
  constructor
  · rintro ⟨d, h⟩
    cases h with
    | days hdigits => exact ⟨'D', by simp, _, hdigits, rfl⟩
    | clock hdigits hunit =>
      refine ⟨_, ?_, _, hdigits, rfl⟩
      rcases hunit with rfl | rfl | rfl <;> simp
  · rintro ⟨unit, hunit, digits, hdigits, rfl⟩
    by_cases hday : unit = 'D'
    · rw [hday]
      exact ⟨_, Simple.days hdigits⟩
    · exact ⟨_, Simple.clock hdigits (by simpa [hday] using hunit)⟩

theorem iso_iff {cs : List Char} :
    (∃ d : Duration, d.WellFormed ∧ cs = d.iso) ↔ InIsoNotation cs := by
  have hday : ∀ {cs}, Lists ['D'] cs ↔ Bracketed (Counts 'D') cs := lists_whole_iff (by decide)
  constructor
  · rintro ⟨⟨date, time⟩, ⟨hdate, htime, hsome⟩, rfl⟩
    have hdays := hday.1 ⟨date, hdate, rfl⟩
    by_cases hnil : time = []
    · subst hnil
      have hne : written date ≠ [] := written_eq_nil_iff.not.2 (hsome.resolve_right (by simp))
      rw [iso_of_date]
      exact .days (hdays.resolve_left hne)
    · obtain ⟨hours, minutes, seconds, heq, hhours, hminutes, hseconds⟩ :=
        lists_clock_iff.1 ⟨time, htime, rfl⟩
      have hne : hours ++ (minutes ++ seconds) ≠ [] := heq ▸ written_eq_nil_iff.not.2 hnil
      rw [iso_of_time hnil, heq]
      exact .clock hdays hhours hminutes hseconds hne
  · intro h
    cases h with
    | @days days hdays =>
      obtain ⟨date, hdate, rfl⟩ := hday.2 (Or.inr hdays)
      have hne : date ≠ [] := by
        obtain ⟨digits, -, hdigits⟩ := hdays
        exact written_eq_nil_iff.not.1 (by simp [hdigits])
      exact ⟨⟨date, []⟩, ⟨hdate, by simp [InOrder], Or.inl hne⟩, (iso_of_date date).symm⟩
    | clock hdays hhours hminutes hseconds hsome =>
      obtain ⟨date, hdate, rfl⟩ := hday.2 hdays
      obtain ⟨time, htime, heq⟩ := lists_clock_iff.2 ⟨_, _, _, rfl, hhours, hminutes, hseconds⟩
      have hne : time ≠ [] := written_eq_nil_iff.not.1 (heq ▸ hsome)
      rw [heq]
      exact ⟨⟨date, time⟩, ⟨hdate, htime, Or.inr hne⟩, (iso_of_time hne).symm⟩

theorem inNotation_iff {raw : String} : InNotation raw ↔ ∃ d, Writes d (upper raw) := by
  rw [InNotation, ← simple_iff, ← iso_iff, ← exists_or]
  rfl

/-! ## What no duration contains -/

/-- A character that stands in no number. -/
def isMark (c : Char) : Bool := !isNumberChar c

/-- The marks of a duration, in the order in which they may come. -/
def marks : List Char := ['P', 'D', 'T', 'H', 'M', 'S']

/-- What every text in the grammar keeps. -/
structure Tidy (raw : String) : Prop where
  unsigned : '+' ∉ raw.toList ∧ '-' ∉ raw.toList
  /-- No unit comes twice, or before one that has to precede it. -/
  ordered : ((upper raw).filter isMark).Sublist marks
  /-- There is no second point, and only digits and the unit of seconds come after it. -/
  fraction : '.' ∈ upper raw → ∃ front digits, upper raw = front ++ '.' :: (digits ++ ['S']) ∧
    '.' ∉ front ∧ Text.allDigits digits = true
  ascii : ∀ c ∈ (Text.trim raw).toList, c.toNat < 128

theorem filter_number {number : List Char} (h : ∀ c ∈ number, isNumberChar c = true) :
    number.filter isMark = [] := by
  rw [List.filter_eq_nil_iff]
  intro c hc
  simp [isMark, h c hc]

/-- Without the numbers only the units are left of components. -/
theorem filter_written {units : List Char} {parts : List Component} (h : InOrder units parts)
    (hunits : ∀ u ∈ units, isMark u = true) :
    (written parts).filter isMark = parts.map Component.unit := by
  obtain ⟨hvalid, hsublist⟩ := h
  replace hsublist := hsublist.subset
  induction parts with
  | nil => rfl
  | cons c parts ih =>
    obtain ⟨hc, hparts⟩ := List.forall_mem_cons.1 hvalid
    rw [List.map_cons, List.cons_subset] at hsublist
    rw [written_cons, List.filter_append, filter_number (isNumberChar_of_valid hc),
      List.filter_cons_of_pos (hunits _ hsublist.1), ih hparts hsublist.2]
    rfl

theorem Simple.filter_marks {d : Duration} {cs : List Char} (h : Simple d cs) :
    (cs.filter isMark).Sublist marks := by
  have hdigits : ∀ {digits : List Char}, Text.allDigits digits = true →
      digits.filter isMark = [] := fun hd =>
    filter_number fun c hc => isNumberChar_iff.2 (Or.inl ((Text.allDigits_iff.1 hd).2 c hc))
  cases h with
  | days hd =>
    rw [List.filter_append, hdigits hd]
    decide
  | clock hd hunit =>
    rw [List.filter_append, hdigits hd]
    rcases hunit with rfl | rfl | rfl <;> decide

theorem WellFormed.filter_marks {d : Duration} (h : d.WellFormed) :
    (d.iso.filter isMark).Sublist marks := by
  obtain ⟨date, time⟩ := d
  obtain ⟨hdate, htime, -⟩ := h
  have hdays := filter_written hdate (List.all_eq_true.1 (by decide))
  have hclock := filter_written htime (List.all_eq_true.1 (by decide))
  by_cases hnil : time = []
  · subst hnil
    rw [iso_of_date, List.filter_cons_of_pos (by decide), hdays]
    exact (hdate.2.trans (by decide)).cons_cons 'P'
  · rw [iso_of_time hnil, List.filter_cons_of_pos (by decide), List.filter_append,
      List.filter_cons_of_pos (by decide), hdays, hclock]
    exact (hdate.2.append (htime.2.cons_cons 'T')).cons_cons 'P'

theorem Writes.filter_marks {d : Duration} {cs : List Char} (h : Writes d cs) :
    (cs.filter isMark).Sublist marks := by
  rcases h with h | ⟨h, rfl⟩
  · exact h.filter_marks
  · exact h.filter_marks

/-- The characters that durations are written with. -/
def InAlphabet (c : Char) : Prop := c.isDigit = true ∨ c ∈ '.' :: marks

theorem Writes.mem {d : Duration} {cs : List Char} (h : Writes d cs) {c : Char} (hc : c ∈ cs) :
    InAlphabet c := by
  cases hn : isNumberChar c with
  | true =>
    rcases isNumberChar_iff.1 hn with hdigit | rfl
    · exact Or.inl hdigit
    · exact Or.inr List.mem_cons_self
  | false =>
    have hmem : c ∈ cs.filter isMark := List.mem_filter.2 ⟨hc, by simp [isMark, hn]⟩
    exact Or.inr (List.mem_cons_of_mem _ (h.filter_marks.subset hmem))

theorem Counts.not_mem_point {unit : Char} (hunit : unit ≠ '.') {cs : List Char}
    (h : Bracketed (Counts unit) cs) : '.' ∉ cs := by
  rcases h with rfl | ⟨digits, hdigits, rfl⟩
  · simp
  · intro hmem
    rcases List.mem_append.1 hmem with hmem | hmem
    · exact absurd ((Text.allDigits_iff.1 hdigits).2 _ hmem) (by decide)
    · exact hunit (List.mem_singleton.1 hmem).symm

/-- A point is followed by digits and the unit of seconds, whatever stands before it. -/
theorem InIsoNotation.fraction {cs : List Char} (h : InIsoNotation cs) (hpoint : '.' ∈ cs) :
    ∃ front digits, cs = front ++ '.' :: (digits ++ ['S']) ∧ '.' ∉ front ∧
      Text.allDigits digits = true := by
  cases h with
  | days hdays =>
    have hnot := Counts.not_mem_point (by decide) (Or.inr hdays)
    simp [hnot] at hpoint
  | @clock days hours minutes seconds hdays hhours hminutes hseconds hsome =>
    have hnotDays := Counts.not_mem_point (by decide) hdays
    have hnotHours := Counts.not_mem_point (by decide) hhours
    have hnotMinutes := Counts.not_mem_point (by decide) hminutes
    have hmem : '.' ∈ seconds := by simpa [hnotDays, hnotHours, hnotMinutes] using hpoint
    rcases hseconds with rfl | hwhole | ⟨whole, digits, hwhole, hdigits, rfl⟩
    · simp at hmem
    · exact absurd hmem (Counts.not_mem_point (by decide) (Or.inr hwhole))
    · have hnotWhole : '.' ∉ whole := fun hm =>
        absurd ((Text.allDigits_iff.1 hwhole).2 _ hm) (by decide)
      refine ⟨'P' :: (days ++ 'T' :: (hours ++ (minutes ++ whole))), digits, by simp, ?_, hdigits⟩
      simp [hnotDays, hnotHours, hnotMinutes, hnotWhole]

theorem InNotation.fraction {raw : String} (h : InNotation raw) (hpoint : '.' ∈ upper raw) :
    ∃ front digits, upper raw = front ++ '.' :: (digits ++ ['S']) ∧ '.' ∉ front ∧
      Text.allDigits digits = true := by
  rcases h with ⟨unit, hunit, hcounts⟩ | h
  · refine absurd hpoint (Counts.not_mem_point ?_ (Or.inr hcounts))
    rintro rfl
    exact absurd hunit (by decide)
  · exact h.fraction hpoint

theorem toUpper_of_not_lower {c : Char} (h : c.toNat < 97 ∨ 122 < c.toNat) : c.toUpper = c := by
  refine dif_neg fun hlower => ?_
  have hge : 97 ≤ c.toNat := hlower.1
  have hle : c.toNat ≤ 122 := hlower.2
  omega

theorem InAlphabet.ascii {c : Char} (h : InAlphabet c) : c.toNat < 128 := by
  rcases h with hdigit | hmark
  · exact Nat.lt_of_le_of_lt (Text.toNat_of_isDigit hdigit).2 (by decide)
  · have hall : ('.' :: marks).all (fun c => c.toNat < 128) = true := by decide
    exact of_decide_eq_true (List.all_eq_true.1 hall c hmark)

theorem InNotation.tidy {raw : String} (h : InNotation raw) : Tidy raw := by
  obtain ⟨d, hd⟩ := inNotation_iff.1 h
  have hupper : ∀ c ∈ (Text.trim raw).toList, InAlphabet c.toUpper :=
    fun c hc => hd.mem (List.mem_map_of_mem hc)
  -- A sign is no blank, so it would stand in what trimming leaves.
  have hsign : ∀ c : Char, Text.isBlank c = false → c.toUpper = c → ¬ InAlphabet c →
      c ∉ raw.toList := by
    intro c hblank hcase hnot hc
    obtain ⟨before, after, heq, hbefore, hafter⟩ := Text.exists_trim raw
    rw [heq, List.mem_append, List.mem_append] at hc
    rcases hc with hc | hc | hc
    · rw [hbefore c hc] at hblank
      cases hblank
    · exact hnot (hcase ▸ hupper c hc)
    · rw [hafter c hc] at hblank
      cases hblank
  have hplus := hsign '+' (by decide) (by decide) (by simp [InAlphabet, marks, Char.isDigit])
  have hminus := hsign '-' (by decide) (by decide) (by simp [InAlphabet, marks, Char.isDigit])
  refine ⟨⟨hplus, hminus⟩, hd.filter_marks, h.fraction, fun c hc => ?_⟩
  by_contra hge
  have hascii := (hupper c hc).ascii
  rw [toUpper_of_not_lower (Or.inr (by omega))] at hascii
  exact hge hascii

/-! ## What is accepted -/

theorem parse_ok_iff {raw : String} : (∃ d, parse raw = .ok d) ↔ InNotation raw := by
  rw [inNotation_iff]
  constructor
  · rintro ⟨d, h⟩
    exact ⟨d, (parse_eq_ok_iff.1 h).2⟩
  · rintro ⟨d, h⟩
    refine ⟨d, parse_eq_ok_iff.2 ⟨fun hsigned => ?_, h⟩⟩
    have htidy := (inNotation_iff.2 ⟨d, h⟩).tidy
    rcases hsigned with hplus | hminus
    · exact htidy.unsigned.1 (List.mem_of_head? hplus)
    · exact htidy.unsigned.2 (List.mem_of_head? hminus)

/-- Each refusal has a message of its own. -/
theorem parse_refused {raw : String} (h : ¬ InNotation raw) :
    ∃ fault, parse raw = .error fault ∧ fault.failure.kind = .invalidArgument ∧
      (fault.failure.message =
        some "'+' and '-' is not allowed in duration, check help for more information" ↔
          Signed raw) := by
  by_cases hsigned : Signed raw
  · exact ⟨_, parse_of_signed hsigned, rfl, iff_of_true rfl hsigned⟩
  · have hnot : ∀ d, ¬ Writes d (upper raw) := fun d hd => h (inNotation_iff.2 ⟨d, hd⟩)
    refine ⟨_, parse_of_not_writes hsigned hnot, rfl, iff_of_false (fun heq => ?_) hsigned⟩
    have hmessage : "invalid duration '" ++ raw ++ "'" =
        "'+' and '-' is not allowed in duration, check help for more information" :=
      Option.some.inj heq
    have hhead := congrArg (fun s : String => s.toList.head?) hmessage
    simp at hhead

theorem kind_of_parse {raw : String} {fault : Fault} (h : parse raw = .error fault) :
    fault.failure.kind = .invalidArgument := by
  have hnot : ¬ InNotation raw := by
    intro hread
    obtain ⟨d, hd⟩ := parse_ok_iff.2 hread
    rw [hd] at h
    cases h
  obtain ⟨cause, hcause, hkind, -⟩ := parse_refused hnot
  rw [← Except.error.inj (hcause.symm.trans h)]
  exact hkind

theorem accepts_notation (raw : String) :
    ((∃ d, parse raw = .ok d) ↔ InNotation raw) ∧
    (¬ InNotation raw → ∃ fault, parse raw = .error fault ∧
      fault.failure.kind = .invalidArgument ∧
      (fault.failure.message =
        some "'+' and '-' is not allowed in duration, check help for more information" ↔
          Signed raw)) ∧
    (Signed raw → ¬ InNotation raw) ∧ (InNotation raw → Tidy raw) := by
  refine ⟨parse_ok_iff, parse_refused, fun hsigned hnotation => ?_, InNotation.tidy⟩
  obtain ⟨d, hd⟩ := parse_ok_iff.2 hnotation
  rw [parse_of_signed hsigned] at hd
  cases hd

/-- Blanks of any kind are trimmed, and a sign is refused although digits and a unit follow. -/
theorem accepts_notation_blank :
    (InNotation "\u00a0pT1m0.5s " ∧ Tidy "\u00a0pT1m0.5s ") ∧
      (¬ InNotation "+1d" ∧ Signed "+1d" ∧ ∃ fault, parse "+1d" = .error fault ∧
        fault.failure.kind = .invalidArgument) := by
  obtain ⟨haccepted, -, -, htidy⟩ := accepts_notation "\u00a0pT1m0.5s "
  obtain ⟨-, hrefused, hsign, -⟩ := accepts_notation "+1d"
  have hread : InNotation "\u00a0pT1m0.5s " :=
    haccepted.1 ⟨⟨[], [⟨['1'], 'M'⟩, ⟨['0', '.', '5'], 'S'⟩]⟩, by decide +kernel⟩
  have hsigned : Signed "+1d" := Or.inl (by decide)
  obtain ⟨fault, hfault, hkind, -⟩ := hrefused (hsign hsigned)
  exact ⟨⟨hread, htidy hread⟩, hsign hsigned, hsigned, fault, hfault, hkind⟩

end RepairConsole.Duration
