import RepairConsole.Proofs.Text.Cut
import RepairConsole.Proofs.Text.Numerals
import RepairConsole.Window.Duration
/-!
# The grammar of durations

What a duration looks like, said without a scanner: components, each a number and a unit, whose
units come from a list, in its order and each at most once. The scanner takes exactly these texts
apart, and in the only way in which they can be.
-/

namespace RepairConsole

/-- The number is a run of digits, or in seconds two of them with a point between. -/
def Component.Valid (c : Component) : Prop :=
  Text.allDigits c.number = true ∨
    c.unit = 'S' ∧ ∃ whole fraction, Text.allDigits whole = true ∧
      Text.allDigits fraction = true ∧ c.number = whole ++ '.' :: fraction

namespace Duration

/-- Components that may stand in a row where `units` are to be had. -/
def InOrder (units : List Char) (parts : List Component) : Prop :=
  (∀ c ∈ parts, c.Valid) ∧ (parts.map Component.unit).Sublist units

/-- At least one component, the days in front and then hours, minutes and seconds. -/
structure WellFormed (d : Duration) : Prop where
  date : InOrder ['D'] d.date
  time : InOrder ['H', 'M', 'S'] d.time
  some : d.date ≠ [] ∨ d.time ≠ []

/-- A number and a unit with nothing around them. -/
inductive Simple : Duration → List Char → Prop
  | days {digits : List Char} (h : Text.allDigits digits = true) :
    Simple ⟨[⟨digits, 'D'⟩], []⟩ (digits ++ ['D'])
  | clock {digits : List Char} {unit : Char} (h : Text.allDigits digits = true)
    (hunit : unit = 'S' ∨ unit = 'M' ∨ unit = 'H') :
    Simple ⟨[], [⟨digits, unit⟩]⟩ (digits ++ [unit])

/-- The text of a duration in ISO 8601. -/
def iso (d : Duration) : List Char :=
  'P' :: written d.date ++ if d.time.isEmpty then [] else 'T' :: written d.time

/-- A text, trimmed and in upper case, that writes a duration. -/
def Writes (d : Duration) (upper : List Char) : Prop :=
  Simple d upper ∨ d.WellFormed ∧ upper = d.iso

theorem iso_of_date (date : List Component) : iso ⟨date, []⟩ = 'P' :: written date := by
  simp [iso]

theorem iso_of_time {date time : List Component} (h : time ≠ []) :
    iso ⟨date, time⟩ = 'P' :: (written date ++ 'T' :: written time) := by
  simp [iso, h]

/-! ## Numbers -/

theorem isNumberChar_iff {c : Char} : isNumberChar c = true ↔ c.isDigit = true ∨ c = '.' := by
  simp [isNumberChar]

theorem isNumberChar_eq_false_iff {c : Char} :
    isNumberChar c = false ↔ c.isDigit = false ∧ c ≠ '.' := by
  simp [isNumberChar]

theorem ne_point_of_isDigit {c : Char} (h : c.isDigit = true) : (c != '.') = true := by
  rw [bne_iff_ne]
  rintro rfl
  exact absurd h (by decide)

theorem isDigit_of_isNumberChar {cs : List Char} (hchar : ∀ c ∈ cs, isNumberChar c = true)
    (hpoint : ∀ c ∈ cs, (c != '.') = true) : ∀ c ∈ cs, c.isDigit = true := by
  intro c hc
  exact (isNumberChar_iff.1 (hchar c hc)).resolve_right (bne_iff_ne.1 (hpoint c hc))

/-- Of the characters that can stand in a number, just the numbers pass. -/
theorem isNumber_iff {fraction : Bool} {cs : List Char} (h : ∀ c ∈ cs, isNumberChar c = true) :
    isNumber fraction cs = true ↔ Text.allDigits cs = true ∨
      fraction = true ∧ ∃ whole rest, Text.allDigits whole = true ∧
        Text.allDigits rest = true ∧ cs = whole ++ '.' :: rest := by
  rcases Text.span_cases (· != '.') cs with
    ⟨hspan, hpoint⟩ | ⟨whole, c, rest, rfl, hwhole, hc, hspan⟩
  · have hdigits := isDigit_of_isNumberChar h hpoint
    have hmem : '.' ∉ cs := fun hm => absurd (hpoint '.' hm) (by decide)
    rw [isNumber, hspan]
    simp only [Bool.not_eq_true', List.isEmpty_eq_false_iff, Text.allDigits_iff]
    constructor
    · intro hne
      exact Or.inl ⟨hne, hdigits⟩
    · rintro (⟨hne, -⟩ | ⟨-, whole, rest, -, -, rfl⟩)
      · exact hne
      · simp at hmem
  · obtain rfl : c = '.' := by simpa using hc
    have hdigits : ∀ d ∈ whole, d.isDigit = true :=
      isDigit_of_isNumberChar (fun d hd => h d (by simp [hd])) hwhole
    have hnot : Text.allDigits (whole ++ '.' :: rest) = false := by
      rw [← Bool.not_eq_true, Text.allDigits_iff]
      rintro ⟨-, hall⟩
      exact absurd (hall '.' (by simp)) (by decide)
    rw [isNumber, hspan]
    simp only [Bool.and_eq_true, Bool.not_eq_true', List.isEmpty_eq_false_iff, hnot,
      Bool.false_eq_true, false_or]
    constructor
    · rintro ⟨⟨⟨hfraction, hne⟩, hrest⟩, hpoint⟩
      refine ⟨hfraction, whole, rest, Text.allDigits_iff.2 ⟨hne, hdigits⟩, ?_, rfl⟩
      refine Text.allDigits_iff.2 ⟨hrest, ?_⟩
      refine isDigit_of_isNumberChar (fun d hd => h d (by simp [hd])) fun d hd => ?_
      rw [bne_iff_ne]
      rintro rfl
      simp [hd] at hpoint
    · rintro ⟨hfraction, first, second, hfirst, hsecond, heq⟩
      obtain ⟨hne, hall⟩ := Text.allDigits_iff.1 hfirst
      obtain ⟨rfl, -, rfl⟩ := Text.append_cons_inj hwhole hc
        (fun d hd => ne_point_of_isDigit (hall d hd)) hc heq
      obtain ⟨hneRest, hallRest⟩ := Text.allDigits_iff.1 hsecond
      refine ⟨⟨⟨hfraction, hne⟩, hneRest⟩, ?_⟩
      rw [List.contains_eq_mem, decide_eq_false_iff_not]
      intro hm
      exact absurd (hallRest '.' hm) (by decide)

theorem valid_iff_isNumber {number : List Char} {unit : Char}
    (h : ∀ c ∈ number, isNumberChar c = true) :
    (⟨number, unit⟩ : Component).Valid ↔ isNumber (unit == 'S') number = true := by
  rw [isNumber_iff h, Component.Valid, beq_iff_eq]

theorem isNumberChar_of_valid {c : Component} (h : c.Valid) :
    ∀ d ∈ c.number, isNumberChar d = true := by
  intro d hd
  rw [isNumberChar_iff]
  rcases h with h | ⟨-, whole, fraction, hwhole, hfraction, heq⟩
  · exact Or.inl ((Text.allDigits_iff.1 h).2 d hd)
  · rw [heq, List.mem_append, List.mem_cons] at hd
    rcases hd with hd | rfl | hd
    · exact Or.inl ((Text.allDigits_iff.1 hwhole).2 d hd)
    · exact Or.inr rfl
    · exact Or.inl ((Text.allDigits_iff.1 hfraction).2 d hd)

/-! ## Components -/

/-- The first unit that fits leaves the most to come, so no other choice would get further. -/
theorem cons_sublist_iff {unit : Char} {later units : List Char} :
    (unit :: later).Sublist units ↔
      ∃ rest, unitsAfter unit units = some rest ∧ later.Sublist rest := by
  induction units with
  | nil => simp [unitsAfter]
  | cons u rest ih =>
    rw [unitsAfter]
    by_cases hu : u = unit
    · subst hu
      rw [if_pos rfl, List.cons_sublist_cons]
      simp
    · rw [if_neg hu, ← ih]
      constructor
      · intro h
        cases h with
        | cons _ h => exact h
        | cons_cons _ h => exact absurd rfl hu
      · intro h
        exact h.cons u

theorem unitsAfter_eq_some_iff {unit : Char} {units later : List Char} :
    unitsAfter unit units = some later ↔
      ∃ passed, unit ∉ passed ∧ units = passed ++ unit :: later := by
  induction units with
  | nil => simp [unitsAfter]
  | cons u rest ih =>
    rw [unitsAfter]
    by_cases hu : u = unit
    · subst hu
      rw [if_pos rfl, Option.some_inj]
      constructor
      · rintro rfl
        exact ⟨[], List.not_mem_nil, rfl⟩
      · rintro ⟨passed, hpassed, heq⟩
        cases passed with
        | nil => exact (List.cons.inj heq).2
        | cons v passed =>
          obtain ⟨rfl, -⟩ := List.cons.inj heq
          exact absurd List.mem_cons_self hpassed
    · rw [if_neg hu, ih]
      constructor
      · rintro ⟨passed, hpassed, rfl⟩
        refine ⟨u :: passed, ?_, rfl⟩
        rw [List.mem_cons, not_or]
        exact ⟨fun e => hu e.symm, hpassed⟩
      · rintro ⟨passed, hpassed, heq⟩
        cases passed with
        | nil => exact absurd (List.cons.inj heq).1 hu
        | cons v passed =>
          exact ⟨passed, fun hm => hpassed (List.mem_cons_of_mem v hm), (List.cons.inj heq).2⟩

theorem written_cons (c : Component) (parts : List Component) :
    written (c :: parts) = c.number ++ c.unit :: written parts := by
  simp [written]

theorem inOrder_cons {c : Component} {parts : List Component} {units : List Char} :
    InOrder units (c :: parts) ↔ c.Valid ∧
      ∃ later, unitsAfter c.unit units = some later ∧ InOrder later parts := by
  rw [InOrder, List.forall_mem_cons, List.map_cons, cons_sublist_iff]
  constructor
  · rintro ⟨⟨hc, hparts⟩, later, hlater, hsublist⟩
    exact ⟨hc, later, hlater, hparts, hsublist⟩
  · rintro ⟨hc, later, hlater, hparts, hsublist⟩
    exact ⟨⟨hc, hparts⟩, later, hlater, hsublist⟩

theorem subset_of_unitsAfter {unit : Char} {units later : List Char}
    (h : unitsAfter unit units = some later) : unit :: later ⊆ units :=
  (cons_sublist_iff.2 ⟨later, h, List.Sublist.refl later⟩).subset

theorem componentsFrom_nil_iff {reversed units : List Char} {parts : List Component} :
    componentsFrom reversed units [] = some parts ↔ reversed = [] ∧ parts = [] := by
  rw [componentsFrom]
  cases reversed <;> simp [eq_comm]

theorem componentsFrom_of_numberChar {reversed units rest : List Char} {c : Char}
    (h : isNumberChar c = true) :
    componentsFrom reversed units (c :: rest) = componentsFrom (c :: reversed) units rest := by
  rw [componentsFrom, if_pos h]

/-- A unit completes the component whose number was collected, or nothing is read. -/
theorem componentsFrom_of_unit_iff {reversed units rest : List Char} {c : Char}
    {parts : List Component} (h : isNumberChar c = false) :
    componentsFrom reversed units (c :: rest) = some parts ↔
      isNumber (c == 'S') reversed.reverse = true ∧ ∃ later, unitsAfter c units = some later ∧
        ∃ tail, componentsFrom [] later rest = some tail ∧
          parts = ⟨reversed.reverse, c⟩ :: tail := by
  rw [componentsFrom, if_neg (by simp [h])]
  cases unitsAfter c units with
  | none => simp
  | some later => cases isNumber (c == 'S') reversed.reverse <;> simp [@eq_comm _ parts]

theorem componentsFrom_eq_some_iff {reversed units cs : List Char} {parts : List Component}
    (hunits : ∀ u ∈ units, isNumberChar u = false)
    (hreversed : ∀ c ∈ reversed, isNumberChar c = true) :
    componentsFrom reversed units cs = some parts ↔
      InOrder units parts ∧ reversed.reverse ++ cs = written parts := by
  -- What was collected so far and what is left to read write the components together.
  induction cs generalizing reversed units parts with
  | nil =>
    rw [componentsFrom_nil_iff, List.append_nil]
    cases parts with
    | nil => simp [InOrder, written]
    | cons d parts =>
      refine iff_of_false (by simp) ?_
      -- The unit of a component is not among the characters that were collected.
      rintro ⟨horder, heq⟩
      obtain ⟨-, later, hlater, -⟩ := inOrder_cons.1 horder
      have hunit := hunits d.unit (subset_of_unitsAfter hlater List.mem_cons_self)
      have hmem : d.unit ∈ reversed.reverse := by simp [heq, written_cons]
      rw [hreversed d.unit (List.mem_reverse.1 hmem)] at hunit
      cases hunit
  | cons c rest ih =>
    cases hc : isNumberChar c with
    | true =>
      rw [componentsFrom_of_numberChar hc, ih hunits (List.forall_mem_cons.2 ⟨hc, hreversed⟩)]
      simp
    | false =>
      have hcollected : ∀ d ∈ reversed.reverse, isNumberChar d = true :=
        fun d hd => hreversed d (List.mem_reverse.1 hd)
      have hnone : ∀ d ∈ ([] : List Char), isNumberChar d = true := by simp
      have hlaterUnits : ∀ {unit later}, unitsAfter unit units = some later →
          ∀ u ∈ later, isNumberChar u = false := fun hlater u hu =>
        hunits u (subset_of_unitsAfter hlater (List.mem_cons_of_mem _ hu))
      rw [componentsFrom_of_unit_iff hc]
      constructor
      · rintro ⟨hnumber, later, hlater, tail, htail, rfl⟩
        obtain ⟨horder, heq⟩ := (ih (hlaterUnits hlater) hnone).1 htail
        have hvalid := (valid_iff_isNumber hcollected).2 hnumber
        refine ⟨inOrder_cons.2 ⟨hvalid, later, hlater, horder⟩, ?_⟩
        rw [written_cons, ← heq]
        rfl
      · rintro ⟨horder, heq⟩
        cases parts with
        | nil => simp [written] at heq
        | cons d parts =>
          obtain ⟨hvalid, later, hlater, horder⟩ := inOrder_cons.1 horder
          have hd := hunits d.unit (subset_of_unitsAfter hlater List.mem_cons_self)
          rw [written_cons] at heq
          obtain ⟨hnumber, rfl, rfl⟩ := Text.append_cons_inj hcollected hc
            (isNumberChar_of_valid hvalid) hd heq
          have htail := (ih (hlaterUnits hlater) hnone).2 ⟨horder, rfl⟩
          rw [hnumber]
          exact ⟨(valid_iff_isNumber (isNumberChar_of_valid hvalid)).1 hvalid, later, hlater, parts,
            htail, rfl⟩

theorem components_eq_some_iff {units cs : List Char} {parts : List Component}
    (hunits : ∀ u ∈ units, isNumberChar u = false) :
    components units cs = some parts ↔ InOrder units parts ∧ cs = written parts :=
  componentsFrom_eq_some_iff hunits (by simp)

/-! ## The two notations -/

theorem mem_written {units : List Char} {parts : List Component} (h : InOrder units parts)
    {c : Char} (hc : c ∈ written parts) : isNumberChar c = true ∨ c ∈ units := by
  rw [written, List.mem_flatMap] at hc
  obtain ⟨part, hpart, hc⟩ := hc
  rcases List.mem_append.1 hc with hc | hc
  · exact Or.inl (isNumberChar_of_valid (h.1 part hpart) c hc)
  · rw [List.mem_singleton.1 hc]
    exact Or.inr (h.2.subset (List.mem_map_of_mem hpart))

theorem Simple.ne_iso {d e : Duration} {cs : List Char} (h : Simple d cs) : cs ≠ e.iso := by
  intro heq
  have hhead : ∀ (digits rest : List Char), Text.allDigits digits = true →
      digits ++ rest ≠ e.iso := by
    intro digits rest hdigits heq
    obtain ⟨hne, hall⟩ := Text.allDigits_iff.1 hdigits
    cases digits with
    | nil => exact hne rfl
    | cons c digits =>
      obtain ⟨rfl, -⟩ := List.cons.inj heq
      exact absurd (hall 'P' List.mem_cons_self) (by decide)
  cases h with
  | days hdigits => exact hhead _ _ hdigits heq
  | clock hdigits => exact hhead _ _ hdigits heq

theorem ofSimple?_append (digits : List Char) (unit : Char) :
    ofSimple? (digits ++ [unit]) =
      if Text.allDigits digits then
        if unit = 'D' then some ⟨[⟨digits, unit⟩], []⟩
        else if unit = 'S' ∨ unit = 'M' ∨ unit = 'H' then some ⟨[], [⟨digits, unit⟩]⟩
        else none
      else none := by
  simp [ofSimple?]

theorem ofSimple?_eq_some_iff {d : Duration} {cs : List Char} :
    ofSimple? cs = some d ↔ Simple d cs := by
  constructor
  · intro h
    rcases List.eq_nil_or_concat cs with rfl | ⟨digits, unit, rfl⟩
    · simp [ofSimple?] at h
    · rw [List.concat_eq_append, ofSimple?_append] at h
      split at h
      · next hdigits =>
        split at h
        · next hunit =>
          rw [← Option.some.inj h, hunit, List.concat_eq_append]
          exact .days hdigits
        · split at h
          · next hunit =>
            rw [← Option.some.inj h, List.concat_eq_append]
            exact .clock hdigits hunit
          · cases h
      · cases h
  · intro h
    cases h with
    | days hdigits => rw [ofSimple?_append, if_pos hdigits, if_pos rfl]
    | clock hdigits hunit =>
      rw [ofSimple?_append, if_pos hdigits, if_neg, if_pos hunit]
      rcases hunit with rfl | rfl | rfl <;> decide

/-- What a body is read as once its parts are known. -/
theorem ofIso?_body {body : List Char} (hbody : 'T' ∉ body) :
    ofIso? ('P' :: body) = (components ['D'] body).bind fun date =>
      if date.isEmpty then none else some ⟨date, []⟩ := by
  have hspan : body.span (· != 'T') = (body, []) :=
    Text.span_of_all fun c hc => bne_iff_ne.2 fun h => hbody (h ▸ hc)
  simp only [ofIso?, splitTime, hspan]
  rfl

theorem ofIso?_append {date time : List Char} (hdate : 'T' ∉ date) :
    ofIso? ('P' :: (date ++ 'T' :: time)) = (components ['D'] date).bind fun days =>
      (components ['H', 'M', 'S'] time).bind fun clock =>
        if clock.isEmpty then none else some ⟨days, clock⟩ := by
  have hspan : (date ++ 'T' :: time).span (· != 'T') = (date, 'T' :: time) :=
    Text.span_append_cons (fun c hc => bne_iff_ne.2 fun h => hdate (h ▸ hc)) (by decide)
  simp only [ofIso?, splitTime, hspan]
  rfl

theorem components_date {cs : List Char} {parts : List Component} :
    components ['D'] cs = some parts ↔ InOrder ['D'] parts ∧ cs = written parts := by
  refine components_eq_some_iff fun u hu => ?_
  rw [List.mem_singleton.1 hu]
  decide

theorem components_time {cs : List Char} {parts : List Component} :
    components ['H', 'M', 'S'] cs = some parts ↔
      InOrder ['H', 'M', 'S'] parts ∧ cs = written parts := by
  refine components_eq_some_iff fun u hu => ?_
  simp only [List.mem_cons, List.not_mem_nil, or_false] at hu
  rcases hu with rfl | rfl | rfl <;> decide

theorem not_mem_written_date {parts : List Component} (h : InOrder ['D'] parts) :
    'T' ∉ written parts := by
  intro hmem
  rcases mem_written h hmem with hchar | hunit
  · exact absurd hchar (by decide)
  · exact absurd hunit (by decide)

theorem ofIso?_iso {d : Duration} (h : d.WellFormed) : ofIso? d.iso = some d := by
  obtain ⟨date, time⟩ := d
  obtain ⟨hdate, htime, hsome⟩ := h
  have hmark : 'T' ∉ written date := not_mem_written_date hdate
  have hdays := components_date.2 ⟨hdate, rfl⟩
  by_cases htimeNil : time = []
  · subst htimeNil
    have hne : date ≠ [] := hsome.resolve_right (by simp)
    rw [iso_of_date, ofIso?_body hmark, hdays, Option.bind_some, if_neg (by simpa using hne)]
  · rw [iso_of_time htimeNil, ofIso?_append hmark, hdays, Option.bind_some,
      components_time.2 ⟨htime, rfl⟩, Option.bind_some, if_neg (by simpa using htimeNil)]

theorem ofIso?_sound {d : Duration} {cs : List Char} (h : ofIso? cs = some d) :
    d.WellFormed ∧ cs = d.iso := by
  obtain ⟨body, rfl⟩ : ∃ body, cs = 'P' :: body := by
    unfold ofIso? at h
    split at h
    · next body => exact ⟨body, rfl⟩
    · cases h
  by_cases hbody : 'T' ∈ body
  · obtain ⟨dateText, timeText, rfl, hmark⟩ := List.eq_append_cons_of_mem hbody
    rw [ofIso?_append hmark] at h
    obtain ⟨date, hdate, hrest⟩ := Option.bind_eq_some_iff.1 h
    obtain ⟨time, htime, hd⟩ := Option.bind_eq_some_iff.1 hrest
    obtain ⟨hdateOrder, rfl⟩ := components_date.1 hdate
    obtain ⟨htimeOrder, rfl⟩ := components_time.1 htime
    by_cases hne : time = []
    · rw [if_pos (by simp [hne])] at hd
      cases hd
    · rw [if_neg (by simpa using hne)] at hd
      obtain rfl := Option.some.inj hd
      exact ⟨⟨hdateOrder, htimeOrder, Or.inr hne⟩, (iso_of_time hne).symm⟩
  · rw [ofIso?_body hbody] at h
    obtain ⟨date, hdate, hd⟩ := Option.bind_eq_some_iff.1 h
    obtain ⟨hdateOrder, rfl⟩ := components_date.1 hdate
    by_cases hne : date = []
    · rw [if_pos (by simp [hne])] at hd
      cases hd
    · rw [if_neg (by simpa using hne)] at hd
      obtain rfl := Option.some.inj hd
      exact ⟨⟨hdateOrder, by simp [InOrder], Or.inl hne⟩, (iso_of_date date).symm⟩

theorem ofIso?_eq_some_iff {d : Duration} {cs : List Char} :
    ofIso? cs = some d ↔ d.WellFormed ∧ cs = d.iso := by
  constructor
  · exact ofIso?_sound
  · rintro ⟨h, rfl⟩
    exact ofIso?_iso h

/-! ## Parsing -/

/-- A text with a sign in front. -/
def Signed (raw : String) : Prop := raw.toList.head? = some '+' ∨ raw.toList.head? = some '-'

/-- What a text is read as: the blanks around it and the case of ASCII letters do not matter. -/
def upper (raw : String) : List Char := (Text.trim raw).toList.map Char.toUpper

theorem parse_of_signed {raw : String} (h : Signed raw) : parse raw = .error .signedDuration := by
  rw [Signed, List.head?_eq_some_iff, List.head?_eq_some_iff] at h
  rcases h with ⟨rest, h⟩ | ⟨rest, h⟩ <;> simp only [parse, h]

theorem parse_of_not_signed {raw : String} (h : ¬ Signed raw) :
    parse raw =
      ((ofSimple? (upper raw)).or (ofIso? (upper raw))).elim (.error (.badDuration raw)) .ok := by
  rw [parse]
  split
  · next rest hraw => exact absurd (Or.inl (by rw [hraw]; rfl)) h
  · next rest hraw => exact absurd (Or.inr (by rw [hraw]; rfl)) h
  · dsimp only [upper]
    generalize (Text.trim raw).toList.map Char.toUpper = cs
    cases (ofSimple? cs).or (ofIso? cs) <;> rfl

theorem read_eq_some_iff {d : Duration} {cs : List Char} :
    (ofSimple? cs).or (ofIso? cs) = some d ↔ Writes d cs := by
  rw [Option.or_eq_some_iff, ofSimple?_eq_some_iff, ofIso?_eq_some_iff, Writes]
  constructor
  · rintro (h | ⟨-, h⟩)
    · exact Or.inl h
    · exact Or.inr h
  · rintro (h | h)
    · exact Or.inl h
    · refine Or.inr ⟨?_, h⟩
      cases hsimple : ofSimple? cs with
      | none => rfl
      | some e => exact absurd h.2 (ofSimple?_eq_some_iff.1 hsimple).ne_iso

theorem parse_eq_ok_iff {raw : String} {d : Duration} :
    parse raw = .ok d ↔ ¬ Signed raw ∧ Writes d (upper raw) := by
  by_cases hsigned : Signed raw
  · simp [parse_of_signed hsigned, hsigned]
  · rw [parse_of_not_signed hsigned, ← read_eq_some_iff]
    cases (ofSimple? (upper raw)).or (ofIso? (upper raw)) <;> simp [hsigned]

/-- Whichever notation a text is in, it writes days in front and then hours, minutes and
seconds. -/
theorem Writes.wellFormed {d : Duration} {cs : List Char} (h : Writes d cs) : d.WellFormed := by
  rcases h with h | ⟨hd, -⟩
  · cases h with
    | days hdigits => exact ⟨by simp [InOrder, Component.Valid, hdigits], by simp [InOrder], by simp⟩
    | clock hdigits hunit =>
      refine ⟨by simp [InOrder], ⟨by simp [Component.Valid, hdigits], ?_⟩, by simp⟩
      rw [List.map_singleton, List.singleton_sublist]
      rcases hunit with rfl | rfl | rfl <;> simp
  · exact hd

theorem Writes.unique {d e : Duration} {cs : List Char} (hd : Writes d cs) (he : Writes e cs) :
    d = e :=
  Option.some.inj ((read_eq_some_iff.2 hd).symm.trans (read_eq_some_iff.2 he))

theorem parse_of_not_writes {raw : String} (hsigned : ¬ Signed raw)
    (h : ∀ d, ¬ Writes d (upper raw)) : parse raw = .error (.badDuration raw) := by
  rw [parse_of_not_signed hsigned]
  cases hread : (ofSimple? (upper raw)).or (ofIso? (upper raw)) with
  | none => rfl
  | some d => exact absurd (read_eq_some_iff.1 hread) (h d)

end Duration
end RepairConsole
