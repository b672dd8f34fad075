import Mathlib.Data.List.Forall2
import Mathlib.Data.List.Nodup
import RepairConsole.Json.Record
/-!
# Values with parts left out

A record is described by an object that need not have all of its members. What it describes is
the record with the missing fields as they are in a blank one, at every level of nesting. Members
may stand in any order, and members of unknown names do not matter.
-/

namespace RepairConsole.Json

/-- A whole value, JSON for it with parts left out, and the value that is left. -/
abbrev Description (α : Type) : Type := α → Json → α → Prop

/-- A field as it is documented: its name, its place in a record, what it is if left out, and how
its value is described. -/
structure Slot (α : Type) where
  {β : Type}
  name : String
  get : α → β
  blank : β
  describe : Description β

/-! ## Descriptions -/

inductive Each {α : Type} (item : Description α) : List α → List Json → List α → Prop
  | nil : Each item [] [] []
  | cons {whole left : α} {json : Json} {wholes lefts : List α} {jsons : List Json}
    (h : item whole json left) (rest : Each item wholes jsons lefts) :
    Each item (whole :: wholes) (json :: jsons) (left :: lefts)

/-- The members of an object for a record. -/
structure Members {α : Type} (slots : List (Slot α)) (whole : α) (members : List (String × Json))
    (left : α) : Prop where
  once : ∀ slot ∈ slots, (members.map Prod.fst).count slot.name ≤ 1
  given : ∀ slot ∈ slots, ∀ json, (slot.name, json) ∈ members →
    slot.describe (slot.get whole) json (slot.get left)
  leftOut : ∀ slot ∈ slots, slot.name ∉ members.map Prod.fst → slot.get left = slot.blank

namespace Description

def text : Description String := fun whole json left => json = .text (some whole) ∧ left = whole

def truth : Description Bool := fun whole json left => json = .bool whole ∧ left = whole

/-- A whole number of 64 bits is written without a fraction and without an exponent. -/
def int : Description Int := fun whole json left =>
  (-0x8000000000000000 ≤ whole ∧ whole < 0x8000000000000000) ∧
    json = .number ⟨whole < 0, whole.natAbs, 0, 0, true⟩ ∧ left = whole

/-- A double is written as any numeral to which it is the nearest. -/
def float : Description Float := fun whole json left =>
  ∃ n : Decimal.Numeral, json = .number n ∧ n.toFloat? = some whole ∧ left = whole

def list {α : Type} (item : Description α) : Description (List α) := fun whole json left =>
  ∃ jsons, json = .array jsons ∧ Each item whole jsons left

/-- What is absent may be written as null, too. -/
def optional {α : Type} (value : Description α) : Description (Option α)
  | none, json, left => json = .null ∧ left = none
  | some whole, json, left => ∃ part, value whole json part ∧ left = some part

def record {α : Type} (slots : List (Slot α)) : Description α := fun whole json left =>
  ∃ members : List (String × Json),
    json = .object (members.map fun m => (some m.1, m.2)) ∧ Members slots whole members left

end Description

/-! ## Reading -/

/-- What is left is what is read. -/
def Reads {α : Type} (description : Description α) (read : Json → Option α) : Prop :=
  ∀ whole json left, description whole json left → read json = some left

theorem reads_text : Reads .text asText? := by
  rintro whole _ _ ⟨rfl, rfl⟩
  rfl

theorem reads_truth : Reads .truth asBool? := by
  rintro whole _ _ ⟨rfl, rfl⟩
  rfl

theorem reads_int : Reads .int asInt64? := by
  rintro _ _ whole ⟨hbounds, rfl, rfl⟩
  unfold asInt64? Decimal.Numeral.toInt64?
  by_cases hneg : whole < 0
  · have hmantissa : 0 < whole.natAbs ∧ whole.natAbs ≤ 0x8000000000000000 := by omega
    have hvalue : -(whole.natAbs : Int) = whole := by omega
    simp only [Bool.not_true, Bool.false_eq_true, decide_eq_true_eq, hneg, hmantissa, hvalue,
      and_self, if_true, if_false]
  · have hmantissa : whole.natAbs < 0x8000000000000000 := by omega
    have hvalue : (whole.natAbs : Int) = whole := by omega
    simp only [Bool.not_true, Bool.false_eq_true, decide_eq_true_eq, hneg, hmantissa, hvalue,
      if_true, if_false]

theorem reads_float : Reads .float asFloat? := by
  rintro whole _ _ ⟨n, rfl, hn, rfl⟩
  exact hn

section Containers

variable {α : Type} {description : Description α} {read : Json → Option α}

theorem Each.mapM (hread : Reads description read) {wholes lefts : List α} {jsons : List Json}
    (h : Each description wholes jsons lefts) : jsons.mapM read = some lefts := by
  induction h with
  | nil => rfl
  | cons h rest ih => simp [hread _ _ _ h, ih]

theorem Reads.list (hread : Reads description read) : Reads (.list description) (asList? read) := by
  rintro whole _ left ⟨jsons, rfl, heach⟩
  exact heach.mapM hread

theorem Reads.optional (hread : Reads description read)
    (hnull : ∀ whole left, ¬ description whole .null left) :
    Reads (.optional description) (asOptional? read) := by
  rintro (_ | whole) json left h
  · obtain ⟨rfl, rfl⟩ := h
    rfl
  · obtain ⟨part, hpart, rfl⟩ := h
    cases json with
    | null => exact absurd hpart (hnull whole part)
    | _ => simp [asOptional?, hread _ _ _ hpart]

end Containers

/-! ## Reading records -/

/-- A field reads what its slot describes, and touches no other slot. -/
structure Fits {α : Type} (slots : List (Slot α)) (field : Field α) (slot : Slot α) : Prop where
  name : field.name = slot.name
  put : ∀ whole json left, slot.describe whole json left → ∀ record, ∃ record',
    field.put json record = some record' ∧ slot.get record' = left ∧
      ∀ other ∈ slots, other.name ≠ slot.name → other.get record' = other.get record

/-- The fields are the slots of a record, and all that it consists of. -/
structure Matches {α : Type} (slots : List (Slot α)) (fields : List (Field α)) (blank : α) :
    Prop where
  fits : List.Forall₂ (Fits slots) fields slots
  distinct : (slots.map Slot.name).Nodup
  blank : ∀ slot ∈ slots, slot.get blank = slot.blank
  ext : ∀ record record', (∀ slot ∈ slots, slot.get record = slot.get record') → record = record'

theorem Fits.of {α β : Type} {slots : List (Slot α)} {name : String} {get : α → β} {blank : β}
    {description : Description β} {read : Json → Option β} {set : β → α → α}
    (hread : Reads description read) (hset : ∀ value record, get (set value record) = value)
    (hother : ∀ other ∈ slots, other.name ≠ name →
      ∀ value record, other.get (set value record) = other.get record) :
    Fits slots (.of name read set) ⟨name, get, blank, description⟩ := by
  refine ⟨rfl, fun whole json left h record => ⟨set left record, ?_, hset left record, ?_⟩⟩
  · simp [Field.of, hread _ _ _ h]
  · exact fun other hmem hname => hother other hmem hname left record

/-- A name is looked up among the fields as it would be among the slots. -/
theorem Fits.find? {α : Type} {slots part : List (Slot α)} {fields : List (Field α)}
    (h : List.Forall₂ (Fits slots) fields part) (name : String) :
    (fields.find? (·.name == name) = none ∧ ∀ slot ∈ part, slot.name ≠ name) ∨
      ∃ field, ∃ slot ∈ part, slot.name = name ∧ Fits slots field slot ∧
        fields.find? (·.name == name) = some field := by
  induction h with
  | nil => exact Or.inl ⟨rfl, nofun⟩
  | @cons field slot fields part hfits hrest ih =>
    by_cases hname : slot.name = name
    · refine Or.inr ⟨field, slot, List.mem_cons_self, hname, hfits, ?_⟩
      simp [hfits.name, hname]
    · have hskip : (field :: fields).find? (·.name == name) = fields.find? (·.name == name) := by
        simp [hfits.name, hname]
      rw [hskip]
      rcases ih with ⟨hnone, hothers⟩ | ⟨found, slot', hmem, hfound⟩
      · exact Or.inl ⟨hnone, List.forall_mem_cons.2 ⟨hname, hothers⟩⟩
      · exact Or.inr ⟨found, slot', List.mem_cons_of_mem slot hmem, hfound⟩

section Run

variable {α : Type} {slots : List (Slot α)} {whole left record : α} {seen : List String}
  {members : List (String × Json)}

/-- Part of the members have been read. Those that are still to come are not among the fields
`seen`, and what they do not give is in the record as it will be left. -/
structure Pending (slots : List (Slot α)) (whole left : α) (seen : List String) (record : α)
    (members : List (String × Json)) : Prop where
  once : ∀ slot ∈ slots, (members.map Prod.fst).count slot.name ≤ 1
  unseen : ∀ slot ∈ slots, slot.name ∈ seen → slot.name ∉ members.map Prod.fst
  given : ∀ slot ∈ slots, ∀ json, (slot.name, json) ∈ members →
    slot.describe (slot.get whole) json (slot.get left)
  held : ∀ slot ∈ slots, slot.name ∉ members.map Prod.fst → slot.get record = slot.get left

theorem Pending.once_tail {name : String} {json : Json}
    (h : Pending slots whole left seen record ((name, json) :: members)) :
    ∀ slot ∈ slots, (members.map Prod.fst).count slot.name ≤ 1 := by
  intro slot hslot
  have hcount := h.once slot hslot
  rw [List.map_cons] at hcount
  exact Nat.le_trans List.count_le_count_cons hcount

theorem Pending.pass {name : String} {json : Json}
    (h : Pending slots whole left seen record ((name, json) :: members))
    (hname : ∀ slot ∈ slots, slot.name ≠ name) : Pending slots whole left seen record members where
  once := h.once_tail
  unseen slot hslot hseen hmem := h.unseen slot hslot hseen (List.mem_cons_of_mem _ hmem)
  given slot hslot json hmem := h.given slot hslot json (List.mem_cons_of_mem _ hmem)
  held slot hslot hout := by
    refine h.held slot hslot ?_
    rw [List.map_cons, List.mem_cons, not_or]
    exact ⟨hname slot hslot, hout⟩

theorem Pending.put {slot : Slot α} {json : Json} {record' : α}
    (h : Pending slots whole left seen record ((slot.name, json) :: members))
    (hdistinct : (slots.map Slot.name).Nodup) (hslot : slot ∈ slots)
    (hget : slot.get record' = slot.get left)
    (hother : ∀ other ∈ slots, other.name ≠ slot.name → other.get record' = other.get record) :
    Pending slots whole left (slot.name :: seen) record' members where
  once := h.once_tail
  unseen other hmem hseen := by
    rcases List.mem_cons.1 hseen with heq | hseen
    · have hcount := h.once slot hslot
      rw [List.map_cons, List.count_cons_self] at hcount
      rw [heq, ← List.count_eq_zero]
      omega
    · exact fun hlater => h.unseen other hmem hseen (List.mem_cons_of_mem _ hlater)
  given other hmem json hlater := h.given other hmem json (List.mem_cons_of_mem _ hlater)
  held other hmem hout := by
    by_cases heq : other.name = slot.name
    · rw [List.inj_on_of_nodup_map hdistinct hmem hslot heq]
      exact hget
    · rw [hother other hmem heq]
      refine h.held other hmem ?_
      rw [List.map_cons, List.mem_cons, not_or]
      exact ⟨heq, hout⟩

theorem Pending.putMembers {fields : List (Field α)} {blank : α} (hfields : Matches slots fields blank)
    (h : Pending slots whole left seen record members) :
    Json.putMembers fields seen record (members.map fun m => (some m.1, m.2)) = some left := by
  induction members generalizing seen record with
  | nil =>
    rw [hfields.ext record left fun slot hslot => h.held slot hslot List.not_mem_nil]
    rfl
  | cons member members ih =>
    obtain ⟨name, json⟩ := member
    rcases Fits.find? hfields.fits name with
      ⟨hnone, hunknown⟩ | ⟨field, slot, hslot, rfl, hfits, hfind⟩
    · have hrest := ih (h.pass hunknown)
      simpa [Json.putMembers, hnone] using hrest
    · obtain ⟨record', hput, hget, hother⟩ :=
        hfits.put _ _ _ (h.given slot hslot json List.mem_cons_self) record
      have hnew : slot.name ∉ seen := fun hseen => h.unseen slot hslot hseen List.mem_cons_self
      have hrest := ih (h.put hfields.distinct hslot hget hother)
      simpa [Json.putMembers, hfind, hnew, hput] using hrest

theorem Matches.reads {fields : List (Field α)} {blank : α} (h : Matches slots fields blank) :
    Reads (.record slots) (asRecord? fields blank) := by
  rintro whole _ left ⟨members, rfl, hmembers⟩
  have hpending : Pending slots whole left [] blank members :=
    { once := hmembers.once
      unseen := fun _ _ hseen => absurd hseen List.not_mem_nil
      given := hmembers.given
      held := fun slot hslot hout => by
        rw [h.blank slot hslot, hmembers.leftOut slot hslot hout] }
  exact hpending.putMembers h

end Run
end RepairConsole.Json
