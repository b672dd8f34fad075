import Mathlib.Data.Char
import RepairConsole.Json.Token
/-!
# Strings between their quotes

A string writes UTF-16 units: a character stands for its own, an escape for one. It is a text if
the units are those of a text, and what the reader makes of it is that text.
-/

namespace RepairConsole.Json

/-- The UTF-16 units of a character. -/
def units (c : Char) : List Nat :=
  if c.toNat < 0x10000 then [c.toNat]
  else [0xD800 + (c.toNat - 0x10000) / 0x400, 0xDC00 + (c.toNat - 0x10000) % 0x400]

def utf16 (cs : List Char) : List Nat := cs.flatMap units

/-- The escapes of one letter, and what each stands for. -/
def shortEscapes : List (Char × Char) :=
  [ ('"', '"'), ('\\', '\\'), ('/', '/'), ('b', '\x08'), ('f', '\x0c'), ('n', '\n'), ('r', '\r'),
    ('t', '\t') ]

/-- A hexadecimal digit, of either case, and its value. -/
def IsHex (c : Char) (n : Nat) : Prop :=
  (n < 10 ∧ c.toNat = 48 + n) ∨ (10 ≤ n ∧ n < 16 ∧ (c.toNat = 55 + n ∨ c.toNat = 87 + n))

instance (c : Char) (n : Nat) : Decidable (IsHex c n) := inferInstanceAs (Decidable (_ ∨ _))

/-- Units, and characters between quotes that write them. -/
inductive Spells : List Nat → List Char → Prop
  | nil : Spells [] []
  | plain {c : Char} {us : List Nat} {cs : List Char} (hc : 0x20 ≤ c.toNat ∧ c ≠ '"' ∧ c ≠ '\\')
    (rest : Spells us cs) : Spells (units c ++ us) (c :: cs)
  | short {letter c : Char} {us : List Nat} {cs : List Char} (hc : (letter, c) ∈ shortEscapes)
    (rest : Spells us cs) : Spells (c.toNat :: us) ('\\' :: letter :: cs)
  | unit {a b c d : Char} {i j k l : Nat} {us : List Nat} {cs : List Char} (ha : IsHex a i)
    (hb : IsHex b j) (hc : IsHex c k) (hd : IsHex d l) (rest : Spells us cs) :
    Spells ((16 * (16 * (16 * i + j) + k) + l) :: us) ('\\' :: 'u' :: a :: b :: c :: d :: cs)

/-! ## Units one by one -/

theorem toNat_cases (c : Char) : c.toNat < 0xD800 ∨ (0xE000 ≤ c.toNat ∧ c.toNat < 0x110000) := by
  have hvalid := c.valid
  unfold UInt32.isValidChar Nat.isValidChar at hvalid
  change c.toNat < 0xD800 ∨ (0xDFFF < c.toNat ∧ c.toNat < 0x110000) at hvalid
  omega

theorem toNat_ofNat {n : Nat} (h : n < 0xD800 ∨ (0xE000 ≤ n ∧ n < 0x110000)) :
    (Char.ofNat n).toNat = n := by
  have hvalid : n.isValidChar := by
    unfold Nat.isValidChar
    omega
  rw [Char.ofNat, dif_pos hvalid]
  rfl

namespace Quoted

theorem pushUnit_high {q : Quoted} {unit : Nat} (hq : q.high = none)
    (h : 0xD800 ≤ unit ∧ unit < 0xDC00) : q.pushUnit unit = ⟨q.read, some unit⟩ := by
  have hother : ¬ (unit < 0xD800 ∨ 0xE000 ≤ unit) := by omega
  simp [pushUnit, hq, hother, h.2]

theorem pushUnit_low {q : Quoted} {high unit : Nat} (hq : q.high = some high)
    (h : 0xDC00 ≤ unit ∧ unit < 0xE000) : q.pushUnit unit =
      ⟨q.read.map (·.push (Char.ofNat (0x10000 + (high - 0xD800) * 0x400 + (unit - 0xDC00)))),
        none⟩ := by
  simp [pushUnit, hq, h]

theorem pushUnit_lone_low {q : Quoted} {unit : Nat} (hq : q.high = none)
    (h : 0xDC00 ≤ unit ∧ unit < 0xE000) : q.pushUnit unit = ⟨none, none⟩ := by
  have hother : ¬ (unit < 0xD800 ∨ 0xE000 ≤ unit) := by omega
  have hlow : ¬ unit < 0xDC00 := by omega
  simp [pushUnit, hq, hother, hlow]

theorem pushUnit_after_high {q : Quoted} {high unit : Nat} (hq : q.high = some high)
    (h : ¬ (0xDC00 ≤ unit ∧ unit < 0xE000)) : q.pushUnit unit = ⟨none, none⟩ := by
  simp [pushUnit, hq, h]

theorem pushUnit_other {q : Quoted} {unit : Nat} (hq : q.high = none)
    (h : unit < 0xD800 ∨ 0xE000 ≤ unit) :
    q.pushUnit unit = ⟨q.read.map (·.push (Char.ofNat unit)), none⟩ := by
  simp [pushUnit, hq, h]

/-- To push a character is to push its units. -/
theorem foldl_units (q : Quoted) (c : Char) : (units c).foldl pushUnit q = q.push c := by
  have hc := toNat_cases c
  unfold units
  split
  · have hother : c.toNat < 0xD800 ∨ 0xE000 ≤ c.toNat := by omega
    rw [List.foldl_cons, List.foldl_nil]
    cases hq : q.high with
    | none => simp [pushUnit_other hq hother, push, hq, Char.ofNat_toNat]
    | some high =>
      rw [pushUnit_after_high hq (by omega)]
      simp [push, hq]
  · rw [List.foldl_cons, List.foldl_cons, List.foldl_nil]
    generalize hhigh : 0xD800 + (c.toNat - 0x10000) / 0x400 = high
    generalize hlow : 0xDC00 + (c.toNat - 0x10000) % 0x400 = low
    cases hq : q.high with
    | none =>
      have hchar : 0x10000 + (high - 0xD800) * 0x400 + (low - 0xDC00) = c.toNat := by omega
      rw [pushUnit_high hq (by omega), pushUnit_low rfl (by omega), hchar, Char.ofNat_toNat]
      simp [push, hq]
    | some before =>
      rw [pushUnit_after_high hq (by omega), pushUnit_lone_low rfl (by omega)]
      simp [push, hq]

/-- The units of a text are read as the text. -/
theorem foldl_utf16 (cs : List Char) (s : String) :
    (utf16 cs).foldl pushUnit ⟨some s, none⟩ = ⟨some (s ++ String.ofList cs), none⟩ := by
  induction cs generalizing s with
  | nil => simp [utf16]
  | cons c cs ih =>
    have hpush : (units c).foldl pushUnit ⟨some s, none⟩ = ⟨some (s.push c), none⟩ := by
      rw [foldl_units]
      simp [push]
    have hcs := ih (s.push c)
    unfold utf16 at hcs ⊢
    rw [List.flatMap_cons, List.foldl_append, hpush, hcs]
    congr 2
    rw [← String.toList_inj]
    simp

/-- What was read so far is a text, and perhaps half of a pair, with these units. -/
def Covers (q : Quoted) (us : List Nat) : Prop :=
  (∀ high, q.high = some high → 0xD800 ≤ high ∧ high < 0xDC00) ∧
    ∀ s, q.read = some s → utf16 s.toList ++ q.high.toList = us

theorem utf16_push (s : String) (c : Char) :
    utf16 (s.push c).toList = utf16 s.toList ++ units c := by
  simp [utf16]

theorem Covers.pushUnit {q : Quoted} {us : List Nat} (h : q.Covers us) {unit : Nat}
    (hunit : unit < 0x10000) : (q.pushUnit unit).Covers (us ++ [unit]) := by
  obtain ⟨hhigh, hread⟩ := h
  have hnone : (⟨none, none⟩ : Quoted).Covers (us ++ [unit]) := ⟨nofun, nofun⟩
  cases hq : q.high with
  | some high =>
    rw [hq] at hread
    have hbounds := hhigh high hq
    by_cases hlow : 0xDC00 ≤ unit ∧ unit < 0xE000
    · rw [pushUnit_low hq hlow]
      refine ⟨nofun, fun s hs => ?_⟩
      obtain ⟨r, hr, rfl⟩ := Option.map_eq_some_iff.1 hs
      obtain ⟨point, hpoint⟩ : ∃ n, 0x10000 + (high - 0xD800) * 0x400 + (unit - 0xDC00) = n :=
        ⟨_, rfl⟩
      have hchar : (Char.ofNat point).toNat = point := toNat_ofNat (by omega)
      have hlead : 0xD800 + (point - 0x10000) / 0x400 = high := by omega
      have htrail : 0xDC00 + (point - 0x10000) % 0x400 = unit := by omega
      have hpair : units (Char.ofNat point) = [high, unit] := by
        rw [units, hchar, if_neg (by omega), hlead, htrail]
      rw [hpoint, utf16_push, hpair, ← hread r hr]
      simp
    · rw [pushUnit_after_high hq hlow]
      exact hnone
  | none =>
    rw [hq] at hread
    by_cases hother : unit < 0xD800 ∨ 0xE000 ≤ unit
    · rw [pushUnit_other hq hother]
      refine ⟨nofun, fun s hs => ?_⟩
      obtain ⟨r, hr, rfl⟩ := Option.map_eq_some_iff.1 hs
      have hchar : (Char.ofNat unit).toNat = unit := toNat_ofNat (by omega)
      have hone : units (Char.ofNat unit) = [unit] := by rw [units, hchar, if_pos hunit]
      rw [utf16_push, hone, ← hread r hr]
      simp
    · by_cases hhalf : unit < 0xDC00
      · rw [pushUnit_high hq (by omega)]
        refine ⟨fun high h => ?_, fun s hs => ?_⟩
        · obtain rfl := Option.some.inj h
          omega
        · rw [← hread s hs]
          simp
      · rw [pushUnit_lone_low hq (by omega)]
        exact hnone

theorem Covers.foldl {q : Quoted} {front us : List Nat} (h : q.Covers front)
    (hus : ∀ unit ∈ us, unit < 0x10000) : (us.foldl Quoted.pushUnit q).Covers (front ++ us) := by
  induction us generalizing q front with
  | nil => simpa using h
  | cons unit us ih =>
    obtain ⟨hunit, hrest⟩ := List.forall_mem_cons.1 hus
    have hstep := ih (h.pushUnit hunit) hrest
    rwa [List.append_assoc] at hstep

/-- What is read of units is the text whose units they are, if there is one. -/
theorem close_eq_some_iff {us : List Nat} (hus : ∀ unit ∈ us, unit < 0x10000) {s : String} :
    (us.foldl pushUnit start).close = some s ↔ utf16 s.toList = us := by
  constructor
  · intro hclose
    have hcovers : (us.foldl pushUnit start).Covers ([] ++ us) :=
      Covers.foldl ⟨nofun, fun s hs => by obtain rfl := Option.some.inj hs; rfl⟩ hus
    generalize us.foldl pushUnit start = q at hclose hcovers
    unfold close at hclose
    split at hclose
    · nomatch hclose
    · next hhigh =>
      have hunits := hcovers.2 s hclose
      rw [Option.not_isSome_iff_eq_none.1 hhigh] at hunits
      simpa using hunits
  · rintro rfl
    have hread := foldl_utf16 s.toList ""
    rw [start, hread]
    simp [close]

end Quoted

theorem utf16_injective {cs ds : List Char} (h : utf16 cs = utf16 ds) : cs = ds := by
  have hcs := Quoted.foldl_utf16 cs ""
  rw [h, Quoted.foldl_utf16 ds ""] at hcs
  have hstrings : String.ofList ds = String.ofList cs := by simpa using hcs
  exact (String.ofList_inj.1 hstrings).symm

/-- A text without quotes, backslashes and control characters writes itself. -/
theorem Spells.ofPlain {cs : List Char} (h : ∀ c ∈ cs, 0x20 ≤ c.toNat ∧ c ≠ '"' ∧ c ≠ '\\') :
    Spells (utf16 cs) cs := by
  induction cs with
  | nil => exact .nil
  | cons c cs ih =>
    obtain ⟨hc, hcs⟩ := List.forall_mem_cons.1 h
    exact .plain hc (ih hcs)

/-! ## The lexer between two quotes -/

theorem hexValue?_of_isHex {c : Char} {n : Nat} (h : IsHex c n) : hexValue? c = some n := by
  unfold IsHex at h
  unfold hexValue?
  dsimp only
  split
  · congr 1
    omega
  · split
    · congr 1
      omega
    · split
      · congr 1
        omega
      · omega

theorem IsHex.lt {c : Char} {n : Nat} (h : IsHex c n) : n < 16 := by
  unfold IsHex at h
  omega

theorem Spells.unit_lt {us : List Nat} {cs : List Char} (h : Spells us cs) :
    ∀ unit ∈ us, unit < 0x10000 := by
  induction h with
  | nil => nofun
  | @plain c us cs hc rest ih =>
    intro unit hunit
    rcases List.mem_append.1 hunit with hunit | hunit
    · have hbounds := toNat_cases c
      unfold units at hunit
      split at hunit
      · rw [List.mem_singleton.1 hunit]
        assumption
      · simp only [List.mem_cons, List.not_mem_nil, or_false] at hunit
        omega
    · exact ih unit hunit
  | short hc rest ih =>
    have hshort : ∀ p ∈ shortEscapes, p.2.toNat < 0x10000 := by decide
    exact List.forall_mem_cons.2 ⟨hshort _ hc, ih⟩
  | unit ha hb hc hd rest ih =>
    have hi := ha.lt
    have hj := hb.lt
    have hk := hc.lt
    have hl := hd.lt
    exact List.forall_mem_cons.2 ⟨by omega, ih⟩

/-- A string's characters push its units, and the string goes on. -/
theorem Lexer.foldlM_spells {us : List Nat} {cs : List Char} (h : Spells us cs)
    (done : List Token) (q : Quoted) :
    cs.foldlM Lexer.step ⟨done, .quoted q⟩ = some ⟨done, .quoted (us.foldl Quoted.pushUnit q)⟩ := by
  induction h generalizing q with
  | nil => rfl
  | @plain c us cs hc rest ih =>
    have hstep : Lexer.step ⟨done, .quoted q⟩ c = some ⟨done, .quoted (q.push c)⟩ := by
      have hlow : ¬ c.toNat < 0x20 := Nat.not_lt.2 hc.1
      simp [Lexer.step, hc.2.1, hc.2.2, hlow]
    rw [List.foldlM_cons, hstep, List.foldl_append, Quoted.foldl_units]
    exact ih (q.push c)
  | @short letter c us cs hc rest ih =>
    have hletters : ∀ p ∈ shortEscapes,
        p.1 ≠ 'u' ∧ escaped? p.1 = some p.2 ∧ units p.2 = [p.2.toNat] := by decide
    obtain ⟨hu, hescaped, hunits⟩ := hletters _ hc
    have hpush : q.pushUnit c.toNat = q.push c := by
      rw [← Quoted.foldl_units, hunits]
      rfl
    have hback : Lexer.step ⟨done, .quoted q⟩ '\\' = some ⟨done, .escape q⟩ := by simp [Lexer.step]
    have hletter : Lexer.step ⟨done, .escape q⟩ letter = some ⟨done, .quoted (q.push c)⟩ := by
      simp [Lexer.step, hu, hescaped]
    rw [List.foldlM_cons, hback, Option.bind_eq_bind, Option.bind_some, List.foldlM_cons, hletter,
      List.foldl_cons, hpush]
    exact ih (q.push c)
  | @unit a b c d i j k l us cs ha hb hc hd rest ih =>
    simp only [List.foldlM_cons, Lexer.step, Option.bind_eq_bind]
    simp [hexValue?_of_isHex ha, hexValue?_of_isHex hb, hexValue?_of_isHex hc,
      hexValue?_of_isHex hd, ih]

end RepairConsole.Json
