import RepairConsole.Proofs.Text.Trim
import RepairConsole.Proofs.Text.Utf8
import RepairConsole.Supervisor.PidFile
/-!
# What a pid file says

A file names a process on its first line and nowhere else: blanks, a plus sign and leading zeros are
let pass there, a number that no process can have is not. What is written to a file is read back.
-/

namespace RepairConsole

namespace PidFile

theorem unsigned_of_isDigit {cs : List Char} (h : ∀ c ∈ cs, c.isDigit = true) :
    unsigned cs = cs := by
  unfold unsigned
  split
  · next digits =>
    have hplus := h '+' List.mem_cons_self
    exact absurd hplus (by decide)
  · rfl

theorem read?_text {pid : Nat} (hpos : 0 < pid) (hle : pid ≤ greatestPid) :
    read? (text pid) = some pid := by
  rw [read?, text, Text.firstLine_repr, Text.trim_repr,
    unsigned_of_isDigit fun _ hc => Text.isDigit_of_mem_repr hc, Text.readDigits?_repr]
  simp [hpos, hle]

theorem toUTF8_text_injective {p q : Nat} (h : (text p).toUTF8 = (text q).toUTF8) : p = q := by
  have htext : SystemError.textOf (text p).toUTF8 = SystemError.textOf (text q).toUTF8 := by rw [h]
  rw [SystemError.textOf_toUTF8, SystemError.textOf_toUTF8] at htext
  exact Text.repr_injective (Except.ok.inj htext)

/-! ## What is read -/

/-- The characters are a number in digits, of which there may be any number, with a plus sign in
front or without. -/
inductive Writes (pid : Nat) : List Char → Prop
  | plain {digits : List Char} (some : digits ≠ []) (digit : ∀ c ∈ digits, c.isDigit = true)
    (value : Nat.ofDigitChars 10 digits 0 = pid) : Writes pid digits
  | plus {digits : List Char} (some : digits ≠ []) (digit : ∀ c ∈ digits, c.isDigit = true)
    (value : Nat.ofDigitChars 10 digits 0 = pid) : Writes pid ('+' :: digits)

/-- The first line of a text is the number of a process, but for blanks around it. -/
def Names (contents : String) (pid : Nat) : Prop :=
  (∃ line before number after, Text.FirstLine contents.toList line ∧
    line = before ++ (number ++ after) ∧ Text.AllBlank before ∧ Text.AllBlank after ∧
    Writes pid number) ∧ 1 ≤ pid ∧ pid ≤ 2147483647

/-- The bytes of a file are text, and the text names the process. -/
def Records (bytes : ByteArray) (pid : Nat) : Prop :=
  ∃ contents : String, bytes = contents.toUTF8 ∧ Names contents pid

theorem Writes.isBlank {pid : Nat} {number : List Char} (h : Writes pid number) :
    ∀ c ∈ number, Text.isBlank c = false := by
  intro c hc
  cases h with
  | plain some digit value => exact Text.isBlank_of_isDigit (digit c hc)
  | plus some digit value =>
    rcases List.mem_cons.1 hc with rfl | hc
    · rfl
    · exact Text.isBlank_of_isDigit (digit c hc)

theorem readDigits?_unsigned {number : List Char} {pid : Nat} :
    Text.readDigits? (unsigned number) = some pid ↔ Writes pid number := by
  rw [Text.readDigits?_eq_some_iff]
  constructor
  · rintro ⟨⟨hne, hdigit⟩, hvalue⟩
    generalize hdigits : unsigned number = digits at hne hdigit hvalue
    unfold unsigned at hdigits
    split at hdigits
    · subst hdigits
      exact .plus hne hdigit hvalue
    · subst hdigits
      exact .plain hne hdigit hvalue
  · intro h
    cases h with
    | plain some digit value =>
      rw [unsigned_of_isDigit digit]
      exact ⟨⟨some, digit⟩, value⟩
    | plus some digit value => exact ⟨⟨some, digit⟩, value⟩

theorem read?_eq_some_iff {contents : String} {pid : Nat} :
    read? contents = some pid ↔ Names contents pid := by
  have hread : read? contents = some pid ↔
      Writes pid (Text.trim (Text.firstLine contents)).toList ∧ 1 ≤ pid ∧ pid ≤ 2147483647 := by
    rw [read?, Option.filter_eq_some_iff, readDigits?_unsigned, decide_eq_true_iff]
    rfl
  rw [hread]
  refine and_congr_left fun _ => ?_
  constructor
  · intro hwrites
    obtain ⟨line, hfirst⟩ := Text.exists_firstLine contents.toList
    obtain ⟨before, after, hline, hbefore, hafter⟩ := Text.exists_trim (Text.firstLine contents)
    refine ⟨line, before, _, after, hfirst, ?_, hbefore, hafter, hwrites⟩
    rw [← hline, hfirst.firstLine_eq, String.toList_ofList]
  · rintro ⟨line, before, number, after, hfirst, rfl, hbefore, hafter, hwrites⟩
    rw [hfirst.firstLine_eq, Text.trim_append hbefore hwrites.isBlank hafter,
      String.toList_ofList]
    exact hwrites

theorem records_iff {bytes : ByteArray} {pid : Nat} :
    (SystemError.textOf bytes).toOption.bind read? = some pid ↔ Records bytes pid := by
  rw [Option.bind_eq_some_iff]
  constructor
  · rintro ⟨contents, htext, hread⟩
    cases hbytes : SystemError.textOf bytes with
    | error error =>
      rw [hbytes] at htext
      cases htext
    | ok text =>
      rw [hbytes] at htext
      obtain rfl := Option.some.inj htext
      exact ⟨text, SystemError.textOf_eq_ok_iff.1 hbytes, read?_eq_some_iff.1 hread⟩
  · rintro ⟨contents, rfl, hnames⟩
    exact ⟨contents, by rw [SystemError.textOf_toUTF8]; rfl, read?_eq_some_iff.2 hnames⟩

end PidFile
end RepairConsole
