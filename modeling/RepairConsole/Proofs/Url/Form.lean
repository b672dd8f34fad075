import RepairConsole.Proofs.Reading
import RepairConsole.Proofs.Text.Cut
import RepairConsole.Proofs.Text.Split
import RepairConsole.Proofs.Url.Percent
/-!
# Reading a query

A query is cut at `&` into parameters and each of them at its first `=`. That gives back the
parameters that were written, whatever their names and values are made of.
-/

namespace RepairConsole.Url

/-- The name and the value that a part of a query writes; without an `=` there is only a name. -/
def parameter? (part : List Char) : Option (String × String) :=
  match part.span (· != '=') with
  | (name, []) => (formText? name).map (·, "")
  | (name, _ :: value) => do return (← formText? name, ← formText? value)

/-- The parameters that a query writes. -/
def readQuery? (query : List Char) : Option (List (String × String)) :=
  (Text.splitAt '&' query).mapM parameter?

/-- A parameter as it is written. -/
def encodeParameter (parameter : String × String) : List Char :=
  encodeForm parameter.1.toList ++ '=' :: encodeForm parameter.2.toList

theorem parameter?_encodeParameter (p : String × String) :
    parameter? (encodeParameter p) = some p := by
  have hname : ∀ c ∈ encodeForm p.1.toList, (c != '=') = true := by
    intro c hc
    rw [bne_iff_ne]
    rintro rfl
    exact absurd (inForm_of_mem hc) (by decide)
  rw [parameter?, encodeParameter, Text.span_append_cons hname (by decide)]
  dsimp only
  rw [formText?_encodeForm, formText?_encodeForm, String.ofList_toList, String.ofList_toList]
  rfl

theorem mem_encodeParameter {p : String × String} {c : Char} (h : c ∈ encodeParameter p) :
    c = '=' ∨ InForm c := by
  rw [encodeParameter, List.mem_append, List.mem_cons] at h
  rcases h with h | rfl | h
  · exact Or.inr (inForm_of_mem h)
  · exact Or.inl rfl
  · exact Or.inr (inForm_of_mem h)

theorem encodeQuery_eq (parameters : List (String × String)) :
    encodeQuery parameters = Text.joinWith '&' (parameters.map encodeParameter) := by
  rw [Text.joinWith_eq_intercalate]
  rfl

theorem mem_encodeQuery {parameters : List (String × String)} {c : Char}
    (h : c ∈ encodeQuery parameters) : c ∈ ['&', '='] ∨ InForm c := by
  rw [encodeQuery_eq] at h
  rcases Text.mem_joinWith h with rfl | ⟨part, hpart, hmem⟩
  · exact Or.inl (by decide)
  · obtain ⟨p, -, rfl⟩ := List.mem_map.1 hpart
    rcases mem_encodeParameter hmem with rfl | hform
    · exact Or.inl (by decide)
    · exact Or.inr hform

theorem readQuery?_encodeQuery {parameters : List (String × String)} (h : parameters ≠ []) :
    readQuery? (encodeQuery parameters) = some parameters := by
  have hparts : Text.splitAt '&' (encodeQuery parameters) = parameters.map encodeParameter := by
    rw [encodeQuery_eq]
    refine Text.splitAt_joinWith (by simpa using h) fun part hpart => ?_
    obtain ⟨p, -, rfl⟩ := List.mem_map.1 hpart
    exact fun hmark => absurd (mem_encodeParameter hmark) (by decide)
  rw [readQuery?, hparts, mapM_map_of_inverse parameter?_encodeParameter]

end RepairConsole.Url
