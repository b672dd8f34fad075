import RepairConsole.Proofs.Text.Cut
import RepairConsole.Proofs.Url.Form
import RepairConsole.Remote.Call
/-!
# Taking a target apart

The path of a target ends at the first question mark, and its segments stand between slashes. No
segment holds either of the two, so that a target is taken apart into just what it was made of.
-/

namespace RepairConsole

/-- The path of a target. -/
def pathOf (target : List Char) : List Char := (target.span (· != '?')).1

/-- The query of a target, if it has one. -/
def queryOf? (target : List Char) : Option (List Char) :=
  match (target.span (· != '?')).2 with
  | [] => none
  | _ :: query => some query

/-- Segments with a slash in front of each. -/
def pathChars (segments : List (List Char)) : List Char := segments.flatMap ('/' :: ·)

namespace Call

open Url

/-! ## Segments -/

/-- What holds of an empty segment, and of every text that is written and does not come out as dots,
holds of all segments of a path. -/
theorem forall_mem_addSegment {P : List Char → Prop} (hnil : P [])
    (hwritten : ∀ cs, encodeSegment cs ≠ ['.'] → encodeSegment cs ≠ ['.', '.'] →
      P (encodeSegment cs))
    {path : List (List Char)} (segment : String) (h : ∀ part ∈ path, P part) :
    ∀ part ∈ addSegment path segment, P part := by
  unfold addSegment
  dsimp only
  split
  · exact h
  · split
    · exact List.forall_mem_cons.2 ⟨hnil, h⟩
    · next hdot =>
      split
      · refine List.forall_mem_cons.2 ⟨hnil, fun part hpart => h part ?_⟩
        unfold goUp at hpart
        split at hpart
        · exact hpart
        · split at hpart
          · exact hpart
          · exact List.mem_cons_of_mem _ hpart
      · next hdots => exact List.forall_mem_cons.2 ⟨hwritten _ hdot hdots, h⟩

theorem forall_mem_segments {P : List Char → Prop} (hnil : P [])
    (hwritten : ∀ cs, encodeSegment cs ≠ ['.'] → encodeSegment cs ≠ ['.', '.'] →
      P (encodeSegment cs))
    (c : Call) : ∀ part ∈ c.segments, P part := by
  have hfold : ∀ (names : List String) (path : List (List Char)), (∀ part ∈ path, P part) →
      ∀ part ∈ names.foldl addSegment path, P part := by
    intro names
    induction names with
    | nil => exact fun _ h => h
    | cons name names ih =>
      exact fun path h => ih _ (forall_mem_addSegment hnil hwritten name h)
  intro part hpart
  exact hfold _ [] nofun part (List.mem_reverse.1 hpart)

theorem inSegment_of_segments (c : Call) : ∀ part ∈ c.segments, ∀ ch ∈ part, InSegment ch :=
  c.forall_mem_segments nofun fun _ _ _ _ => inSegment_of_mem

theorem mem_pathChars {segments : List (List Char)} {ch : Char} (h : ch ∈ pathChars segments) :
    ch = '/' ∨ ∃ part ∈ segments, ch ∈ part := by
  obtain ⟨part, hpart, hch⟩ := List.mem_flatMap.1 h
  rcases List.mem_cons.1 hch with rfl | hch
  · exact Or.inl rfl
  · exact Or.inr ⟨part, hpart, hch⟩

theorem splitAt_pathChars {segments : List (List Char)} (h : ∀ part ∈ segments, '/' ∉ part) :
    Text.splitAt '/' (pathChars segments) = [] :: segments := by
  have happend : ∀ (segments : List (List Char)) (front : List Char), '/' ∉ front →
      (∀ part ∈ segments, '/' ∉ part) →
      Text.splitAt '/' (front ++ pathChars segments) = front :: segments := by
    intro segments
    induction segments with
    | nil =>
      intro front hfront _
      rw [pathChars, List.flatMap_nil, List.append_nil, Text.splitAt_of_not_mem hfront]
    | cons part rest ih =>
      intro front hfront hparts
      obtain ⟨hpart, hrest⟩ := List.forall_mem_cons.1 hparts
      rw [pathChars, List.flatMap_cons, List.cons_append, Text.splitAt_append_mark hfront]
      exact congrArg _ (ih part hpart hrest)
  exact happend segments [] nofun h

/-! ## The target -/

theorem span_target (c : Call) : c.target.span (· != '?') =
    (pathChars c.segments, if c.given.isEmpty then [] else '?' :: encodeQuery c.given) := by
  have hpath : ∀ ch ∈ pathChars c.segments, (ch != '?') = true := by
    intro ch hch
    rw [bne_iff_ne]
    rintro rfl
    rcases mem_pathChars hch with heq | ⟨part, hpart, hmem⟩
    · exact absurd heq (by decide)
    · exact absurd (c.inSegment_of_segments part hpart _ hmem) (by decide)
  change (pathChars c.segments ++ _).span _ = _
  split
  · rw [List.append_nil, Text.span_of_all hpath]
  · exact Text.span_append_cons hpath (by decide)

theorem pathOf_target (c : Call) : pathOf c.target = pathChars c.segments := by
  rw [pathOf, span_target]

theorem splitAt_pathOf (c : Call) : Text.splitAt '/' (pathOf c.target) = [] :: c.segments := by
  rw [pathOf_target]
  refine splitAt_pathChars fun part hpart hmem => ?_
  exact absurd (c.inSegment_of_segments part hpart _ hmem) (by decide)

theorem pathOf_eq_iff {c c' : Call} :
    pathOf c.target = pathOf c'.target ↔ c.segments = c'.segments := by
  constructor
  · intro h
    have hsplit := congrArg (Text.splitAt '/') h
    rw [splitAt_pathOf, splitAt_pathOf] at hsplit
    exact (List.cons.inj hsplit).2
  · intro h
    rw [pathOf_target, pathOf_target, h]

theorem queryOf?_target (c : Call) :
    queryOf? c.target = if c.given.isEmpty then none else some (encodeQuery c.given) := by
  rw [queryOf?, span_target]
  cases c.given.isEmpty <;> rfl

end Call
end RepairConsole
