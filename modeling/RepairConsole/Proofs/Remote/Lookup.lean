import RepairConsole.Proofs.Remote.Target
/-!
# Asking for one entry

The request for an entry has the entry's id as the last segment of its path, if the id is one that
can stand in a path: not one or two dots, and without tabs and line breaks. Every other id is
asked for by the path of something else.
-/

namespace RepairConsole.Call

open Url

/-- The operation is about the entry `id` of a resource. -/
inductive IsLookup : Call → String → String → Prop
  | schedule (id : String) (full : Bool) : IsLookup (.getSchedule id full) "schedules" id
  | repair (id : String) (hostId : Option String) : IsLookup (.getRepair id hostId) "repairs" id

/-- The operation lists the entries of a resource. -/
inductive IsListing : Call → String → Prop
  | schedules (keyspace table : Option String) : IsListing (.listSchedules keyspace table) "schedules"
  | repairs (keyspace table hostId : Option String) :
    IsListing (.listRepairs keyspace table hostId) "repairs"

/-- The path of the request has four segments, and the last of them is read as the id. -/
def AsksFor (c : Call) (resource id : String) : Prop :=
  ∃ last, Text.splitAt '/' (pathOf c.target) =
      [[], "repair-management".toList, "v2".toList, resource.toList, last] ∧
    segmentText? last = some id

/-- An id that can stand in a path. -/
def Plain (id : String) : Prop := id ≠ "." ∧ id ≠ ".." ∧ ∀ c ∈ id.toList, c ∉ ['\t', '\n', '\r']

/-! ## What an id does to a path -/

/-- The path above the entries of a resource, the last segment first. -/
def above (resource : String) : List (List Char) :=
  [resource.toList, "v2".toList, "repair-management".toList]

/-- What is left of a segment without tabs and line breaks. -/
def kept (segment : String) : List Char :=
  segment.toList.filter fun c => !(['\t', '\n', '\r'].contains c)

theorem kept_eq_iff {id : String} :
    kept id = id.toList ↔ ∀ c ∈ id.toList, c ∉ ['\t', '\n', '\r'] := by
  rw [kept, List.filter_eq_self]
  simp

instance (id : String) : Decidable (Plain id) :=
  decidable_of_iff (id ≠ "." ∧ id ≠ ".." ∧ kept id = id.toList) (by rw [kept_eq_iff, Plain])

/-- What a segment does to a path: nothing where it is dots, and else it adds what is left of it,
unless that is dots. -/
inductive Adds (path : List (List Char)) (id : String) : List (List Char) → Prop
  | skipped (dots : id = "." ∨ id = "..") : Adds path id path
  | directory (dot : id ≠ "." ∧ id ≠ "..") (left : kept id = ['.']) : Adds path id ([] :: path)
  | parent (dot : id ≠ "." ∧ id ≠ "..") (left : kept id = ['.', '.']) :
    Adds path id ([] :: goUp path)
  | segment (dot : id ≠ "." ∧ id ≠ "..") : Adds path id (encodeSegment (kept id) :: path)

theorem adds_addSegment (path : List (List Char)) (id : String) :
    Adds path id (addSegment path id) := by
  have hdot : encodeSegment ['.'] = ['.'] := by decide +kernel
  have hdots : encodeSegment ['.', '.'] = ['.', '.'] := by decide +kernel
  unfold addSegment
  dsimp only
  split
  · next h => exact .skipped h
  · next h =>
    have hne := not_or.1 h
    split
    · next hleft => exact .directory hne (encodeSegment_injective (hleft.trans hdot.symm))
    · split
      · next hleft => exact .parent hne (encodeSegment_injective (hleft.trans hdots.symm))
      · exact .segment hne

theorem addSegment_of_plain {path : List (List Char)} {id : String} (h : Plain id) :
    addSegment path id = encodeSegment id.toList :: path := by
  have hkept := kept_eq_iff.2 h.2.2
  have hadds := adds_addSegment path id
  generalize addSegment path id = longer at hadds
  cases hadds with
  | skipped hdots => exact absurd hdots (not_or.2 ⟨h.1, h.2.1⟩)
  | directory hdot hleft =>
    have hid : id.toList = ".".toList := hkept.symm.trans hleft
    exact absurd (String.toList_inj.1 hid) h.1
  | parent hdot hleft =>
    have hid : id.toList = "..".toList := hkept.symm.trans hleft
    exact absurd (String.toList_inj.1 hid) h.2.1
  | segment hdot => rw [hkept]

/-! ## Asking for an entry -/

variable {c : Call} {resource id : String}

theorem segments_of_resource (resource : String) (rest : List String)
    (hresource : resource ∈ ["schedules", "repairs"]) (hc : c.resource = resource :: rest) :
    c.segments = (rest.foldl addSegment (above resource)).reverse := by
  have habove : ∀ resource ∈ ["schedules", "repairs"],
      (interface ++ [resource]).foldl addSegment [] = above resource := by decide +kernel
  rw [Call.segments, hc, ← habove resource hresource, ← List.foldl_append, List.append_assoc]
  rfl

theorem IsLookup.segments (h : c.IsLookup resource id) :
    c.segments = (addSegment (above resource) id).reverse := by
  cases h with
  | schedule id full => exact segments_of_resource "schedules" [id] (by simp) rfl
  | repair id hostId => exact segments_of_resource "repairs" [id] (by simp) rfl

theorem IsListing.segments (h : c.IsListing resource) : c.segments = (above resource).reverse := by
  cases h with
  | schedules keyspace table => exact segments_of_resource "schedules" [] (by simp) rfl
  | repairs keyspace table hostId => exact segments_of_resource "repairs" [] (by simp) rfl

theorem asksFor_iff (h : c.IsLookup resource id) :
    c.AsksFor resource id ↔ ∃ last, addSegment (above resource) id = last :: above resource ∧
      segmentText? last = some id := by
  rw [AsksFor, splitAt_pathOf, h.segments]
  refine exists_congr fun last => and_congr_left fun _ => ?_
  rw [List.cons.injEq, List.reverse_eq_iff]
  simp [above]

theorem asksFor_iff_plain (h : c.IsLookup resource id) : c.AsksFor resource id ↔ Plain id := by
  rw [asksFor_iff h]
  constructor
  · rintro ⟨last, heq, htext⟩
    have hadds := adds_addSegment (above resource) id
    generalize addSegment (above resource) id = path at hadds heq
    -- An id of which dots are left is not read from an empty segment.
    have hempty : last = [] → kept id = [] := by
      rintro rfl
      obtain rfl : id = "" := (Option.some.inj htext).symm
      rfl
    cases hadds with
    | skipped hdots => exact absurd heq (List.cons_ne_self _ _).symm
    | directory hdot hleft =>
      exact absurd (hempty (List.cons.inj heq).1.symm) (by simp [hleft])
    | parent hdot hleft =>
      exact absurd (hempty (List.cons.inj heq).1.symm) (by simp [hleft])
    | segment hdot =>
      rw [← (List.cons.inj heq).1, segmentText?_encodeSegment] at htext
      have hkept := congrArg String.toList (Option.some.inj htext)
      rw [String.toList_ofList] at hkept
      exact ⟨hdot.1, hdot.2, kept_eq_iff.1 hkept⟩
  · intro hplain
    refine ⟨_, addSegment_of_plain hplain, ?_⟩
    rw [segmentText?_encodeSegment, String.ofList_toList]

theorem AsksFor.inj {c' : Call} {resource' id' : String} (h : c.AsksFor resource id)
    (h' : c'.AsksFor resource' id') (hpath : pathOf c.target = pathOf c'.target) :
    resource = resource' ∧ id = id' := by
  obtain ⟨last, hsplit, htext⟩ := h
  obtain ⟨last', hsplit', htext'⟩ := h'
  rw [hpath, hsplit'] at hsplit
  simp only [List.cons.injEq, String.toList_inj, and_true, true_and] at hsplit
  obtain ⟨hresource, rfl⟩ := hsplit
  exact ⟨hresource.symm, Option.some.inj (htext.symm.trans htext')⟩

/-- Only dots leave a path as it is: all else adds a segment, or goes up and adds one. -/
theorem addSegment_eq_above_iff (hresource : resource ≠ "") :
    addSegment (above resource) id = above resource ↔ id = "." ∨ id = ".." := by
  have hadds := adds_addSegment (above resource) id
  generalize addSegment (above resource) id = path at hadds
  cases hadds with
  | skipped hdots => exact iff_of_true rfl hdots
  | directory hdot hleft => exact iff_of_false (List.cons_ne_self _ _) (not_or.2 hdot)
  | parent hdot hleft =>
    refine iff_of_false (fun heq => hresource ?_) (not_or.2 hdot)
    exact String.toList_eq_nil_iff.1 (List.cons.inj heq).1.symm
  | segment hdot => exact iff_of_false (List.cons_ne_self _ _) (not_or.2 hdot)

theorem pathOf_eq_listing_iff {listing : Call} (h : c.IsLookup resource id)
    (hlisting : listing.IsListing resource) :
    pathOf c.target = pathOf listing.target ↔ id = "." ∨ id = ".." := by
  have hresource : resource ≠ "" := by cases h <;> decide
  rw [pathOf_eq_iff, h.segments, hlisting.segments, List.reverse_inj]
  exact addSegment_eq_above_iff hresource

/-- A request asks for the entry that it is about if and only if the id can stand in a path. Such
ids have paths of their own, and only one or two dots have the path of the listing. -/
theorem lookup_asks_for_id (h : c.IsLookup resource id) :
    (c.AsksFor resource id ↔ Plain id) ∧
    (∀ {c' : Call} {resource' id' : String}, c'.IsLookup resource' id' → Plain id → Plain id' →
      pathOf c.target = pathOf c'.target → resource = resource' ∧ id = id') ∧
    (∀ {listing : Call}, listing.IsListing resource →
      (pathOf c.target = pathOf listing.target ↔ id = "." ∨ id = "..")) := by
  refine ⟨asksFor_iff_plain h, ?_, pathOf_eq_listing_iff h⟩
  intro c' resource' id' h' hplain hplain' hpath
  exact ((asksFor_iff_plain h).2 hplain).inj ((asksFor_iff_plain h').2 hplain') hpath

/-- A slash and a percent sign are part of the id: neither another entry nor the listing is asked
for in its place. -/
theorem slash_asked_for :
    (getSchedule "a/%2F" true).IsLookup "schedules" "a/%2F" ∧
    (getSchedule "a/%2F" true).AsksFor "schedules" "a/%2F" ∧
    pathOf (getSchedule "a/%2F" true).target ≠ pathOf (getSchedule "a//" true).target ∧
    pathOf (getSchedule "a/%2F" true).target ≠ pathOf (listSchedules none none).target := by
  obtain ⟨hasks, hother, hlisting⟩ := lookup_asks_for_id (.schedule "a/%2F" true)
  refine ⟨.schedule _ _, hasks.2 (by decide), fun hpath => ?_, fun hpath => ?_⟩
  · have hsame := hother (.schedule "a//" true) (by decide) (by decide) hpath
    exact absurd hsame.2 (by decide)
  · have hdots := (hlisting (.schedules none none)).1 hpath
    exact absurd hdots (by decide)

/-- A dot asks for the listing, and a tab within an id is lost. -/
theorem dots_and_tabs_not_asked_for :
    ¬ (getSchedule "." false).AsksFor "schedules" "." ∧
    (getSchedule "." false).requestLine = (listSchedules none none).requestLine ∧
    ¬ (getRepair "a\tb" none).AsksFor "repairs" "a\tb" ∧
    (getRepair "a\tb" none).requestLine = (getRepair "ab" none).requestLine := by
  refine ⟨?_, by decide +kernel, ?_, by decide +kernel⟩
  · rw [asksFor_iff_plain (.schedule "." false)]
    decide
  · rw [asksFor_iff_plain (.repair "a\tb" none)]
    decide

end RepairConsole.Call
