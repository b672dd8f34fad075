import RepairConsole.Proofs.Remote.RequestLine
/-!
# Arguments stay in their place

Whatever an operator puts into an id, a keyspace or a time, the request is one line of printable
characters: it stays below the interface, has no fragment, and its only question mark stands
before the operation's own parameters.
-/

namespace RepairConsole.Call

open Url

/-- A character that is printed and not blank. -/
def Visible (ch : Char) : Prop := 0x21 ≤ ch.toNat ∧ ch.toNat ≤ 0x7E

instance (ch : Char) : Decidable (Visible ch) := inferInstanceAs (Decidable (_ ∧ _))

/-- The parameters that an operation has, whatever its arguments are. -/
def ownNames : Call → List String
  | listSchedules .. => ["keyspace", "table"]
  | getSchedule .. => ["full"]
  | listRepairs .. => ["keyspace", "table", "hostId"]
  | getRepair .. => ["hostId"]
  | triggerRepair .. => ["keyspace", "table", "isLocal"]
  | repairInfo .. => ["keyspace", "table", "since", "duration", "isLocal"]

/-! ## The characters of a target -/

theorem visible_of_inSegment {ch : Char} (h : InSegment ch) :
    Visible ch ∧ ch ≠ '#' ∧ ch ≠ '?' := by
  obtain ⟨hlow, hhigh, hmem⟩ := h
  refine ⟨⟨hlow, by omega⟩, ?_, ?_⟩
  · rintro rfl
    exact hmem (by decide)
  · rintro rfl
    exact hmem (by decide)

theorem visible_of_inForm {ch : Char} (h : InForm ch) : Visible ch ∧ ch ≠ '#' ∧ ch ≠ '?' := by
  rcases h with halnum | hmark
  · change (decide (65 ≤ ch.val ∧ ch.val ≤ 90) || (decide (97 ≤ ch.val) && decide (ch.val ≤ 122)) ||
      (decide (48 ≤ ch.val) && decide (ch.val ≤ 57))) = true at halnum
    simp only [Bool.or_eq_true, Bool.and_eq_true, decide_eq_true_eq,
      UInt32.le_iff_toNat_le] at halnum
    change ((65 ≤ ch.toNat ∧ ch.toNat ≤ 90) ∨ (97 ≤ ch.toNat ∧ ch.toNat ≤ 122)) ∨
      (48 ≤ ch.toNat ∧ ch.toNat ≤ 57) at halnum
    refine ⟨by unfold Visible; omega, ?_, ?_⟩
    · rintro rfl
      exact absurd halnum (by decide)
    · rintro rfl
      exact absurd halnum (by decide)
  · have hmarks : ∀ d ∈ ['*', '-', '.', '_', '+', '%'], Visible d ∧ d ≠ '#' ∧ d ≠ '?' := by
      simp [Visible]
    exact hmarks ch hmark

theorem visible_of_mem_path {c : Call} {ch : Char} (h : ch ∈ pathOf c.target) :
    Visible ch ∧ ch ≠ '#' ∧ ch ≠ '?' := by
  rw [pathOf_target] at h
  rcases mem_pathChars h with rfl | ⟨part, hpart, hch⟩
  · decide
  · exact visible_of_inSegment (c.inSegment_of_segments part hpart ch hch)

theorem visible_of_mem_query {parameters : List (String × String)} {ch : Char}
    (h : ch ∈ encodeQuery parameters) : Visible ch ∧ ch ≠ '#' ∧ ch ≠ '?' := by
  rcases mem_encodeQuery h with hmark | hform
  · have hmarks : ∀ d ∈ ['&', '='], Visible d ∧ d ≠ '#' ∧ d ≠ '?' := by simp [Visible]
    exact hmarks ch hmark
  · exact visible_of_inForm hform

/-- A target is its path, and the parameters that are given behind a question mark. -/
theorem target_eq (c : Call) : c.target =
    pathOf c.target ++ if c.asked = [] then [] else '?' :: encodeQuery c.asked := by
  rw [pathOf_target, target, pathChars, given_eq_asked]
  simp only [List.isEmpty_iff]

theorem visible_of_mem_target {c : Call} {ch : Char} (h : ch ∈ c.target) :
    Visible ch ∧ ch ≠ '#' := by
  rw [target_eq, List.mem_append] at h
  rcases h with hpath | hquery
  · exact ⟨(visible_of_mem_path hpath).1, (visible_of_mem_path hpath).2.1⟩
  · split at hquery
    · nomatch hquery
    · rcases List.mem_cons.1 hquery with rfl | hquery
      · decide
      · exact ⟨(visible_of_mem_query hquery).1, (visible_of_mem_query hquery).2.1⟩

theorem count_mark_target (c : Call) : c.target.count '?' = if c.asked = [] then 0 else 1 := by
  have hpath : (pathOf c.target).count '?' = 0 :=
    List.count_eq_zero.2 fun h => (visible_of_mem_path h).2.2 rfl
  have hquery : (encodeQuery c.asked).count '?' = 0 :=
    List.count_eq_zero.2 fun h => (visible_of_mem_query h).2.2 rfl
  rw [target_eq, List.count_append, hpath, Nat.zero_add]
  split
  · rfl
  · rw [List.count_cons_self, hquery]

/-! ## Below the interface -/

/-- The path of the interface, the last segment first. -/
def root : List (List Char) := ["v2".toList, "repair-management".toList]

/-- Something below the interface, the last segment first. -/
def Below (path : List (List Char)) : Prop := ∃ more, more ≠ [] ∧ path = more ++ root

/-- A segment that leads upwards leaves no more than the resource it stands under, and then an
empty segment takes that one's place. -/
theorem Below.addSegment {path : List (List Char)} (h : Below path) (segment : String) :
    Below (addSegment path segment) := by
  obtain ⟨more, hmore, rfl⟩ := h
  have hadds := adds_addSegment (more ++ root) segment
  generalize Call.addSegment (more ++ root) segment = longer at hadds
  cases hadds with
  | skipped => exact ⟨more, hmore, rfl⟩
  | directory => exact ⟨[] :: more, List.cons_ne_nil _ _, rfl⟩
  | segment => exact ⟨_ :: more, List.cons_ne_nil _ _, rfl⟩
  | parent =>
    obtain ⟨last, rest, rfl⟩ := List.exists_cons_of_ne_nil hmore
    unfold goUp
    rw [List.cons_append]
    dsimp only
    split
    · exact ⟨[] :: last :: rest, List.cons_ne_nil _ _, rfl⟩
    · exact ⟨[] :: rest, List.cons_ne_nil _ _, rfl⟩

theorem below_segments (c : Call) : Below c.segments.reverse := by
  have hroot : interface.foldl addSegment [] = root := by decide +kernel
  have hfirst : ∃ name rest, c.resource = name :: rest ∧ Plain name := by
    have hplain : ∀ name ∈ ["schedules", "repairs", "repairInfo"], Plain name := by decide
    cases c <;> exact ⟨_, _, rfl, hplain _ (by decide)⟩
  obtain ⟨name, rest, hresource, hname⟩ := hfirst
  have hrest : ∀ (names : List String) (path : List (List Char)), Below path →
      Below (names.foldl addSegment path) := by
    intro names
    induction names with
    | nil => exact fun _ h => h
    | cons name names ih => exact fun path h => ih _ (h.addSegment name)
  rw [Call.segments, List.reverse_reverse, hresource, List.foldl_append, hroot, List.foldl_cons,
    addSegment_of_plain hname]
  exact hrest rest _ ⟨[encodeSegment name.toList], List.cons_ne_nil _ _, rfl⟩

theorem interface_prefix_target (c : Call) : "/repair-management/v2/".toList <+: c.target := by
  obtain ⟨more, hmore, hsegments⟩ := c.below_segments
  rw [List.reverse_eq_iff, List.reverse_append] at hsegments
  obtain ⟨first, rest, hfirst⟩ := List.exists_cons_of_ne_nil (List.reverse_ne_nil_iff.2 hmore)
  have hpath : pathOf c.target = "/repair-management/v2/".toList ++ (first ++ pathChars rest) := by
    rw [pathOf_target, hsegments, hfirst]
    simp [pathChars, root]
  rw [target_eq, hpath, List.append_assoc]
  exact List.prefix_append _ _

/-! ## The request -/

theorem asked_names_sublist (c : Call) : (c.asked.map Prod.fst).Sublist c.ownNames := by
  have hpart : ∀ name value, ((part name value).map Prod.fst).Sublist [name] := by
    intro name value
    cases value <;> simp [part]
  have hflag : ∀ name value, ((flag name value).map Prod.fst).Sublist [name] :=
    fun name value => List.Sublist.refl [name]
  cases c with
  | getSchedule id full => cases full <;> simp [asked, ownNames]
  | getRepair id hostId => exact hpart _ _
  | listSchedules keyspace table =>
    simp only [asked, List.map_append]
    exact (hpart _ _).append (hpart _ _)
  | listRepairs keyspace table hostId =>
    simp only [asked, List.map_append]
    exact ((hpart _ _).append (hpart _ _)).append (hpart _ _)
  | triggerRepair keyspace table localOnly =>
    simp only [asked, List.map_append]
    exact ((hpart _ _).append (hpart _ _)).append (hflag _ _)
  | repairInfo keyspace table since duration localOnly =>
    simp only [asked, List.map_append]
    exact ((((hpart _ _).append (hpart _ _)).append (hpart _ _)).append (hpart _ _)).append
      (hflag _ _)

theorem method_cases (c : Call) : c.method = "GET" ∨ c.method = "POST" := by
  cases c <;> simp [method]

/-- No character of a request line starts a new line. -/
theorem visible_of_mem_requestLine {c : Call} {ch : Char} (h : ch ∈ c.requestLine.toList) :
    ch = ' ' ∨ Visible ch := by
  have hfixed : ∀ word ∈ ["GET", "POST", " ", " HTTP/1.1"], ∀ ch ∈ word.toList,
      ch = ' ' ∨ Visible ch := by simp [Visible]
  have hmethod : c.method ∈ ["GET", "POST", " ", " HTTP/1.1"] := by
    rcases c.method_cases with h | h <;> rw [h] <;> decide
  simp only [requestLine, String.toList_append, String.toList_ofList, List.mem_append] at h
  rcases h with ((hch | hch) | hch) | hch
  · exact hfixed _ hmethod ch hch
  · exact hfixed " " (by decide) ch hch
  · exact Or.inr (visible_of_mem_target hch).1
  · exact hfixed " HTTP/1.1" (by decide) ch hch

/-- A request is a method, a target and the version with one blank between each two, on one line.
The target is printable, below the interface and without a fragment. If the operation sends any
parameters, a question mark stands before them and nowhere else, and what is read behind it are
parameters of the operation, with what was given for them. -/
theorem request_confined (c : Call) :
    Text.splitAt ' ' c.requestLine.toList = [c.method.toList, c.target, "HTTP/1.1".toList] ∧
    (c.method = "GET" ∨ c.method = "POST") ∧
    (∀ ch ∈ c.requestLine.toList, ch = ' ' ∨ (0x21 ≤ ch.toNat ∧ ch.toNat ≤ 0x7E)) ∧
    (∀ ch ∈ c.target, 0x21 ≤ ch.toNat ∧ ch.toNat ≤ 0x7E) ∧
    "/repair-management/v2/".toList <+: c.target ∧
    '#' ∉ c.target ∧
    c.target.count '?' = (if c.asked = [] then 0 else 1) ∧
    c.target = pathOf c.target ++ (if c.asked = [] then [] else '?' :: encodeQuery c.asked) ∧
    (∀ query, queryOf? c.target = some query → readQuery? query = some c.asked) ∧
    (c.asked.map Prod.fst).Sublist c.ownNames :=
  ⟨c.splitAt_requestLine, c.method_cases, fun _ => visible_of_mem_requestLine,
    fun _ h => (visible_of_mem_target h).1, c.interface_prefix_target,
    fun h => (visible_of_mem_target h).2 rfl, c.count_mark_target, c.target_eq,
    fun _ => readQuery?_of_target, c.asked_names_sublist⟩

end RepairConsole.Call
