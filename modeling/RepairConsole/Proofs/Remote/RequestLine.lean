import RepairConsole.Proofs.Remote.Lookup
/-!
# Reading a request line back

A request line says which operation it is and all that was given with it: what is left out was not
given, an empty text was, and no value runs into the next. Only an id that cannot stand in a path
is not told.
-/

namespace RepairConsole.Call

open Url

/-! ## What is sent -/

/-- A parameter in a query: nothing, if it is not given. -/
def part (name : String) (value : Option String) : List (String × String) :=
  value.toList.map (name, ·)

/-- A parameter that is always sent. -/
def flag (name : String) (value : Bool) : List (String × String) :=
  [(name, if value then "true" else "false")]

/-- What the query of an operation says. -/
def asked : Call → List (String × String)
  | listSchedules keyspace table => part "keyspace" keyspace ++ part "table" table
  | getSchedule _ full => if full then [("full", "true")] else []
  | listRepairs keyspace table hostId =>
    part "keyspace" keyspace ++ part "table" table ++ part "hostId" hostId
  | getRepair _ hostId => part "hostId" hostId
  | triggerRepair keyspace table localOnly =>
    part "keyspace" keyspace ++ part "table" table ++ flag "isLocal" localOnly
  | repairInfo keyspace table since duration localOnly =>
    part "keyspace" keyspace ++ part "table" table ++ part "since" since ++
      part "duration" duration ++ flag "isLocal" localOnly

/-- The id that an operation is about. -/
def id? : Call → Option String
  | getSchedule id _ => some id
  | getRepair id _ => some id
  | _ => none

theorem given_eq_asked (c : Call) : c.given = c.asked := by
  have hparts : ∀ parameters : List (String × Option String),
      parameters.filterMap (fun p => p.2.map (p.1, ·)) = parameters.flatMap fun p => part p.1 p.2 := by
    intro parameters
    induction parameters with
    | nil => rfl
    | cons parameter parameters ih =>
      obtain ⟨name, value⟩ := parameter
      cases value with
      | none => exact ih
      | some value => exact congrArg _ ih
  refine (hparts c.parameters).trans ?_
  cases c with
  | getSchedule id full => cases full <;> rfl
  | _ => simp [parameters, asked, part, flag, truth]

/-! ## Reading -/

/-- The parameters that a target's query writes. -/
def parametersOf? (target : List Char) : Option (List (String × String)) :=
  match queryOf? target with
  | none => some []
  | some query => readQuery? query

/-- The resource that a target's path leads to. -/
def resourceOf? (target : List Char) : Option (List String) := do
  let names ← (Text.splitAt '/' (pathOf target)).tail.mapM segmentText?
  if interface <+: names then some (names.drop interface.length) else none

/-- The operation on a resource. -/
def ofParts? (method : String) (resource : List String) (parameters : List (String × String)) :
    Option Call :=
  let value := fun name => parameters.lookup name
  let on := fun name => decide (parameters.lookup name = some "true")
  match method, resource with
  | "GET", ["schedules"] => some (listSchedules (value "keyspace") (value "table"))
  | "GET", ["schedules", id] => some (getSchedule id (on "full"))
  | "GET", ["repairs"] => some (listRepairs (value "keyspace") (value "table") (value "hostId"))
  | "GET", ["repairs", id] => some (getRepair id (value "hostId"))
  | "POST", ["repairs"] => some (triggerRepair (value "keyspace") (value "table") (on "isLocal"))
  | "GET", ["repairInfo"] =>
    some (repairInfo (value "keyspace") (value "table") (value "since") (value "duration")
      (on "isLocal"))
  | _, _ => none

/-- The operation that a request line is for. -/
def readLine? (line : String) : Option Call :=
  match Text.splitAt ' ' line.toList with
  | [method, target, version] => do
    if version = "HTTP/1.1".toList then
      ofParts? (String.ofList method) (← resourceOf? target) (← parametersOf? target)
    else none
  | _ => none

/-! ## Each part is read back -/

theorem queryOf?_eq_none_iff (c : Call) : queryOf? c.target = none ↔ c.asked = [] := by
  rw [queryOf?_target, given_eq_asked, ← List.isEmpty_iff]
  split
  · next hempty => exact iff_of_true rfl hempty
  · next hempty => exact iff_of_false nofun hempty

theorem readQuery?_of_target {c : Call} {query : List Char} (h : queryOf? c.target = some query) :
    readQuery? query = some c.asked := by
  rw [queryOf?_target, given_eq_asked] at h
  split at h
  · nomatch h
  · next hempty =>
    rw [← Option.some.inj h]
    exact readQuery?_encodeQuery fun hnil => hempty (List.isEmpty_iff.2 hnil)

theorem parametersOf?_target (c : Call) : parametersOf? c.target = some c.asked := by
  unfold parametersOf?
  split
  · next hnone => rw [(queryOf?_eq_none_iff c).1 hnone]
  · next query hsome => exact readQuery?_of_target hsome

theorem segments_of_plain {c : Call} (h : ∀ name ∈ interface ++ c.resource, Plain name) :
    c.segments = (interface ++ c.resource).map fun name => encodeSegment name.toList := by
  have hfold : ∀ (names : List String) (path : List (List Char)), (∀ name ∈ names, Plain name) →
      (names.foldl addSegment path).reverse =
        path.reverse ++ names.map fun name => encodeSegment name.toList := by
    intro names
    induction names with
    | nil => exact fun path _ => (List.append_nil _).symm
    | cons name names ih =>
      intro path hplain
      obtain ⟨hname, hnames⟩ := List.forall_mem_cons.1 hplain
      rw [List.foldl_cons, addSegment_of_plain hname, ih _ hnames, List.reverse_cons,
        List.append_assoc]
      rfl
  exact hfold _ [] h

theorem resourceOf?_target {c : Call} (h : ∀ id, c.id? = some id → Plain id) :
    resourceOf? c.target = some c.resource := by
  have hplain : ∀ name ∈ interface ++ c.resource, Plain name := by
    have hfixed : ∀ name ∈ ["repair-management", "v2", "schedules", "repairs", "repairInfo"],
        Plain name := by decide
    cases c <;> simp_all [interface, resource, id?]
  have hnames : c.segments.mapM segmentText? = some (interface ++ c.resource) := by
    rw [segments_of_plain hplain]
    refine mapM_map_of_inverse (fun name => ?_) _
    rw [segmentText?_encodeSegment, String.ofList_toList]
  rw [resourceOf?, splitAt_pathOf, List.tail_cons, hnames]
  simp

theorem lookup_part (key name : String) (value : Option String) :
    (part name value).lookup key = if key = name then value else none := by
  cases value with
  | none => simp [part]
  | some value =>
    by_cases hname : key = name
    · simp [part, hname]
    · simp [part, List.lookup_cons, beq_eq_false_iff_ne.2 hname, hname]

theorem lookup_flag (key name : String) (value : Bool) :
    (flag name value).lookup key =
      if key = name then some (if value then "true" else "false") else none :=
  lookup_part key name (some (if value then "true" else "false"))

theorem ofParts?_parts (c : Call) : ofParts? c.method c.resource c.asked = some c := by
  cases c with
  | getSchedule id full => cases full <;> rfl
  | _ => simp [ofParts?, method, resource, asked, List.lookup_append, lookup_part, lookup_flag]

/-! ## The line -/

theorem blank_not_mem_target (c : Call) : ' ' ∉ c.target := by
  have hpath : ' ' ∉ pathChars c.segments := by
    intro hmem
    rcases mem_pathChars hmem with heq | ⟨name, hname, hmem⟩
    · exact absurd heq (by decide)
    · exact absurd (c.inSegment_of_segments name hname _ hmem) (by decide)
  have hquery : ' ' ∉ encodeQuery c.given := fun h => absurd (mem_encodeQuery h) (by decide)
  change ' ' ∉ pathChars c.segments ++ _
  split <;> simp [hpath, hquery]

theorem splitAt_requestLine (c : Call) : Text.splitAt ' ' c.requestLine.toList =
    [c.method.toList, c.target, "HTTP/1.1".toList] := by
  have hmethod : ' ' ∉ c.method.toList := by
    have hfixed : ∀ method ∈ ["GET", "POST"], ' ' ∉ method.toList := by decide
    exact hfixed c.method (by cases c <;> simp [method])
  have hline : c.requestLine.toList =
      c.method.toList ++ ' ' :: (c.target ++ ' ' :: "HTTP/1.1".toList) := by
    simp [requestLine]
  rw [hline, Text.splitAt_append_mark hmethod, Text.splitAt_append_mark c.blank_not_mem_target]
  rfl

theorem readLine?_requestLine {c : Call} (h : ∀ id, c.id? = some id → Plain id) :
    readLine? c.requestLine = some c := by
  rw [readLine?, splitAt_requestLine]
  simp [resourceOf?_target h, parametersOf?_target, ofParts?_parts]

/-- There is a query if and only if something is given, and it says just that, in order. With the
method and the path it tells the operation, so that two operations without an id that differ at
all are sent as different lines. -/
theorem request_lossless :
    (∀ c : Call, (queryOf? c.target = none ↔ c.asked = []) ∧
      ∀ query, queryOf? c.target = some query → readQuery? query = some c.asked) ∧
    (∀ c : Call, (∀ id, c.id? = some id → Plain id) → readLine? c.requestLine = some c) ∧
    ∀ c c' : Call, c.id? = none → c'.id? = none → c.requestLine = c'.requestLine → c = c' := by
  have hread : ∀ c : Call, c.id? = none → readLine? c.requestLine = some c := by
    intro c hc
    exact readLine?_requestLine fun id hid => nomatch hc.symm.trans hid
  refine ⟨fun c => ⟨queryOf?_eq_none_iff c, fun _ => readQuery?_of_target⟩,
    fun _ => readLine?_requestLine, ?_⟩
  intro c c' hc hc' hline
  rw [← Option.some_inj, ← hread c hc, ← hread c' hc', hline]

end RepairConsole.Call
