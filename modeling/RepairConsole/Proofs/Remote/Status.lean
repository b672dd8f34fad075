import RepairConsole.Proofs.Query.Gate
import RepairConsole.Proofs.Text.Utf8
/-!
# What a status decides

A response of status 400 or above is a failure that names its status, whatever it carries. Below
that only the body counts: a redirection that leads nowhere is read like any other answer.
-/

namespace RepairConsole.Call

/-- The text of a failure starts with the words for a refusal and the status. -/
def NamesStatus (status : Nat) (trouble : Trouble) : Prop :=
  ("Request failed with status " ++ Nat.repr status).toList <+: trouble.text.toList

def FailsWithStatus (origin : Url.Origin) (c : Call) (r : Response) : Prop :=
  ∃ trouble, c.outcome origin (.answered r) = .error trouble ∧ NamesStatus r.status trouble

/-- The body of a response is what the operation answers with. -/
def Delivers (c : Call) (r : Response) (payload : c.Payload) : Prop :=
  ∃ text json, r.text? = some text ∧ Json.parse? text = some json ∧ c.payload? json = some payload

/-! ## The texts of failures -/

theorem text_refused (status : Nat) (detail : String) :
    (Trouble.refused status detail).text =
      "Request failed with status " ++ Nat.repr status ++
        (if detail = "" then "" else ": " ++ detail) := by
  have htext : (Trouble.refused status detail).text =
      if detail = "" then s!"Request failed with status {status}"
      else s!"Request failed with status {status}: {detail}" := rfl
  by_cases h : detail = ""
  · rw [htext, if_pos h, if_pos h, String.append_empty]
    rfl
  · rw [htext, if_neg h, if_neg h]
    exact String.append_assoc

theorem text_unreadable (url : String) : (Trouble.unreadable url).text =
    s!"Unable to read response from {url}: incomplete or too long" := rfl

theorem text_undecodable (url : String) : (Trouble.undecodable url).text =
    s!"Unable to decode response from {url}: not the expected JSON" := rfl

theorem namesStatus_refused (status : Nat) (detail : String) :
    NamesStatus status (.refused status detail) := by
  unfold NamesStatus
  rw [text_refused, String.toList_append (s := _ ++ _)]
  exact List.prefix_append _ _

theorem not_namesStatus_unreadable (status : Nat) (url : String) :
    ¬ NamesStatus status (.unreadable url) := by
  unfold NamesStatus
  rw [text_unreadable]
  simp [ToString.toString]

theorem not_namesStatus_undecodable (status : Nat) (url : String) :
    ¬ NamesStatus status (.undecodable url) := by
  unfold NamesStatus
  rw [text_undecodable]
  simp [ToString.toString]

/-! ## The outcome of a response -/

variable {origin : Url.Origin} {c : Call} {r : Response}

theorem outcome_of_refusal (h : 400 ≤ r.status) :
    c.outcome origin (.answered r) = .error (.refused r.status r.detail) := by
  have hrefusal : r.isRefusal = true := by simpa [Response.isRefusal] using h
  simp only [outcome, hrefusal, if_true]

theorem outcome_of_lt (h : r.status < 400) :
    c.outcome origin (.answered r) = c.ofBody origin r.text? := by
  have hrefusal : r.isRefusal = false := by simpa [Response.isRefusal] using h
  simp only [outcome, hrefusal, Bool.false_eq_true, if_false]

theorem ofBody_eq_ok_iff {body : Option String} {payload : c.Payload} :
    c.ofBody origin body = .ok payload ↔
      ∃ text json, body = some text ∧ Json.parse? text = some json ∧
        c.payload? json = some payload := by
  cases body with
  | none => simp [ofBody]
  | some text =>
    simp only [ofBody, Option.some.injEq, exists_and_left, exists_eq_left']
    rw [← Option.bind_eq_some_iff]
    cases (Json.parse? text).bind c.payload? with
    | none => simp
    | some found => simp

theorem not_namesStatus_of_ofBody {body : Option String} {trouble : Trouble} (status : Nat)
    (h : c.ofBody origin body = .error trouble) : ¬ NamesStatus status trouble := by
  cases body with
  | none =>
    obtain rfl := Except.error.inj h
    exact not_namesStatus_unreadable _ _
  | some text =>
    simp only [ofBody] at h
    split at h
    · nomatch h
    · obtain rfl := Except.error.inj h
      exact not_namesStatus_undecodable _ _

theorem failsWithStatus_iff : FailsWithStatus origin c r ↔ 400 ≤ r.status := by
  constructor
  · rintro ⟨trouble, houtcome, hnames⟩
    by_contra hlow
    rw [outcome_of_lt (Nat.lt_of_not_le hlow)] at houtcome
    exact not_namesStatus_of_ofBody r.status houtcome hnames
  · intro h
    exact ⟨_, outcome_of_refusal h, namesStatus_refused _ _⟩

theorem outcome_eq_ok_iff {payload : c.Payload} :
    c.outcome origin (.answered r) = .ok payload ↔ r.status < 400 ∧ Delivers c r payload := by
  by_cases h : 400 ≤ r.status
  · rw [outcome_of_refusal h]
    exact iff_of_false nofun fun hlow => absurd h (Nat.not_le.2 hlow.1)
  · rw [outcome_of_lt (Nat.lt_of_not_le h), ofBody_eq_ok_iff]
    exact ⟨fun hbody => ⟨Nat.lt_of_not_le h, hbody⟩, And.right⟩

/-! ## What follows for calls and for the gate -/

/-- The gate before a query lets pass what is answered below 400 with a listing of schedules. -/
theorem reachable_iff {σ : Type} {answer : (q : Query.Request) → σ → q.Answer × σ} {s : σ}
    (h : (answer (.call probe) s).1 = probe.outcome origin (.answered r)) :
    Query.Reachable answer s ↔ r.status < 400 ∧ ∃ schedules, Delivers probe r schedules := by
  unfold Query.Reachable
  rw [h]
  simp only [outcome_eq_ok_iff, exists_and_left]

/-- Statuses from 400 on, and only they, are failures that name the status; all others leave it to
the body whether there is a success, and whether the gate lets a query pass. So among the statuses
of an answer it is the redirections, and no others, that are not told from a success. -/
theorem status_decides_outcome (origin : Url.Origin) (c : Call) (r : Response) :
    (FailsWithStatus origin c r ↔ 400 ≤ r.status) ∧
    (∀ payload, c.outcome origin (.answered r) = .ok payload ↔
      r.status < 400 ∧ Delivers c r payload) ∧
    (200 ≤ r.status ∧ r.status ≤ 599 →
      ((FailsWithStatus origin c r ↔ ¬ (200 ≤ r.status ∧ r.status ≤ 299)) ↔
        ¬ (300 ≤ r.status ∧ r.status ≤ 399))) ∧
    ∀ {σ : Type} (answer : (q : Query.Request) → σ → q.Answer × σ) (s : σ),
      (answer (.call probe) s).1 = probe.outcome origin (.answered r) →
      (Query.Reachable answer s ↔ r.status < 400 ∧ ∃ schedules, Delivers probe r schedules) := by
  refine ⟨failsWithStatus_iff, fun _ => outcome_eq_ok_iff, fun hstatus => ?_,
    fun answer s => reachable_iff⟩
  rw [failsWithStatus_iff]
  omega

/-- A host on which every call has the same response. -/
def answering (origin : Url.Origin) (r : Response) : (q : Query.Request) → Unit → q.Answer × Unit
  | .call c, s => (c.outcome origin (.answered r), s)
  | .clock, s => (⟨0, 0⟩, s)
  | .print _, s => (.ok (), s)

def localhost : Url.Origin := ⟨"http", [], [], .name "localhost".toList, some 8080⟩

/-- A redirection without a destination, with an empty list for a body. -/
def redirection : Response := ⟨302, "Found", .untilClosed, "[]".toUTF8⟩

/-- Such a redirection is no failure: the listing succeeds, and the service counts as running. -/
theorem redirection_succeeds :
    ¬ FailsWithStatus localhost probe redirection ∧
    probe.outcome localhost (.answered redirection) = .ok [] ∧
    Query.Reachable (answering localhost redirection) () := by
  have hdelivers : Delivers probe redirection [] :=
    ⟨"[]", .array [], by decide +kernel, rfl, rfl⟩
  have hanswer : (answering localhost redirection (.call probe) ()).1 =
      probe.outcome localhost (.answered redirection) := rfl
  refine ⟨?_, outcome_eq_ok_iff.2 ⟨by decide, hdelivers⟩, ?_⟩
  · rw [failsWithStatus_iff]
    decide
  · exact (reachable_iff hanswer).2 ⟨by decide, [], hdelivers⟩

end RepairConsole.Call
