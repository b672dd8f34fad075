import RepairConsole.Proofs.Remote.Status
/-!
# What a failure says

A refusal is explained by its body if that says something, and else by the reason phrase. What the
body is to say is its `message`, or its `error`, or all of it. An object with neither of the two is
thrown away all the same, and the reason phrase stands in for it.
-/

namespace RepairConsole

theorem Json.parse?_of_parseWhole? {s : String} {json : Json} (h : parseWhole? s = some json) :
    parse? s = some json := by
  obtain ⟨tokens, htokens, h⟩ := Option.bind_eq_some_iff.1 h
  split at h
  · exact Option.bind_eq_some_iff.2 ⟨tokens, htokens, h⟩
  · cases h

namespace Response

/-- The body without the blanks around it; one that cannot be read counts as empty. -/
def bodyText (r : Response) : String := Text.trim (r.text?.getD "")

/-! ## Members -/

/-- The last member of the name is a text, and it is not empty. -/
def Says (members : List (Option String × Json)) (name value : String) : Prop :=
  value ≠ "" ∧ ∃ before after, members = before ++ (some name, .text (some value)) :: after ∧
    ∀ m ∈ after, m.1 ≠ some name

/-- The object has something to say under one of the two names. -/
def Explains (members : List (Option String × Json)) : Prop :=
  ∃ value, Says members "message" value ∨ Says members "error" value

theorem find?_reverse_eq_some_iff {name : String} {members : List (Option String × Json)}
    {m : Option String × Json} :
    members.reverse.find? (·.1 == some name) = some m ↔
      m.1 = some name ∧ ∃ before after, members = before ++ m :: after ∧
        ∀ n ∈ after, n.1 ≠ some name := by
  rw [List.find?_eq_some_iff_append, beq_iff_eq]
  refine and_congr_right fun _ => ?_
  constructor
  · rintro ⟨after, before, hmembers, hafter⟩
    refine ⟨before.reverse, after.reverse, ?_, ?_⟩
    · rw [← List.reverse_reverse members, hmembers]
      simp
    · simpa using hafter
  · rintro ⟨before, after, rfl, hafter⟩
    exact ⟨after.reverse, before.reverse, by simp, by simpa using hafter⟩

theorem textMember?_eq_some_iff {name value : String} {members : List (Option String × Json)} :
    textMember? name members = some value ↔ Says members name value := by
  have hsaid : Says members name value ↔
      value ≠ "" ∧ members.reverse.find? (·.1 == some name) =
        some (some name, .text (some value)) := by
    rw [find?_reverse_eq_some_iff]
    simp [Says]
  rw [hsaid]
  unfold textMember?
  split
  · next n text hfind =>
    have hn : n = some name := (find?_reverse_eq_some_iff.1 hfind).1
    rw [hfind, hn]
    constructor
    · intro h
      obtain ⟨hne, rfl⟩ : text ≠ "" ∧ text = value := by simpa using h
      exact ⟨hne, rfl⟩
    · rintro ⟨hne, h⟩
      cases h
      exact if_neg hne
  · next hother =>
    refine iff_of_false nofun ?_
    rintro ⟨-, hfind⟩
    exact hother _ _ hfind

theorem textMember?_eq_none_iff {name : String} {members : List (Option String × Json)} :
    textMember? name members = none ↔ ∀ value, ¬Says members name value := by
  rw [Option.eq_none_iff_forall_ne_some]
  exact forall_congr' fun value => not_congr textMember?_eq_some_iff

theorem not_explains_iff {members : List (Option String × Json)} :
    ¬Explains members ↔
      textMember? "message" members = none ∧ textMember? "error" members = none := by
  simp only [Explains, textMember?_eq_none_iff, not_exists, not_or, forall_and]

/-! ## The choice -/

/-- What a refusal is to say. -/
inductive Documented (r : Response) : String → Prop
  | message {members : List (Option String × Json)} {value : String}
    (object : Json.parse? r.bodyText = some (.object members))
    (said : Says members "message" value) : Documented r value
  | error {members : List (Option String × Json)} {value : String}
    (object : Json.parse? r.bodyText = some (.object members))
    (unsaid : ∀ other, ¬Says members "message" other) (said : Says members "error" value) :
    Documented r value
  | body (some : r.bodyText ≠ "")
    (unexplained : ∀ members, Json.parse? r.bodyText = .some (.object members) →
      ¬Explains members) : Documented r r.bodyText
  | reason (none : r.bodyText = "") : Documented r r.reason

/-- The body is an object with nothing to say. -/
def Mute (r : Response) : Prop :=
  ∃ members, Json.parseWhole? r.bodyText = some (.object members) ∧ ¬Explains members

/-- If the body is JSON it is not too much to be held: no number is past what a double reaches, no
text has half a surrogate pair, and nothing is nested deeper than the limit. -/
def Held (r : Response) : Prop :=
  ∀ json, Json.parse? r.bodyText = some json → Json.parseWhole? r.bodyText = some json

variable {r : Response}

theorem bodyText_ne_of_parse? {json : Json} (h : Json.parse? r.bodyText = some json) :
    r.bodyText ≠ "" := by
  intro hempty
  rw [hempty] at h
  cases h

theorem detail_of_empty (h : r.bodyText = "") : r.detail = r.reason := by
  rw [bodyText] at h
  simp only [detail, bodyDetail?, h, if_true, Option.getD_none]

theorem detail_of_object {members : List (Option String × Json)}
    (h : Json.parseWhole? r.bodyText = some (.object members)) :
    r.detail =
      ((textMember? "message" members).or (textMember? "error" members)).getD r.reason := by
  have hne := bodyText_ne_of_parse? (Json.parse?_of_parseWhole? h)
  rw [bodyText] at h hne
  simp only [detail, bodyDetail?, hne, if_false, h]

theorem detail_of_other (hne : r.bodyText ≠ "")
    (h : ∀ members, Json.parseWhole? r.bodyText ≠ some (.object members)) :
    r.detail = r.bodyText := by
  rw [bodyText] at h hne ⊢
  simp only [detail, bodyDetail?, hne, if_false]
  rfl

theorem detail_of_mute (h : r.Mute) : r.detail = r.reason := by
  obtain ⟨members, hobject, hmute⟩ := h
  obtain ⟨hmessage, herror⟩ := not_explains_iff.1 hmute
  rw [detail_of_object hobject, hmessage, herror]
  rfl

theorem detail_of_not_held (h : ¬r.Held) : r.detail = r.bodyText := by
  obtain ⟨json, h⟩ := not_forall.1 h
  obtain ⟨hparse, hwhole⟩ := Classical.not_imp.1 h
  refine detail_of_other (bodyText_ne_of_parse? hparse) fun members hobject => hwhole ?_
  rw [hobject, ← Json.parse?_of_parseWhole? hobject, hparse]

theorem Documented.eq {d : String} (h : r.Documented d) :
    d = match Json.parse? r.bodyText with
      | some (.object members) =>
        ((textMember? "message" members).or (textMember? "error" members)).getD r.bodyText
      | _ => if r.bodyText = "" then r.reason else r.bodyText := by
  cases h with
  | message object said =>
    simp only [object, textMember?_eq_some_iff.2 said, Option.some_or, Option.getD_some]
  | error object unsaid said =>
    simp only [object, textMember?_eq_none_iff.2 unsaid, textMember?_eq_some_iff.2 said,
      Option.none_or, Option.getD_some]
  | body hsome unexplained =>
    split
    · next members object =>
      obtain ⟨hmessage, herror⟩ := not_explains_iff.1 (unexplained members object)
      rw [hmessage, herror]
      rfl
    · rw [if_neg hsome]
  | reason none =>
    split
    · next members object => exact (bodyText_ne_of_parse? object none).elim
    · rw [if_pos none]

/-- There is just one thing that a refusal is to say. -/
theorem Documented.unique {a b : String} (ha : r.Documented a) (hb : r.Documented b) : a = b :=
  ha.eq.trans hb.eq.symm

theorem documented_of_not_mute (hheld : r.Held) (h : ¬r.Mute) : r.Documented r.detail := by
  by_cases hempty : r.bodyText = ""
  · rw [detail_of_empty hempty]
    exact .reason hempty
  by_cases hobject : ∃ members, Json.parse? r.bodyText = some (.object members)
  · obtain ⟨members, hparse⟩ := hobject
    rw [detail_of_object (hheld _ hparse)]
    cases hmessage : textMember? "message" members with
    | some value => exact .message hparse (textMember?_eq_some_iff.1 hmessage)
    | none =>
      have hunsaid := textMember?_eq_none_iff.1 hmessage
      cases herror : textMember? "error" members with
      | some value => exact .error hparse hunsaid (textMember?_eq_some_iff.1 herror)
      | none =>
        have hmute : r.Mute :=
          ⟨members, hheld _ hparse, not_explains_iff.2 ⟨hmessage, herror⟩⟩
        exact (h hmute).elim
  · have hparse : ∀ members, Json.parse? r.bodyText ≠ some (.object members) :=
      fun members h => hobject ⟨members, h⟩
    rw [detail_of_other hempty fun members hwhole =>
      hparse members (Json.parse?_of_parseWhole? hwhole)]
    exact .body hempty fun members h => (hparse members h).elim

theorem documented_of_mute (h : r.Mute) : r.Documented r.bodyText := by
  obtain ⟨members, hobject, hmute⟩ := h
  have hparse := Json.parse?_of_parseWhole? hobject
  refine .body (bodyText_ne_of_parse? hparse) fun others h => ?_
  obtain rfl := Json.object.inj (Option.some.inj (hparse.symm.trans h))
  exact hmute

theorem documented_iff (hheld : r.Held) :
    r.Documented r.detail ↔ (r.Mute → r.reason = r.bodyText) := by
  constructor
  · intro h hmute
    rw [detail_of_mute hmute] at h
    exact h.unique (documented_of_mute hmute)
  · intro h
    by_cases hmute : r.Mute
    · rw [detail_of_mute hmute, h hmute]
      exact documented_of_mute hmute
    · exact documented_of_not_mute hheld hmute

end Response

namespace Call

open Response

/-- A failure names the status and gives a detail. That is the one it is to give, unless the body is
an object with nothing to say, which is thrown away for the reason phrase; a body that is too much
to be held is told in full. -/
theorem refusal_explained (origin : Url.Origin) (c : Call) (r : Response) (h : 400 ≤ r.status) :
    (∃ trouble, c.outcome origin (.answered r) = .error trouble ∧
      trouble.text = "Request failed with status " ++ Nat.repr r.status ++
        (if r.detail = "" then "" else ": " ++ r.detail)) ∧
    (r.Held → (r.Documented r.detail ↔ (r.Mute → r.reason = r.bodyText))) ∧
    (r.Mute → r.detail = r.reason) ∧
    (¬r.Held → r.detail = r.bodyText) := by
  refine ⟨⟨_, outcome_of_refusal h, text_refused _ _⟩, documented_iff, detail_of_mute, ?_⟩
  exact detail_of_not_held

/-- The body of a refusal, whose message is empty. -/
def unknownId : Response :=
  ⟨404, "Not Found", .untilClosed,
    "\x7b\"message\":\"\",\"error\":\"Unknown id\"\x7d".toUTF8⟩

theorem refusal_explained_unknownId :
    400 ≤ unknownId.status ∧
    ∃ trouble, probe.outcome localhost (.answered unknownId) = .error trouble ∧
      trouble.text = "Request failed with status 404: Unknown id" := by
  obtain ⟨⟨trouble, houtcome, htext⟩, -⟩ :=
    refusal_explained localhost probe unknownId (by decide)
  have hdetail : unknownId.detail = "Unknown id" := by decide +kernel
  rw [hdetail] at htext
  exact ⟨by decide, trouble, houtcome, htext⟩

/-- A refusal with an object for a body that has neither a message nor an error. -/
def gone : Response := ⟨410, "Stub", .untilClosed, "\x7b\"title\":\"Gone\"\x7d".toUTF8⟩

/-- The body should be told, and is not. -/
theorem mute_body_not_told :
    gone.Documented "\x7b\"title\":\"Gone\"\x7d" ∧
    ∃ trouble, probe.outcome localhost (.answered gone) = .error trouble ∧
      trouble.text = "Request failed with status 410: Stub" := by
  have hbody : gone.bodyText = "\x7b\"title\":\"Gone\"\x7d" := by decide +kernel
  have hmute : gone.Mute := by
    refine ⟨[(some "title", .text (some "Gone"))], ?_, not_explains_iff.2 ⟨rfl, rfl⟩⟩
    rw [hbody]
    rfl
  refine ⟨hbody ▸ documented_of_mute hmute, _, outcome_of_refusal (by decide), ?_⟩
  rw [detail_of_mute hmute]
  decide +kernel

end Call
end RepairConsole
