import RepairConsole.CommandLine.Attempt
import RepairConsole.Proofs.Output
import RepairConsole.Proofs.Query.Attempt
import RepairConsole.Proofs.Query.Validation
/-!
# What a query command leaves behind

Its output and its exit code. A fault decides the exit code and is the whole output, but for an
output that breaks while a report is being written to it. What the service refuses is a report like
any other. Where a report cannot be set, its front is the output, and the exit code is that of a
program that broke off.
-/

namespace RepairConsole

/-- What an operator reads of a failure. -/
inductive Failure.Told (f : Failure) : String → Prop
  | plain (unhinted : f.hint = none) : Told f (f.text ++ "\n")
  | hinted {hint : String} (hinted : f.hint = some hint) :
    Told f (f.text ++ "\n" ++ "hint: " ++ hint ++ "\n")

theorem Failure.told_report (f : Failure) : f.Told f.report := by
  cases hhint : f.hint with
  | none =>
    have hreport : f.report = f.text ++ "\n" := by simp [Failure.report, hhint]
    rw [hreport]
    exact .plain hhint
  | some hint =>
    have hreport : f.report = f.text ++ "\n" ++ "hint: " ++ hint ++ "\n" := by
      simp only [Failure.report, hhint, toString, String.append_assoc]
    rw [hreport]
    exact .hinted hhint

theorem Fault.exitCode_eq (fault : Fault) : fault.failure.exitCode = 1 := by
  cases fault <;> rfl

namespace CommandLine

open Dialogue

abbrev Exchange (σ : Type) := Dialogue.Exchange Request.Answer σ

variable {σ : Type}

/-! ## Exchanges -/

/-- The bytes that an exchange put on the output. -/
def taken? : Exchange σ → Option ByteArray
  | ⟨_, .print bytes, .ok ()⟩ => some bytes
  | ⟨_, .supervise (.print bytes), .ok ()⟩ => some bytes
  | ⟨s, .query _ q, a⟩ => Query.taken? ⟨s, q, a⟩
  | _ => none

/-- The output did not take what was printed. -/
def Refuses : Exchange σ → Prop
  | ⟨_, .print _, .error _⟩ => True
  | ⟨_, .supervise (.print _), .error _⟩ => True
  | ⟨s, .query _ q, a⟩ => Query.Refuses ⟨s, q, a⟩
  | _ => False

def made? : Exchange σ → Option (Σ c : Call, Outcome c.Payload)
  | ⟨s, .query _ q, a⟩ => Query.made? ⟨s, q, a⟩
  | _ => none

def output (exchanges : List (Exchange σ)) : ByteArray :=
  (exchanges.filterMap taken?).foldr (· ++ ·) ByteArray.empty

/-- The output took all that was printed. -/
def Smooth (exchanges : List (Exchange σ)) : Prop := ∀ e ∈ exchanges, ¬ Refuses e

def asked (origin : Url.Origin) : Query.Exchange σ → Exchange σ
  | ⟨s, q, a⟩ => ⟨s, .query origin q, a⟩

section Courses

variable (answer : (q : Request) → σ → q.Answer × σ)

def answerAt (origin : Url.Origin) (q : Query.Request) (s : σ) : q.Answer × σ :=
  answer (.query origin q) s

variable {α : Type} (origin : Url.Origin)

theorem course_querying (d : Query.Conversation α) (s : σ) :
    (querying origin d).course answer s =
      (d.course (answerAt answer origin) s).map (asked origin) := by
  induction d generalizing s with
  | done result => rfl
  | ask q next ih => exact congrArg (_ :: ·) (ih _ _)

theorem run_querying (d : Query.Conversation α) (s : σ) :
    (querying origin d).run answer s = d.run (answerAt answer origin) s := by
  induction d generalizing s with
  | done result => rfl
  | ask q next ih => exact ih _ _

/-- After a success nothing more is done, nor after breaking off, and after a fault it is told. -/
inductive Concluded (t : σ) : Option (Except Fault Unit) → List (Exchange σ) → Nat → Prop
  | well : Concluded t (some (.ok ())) [] 0
  | off : Concluded t none [] 101
  | told (fault : Fault) (taken : Except SystemError Unit) :
    Concluded t (some (.error fault)) [⟨t, .print fault.failure.report.toUTF8, taken⟩] 1

namespace Concluded

variable {t : σ} {result : Option (Except Fault Unit)} {last : List (Exchange σ)} {code : Nat}

theorem code_cases (h : Concluded t result last code) : code = 0 ∨ code = 1 ∨ code = 101 := by
  cases h with
  | well => exact Or.inl rfl
  | off => exact Or.inr (Or.inr rfl)
  | told fault taken => exact Or.inr (Or.inl rfl)

theorem code_eq_zero_iff (h : Concluded t result last code) :
    code = 0 ↔ result = some (.ok ()) := by
  cases h with
  | well => exact iff_of_true rfl rfl
  | off | told fault taken => exact iff_of_false nofun nofun

theorem code_eq_brokenOff_iff (h : Concluded t result last code) : code = 101 ↔ result = none := by
  cases h with
  | off => exact iff_of_true rfl rfl
  | well | told fault taken => exact iff_of_false nofun nofun

theorem made_eq (h : Concluded t result last code) : last.filterMap made? = [] := by
  cases h with
  | well | off => rfl
  | told fault taken => rfl

theorem eq_nil (h : Concluded t result last code) (hfault : ∀ fault, result ≠ some (.error fault)) :
    last = [] := by
  cases h with
  | well | off => rfl
  | told fault taken => exact absurd rfl (hfault fault)

end Concluded

theorem conclude_concluded (result : Option (Except Fault Unit)) (t : σ) :
    Concluded t result ((conclude result).course answer t) ((conclude result).run answer t).1 := by
  match result with
  | none => exact .off
  | some (.ok ()) => exact .well
  | some (.error fault) =>
    have hcode : ((conclude (some (.error fault))).run answer t).1 = fault.failure.exitCode := rfl
    rw [hcode, fault.exitCode_eq]
    exact .told fault _

/-- What attempting an invocation comes to: the command, then its conclusion. -/
theorem attempt_concluded {words : List String} {invocation : Invocation}
    (h : read words = .ok invocation) (s : σ) :
    ∃ t last,
      Concluded t (invocation.attempt.run answer s).1 last ((attempt words).run answer s).1 ∧
      (attempt words).course answer s = invocation.attempt.course answer s ++ last := by
  have hattempt : attempt words = invocation.attempt.bind conclude := by
    rw [attempt, h]
    rfl
  rw [hattempt, course_bind, run_bind]
  exact ⟨_, _, conclude_concluded answer _ _, rfl⟩

end Courses

/-! ## Queries -/

section Asked

variable {origin : Url.Origin} {exchanges : List (Query.Exchange σ)} {last : List (Exchange σ)}

theorem refuses_asked (e : Query.Exchange σ) : Refuses (asked origin e) ↔ Query.Refuses e := Iff.rfl

theorem smooth_asked :
    Smooth (exchanges.map (asked origin)) ↔ ∀ e ∈ exchanges, ¬ Query.Refuses e := by
  simp only [Smooth, List.forall_mem_map, refuses_asked]

theorem filterMap_taken_asked :
    (exchanges.map (asked origin)).filterMap taken? = exchanges.filterMap Query.taken? := by
  rw [List.filterMap_map]
  rfl

theorem made_of_concluded {t : σ} {result : Option (Except Fault Unit)} {code : Nat}
    (h : Concluded t result last code) :
    (exchanges.map (asked origin) ++ last).filterMap made? = exchanges.filterMap Query.made? := by
  rw [List.filterMap_append, h.made_eq, List.append_nil, List.filterMap_map]
  rfl

theorem smooth_of_append (h : Smooth (exchanges.map (asked origin) ++ last)) :
    ∀ e ∈ exchanges, ¬ Query.Refuses e :=
  smooth_asked.1 fun e he => h e (List.mem_append_left _ he)

/-- Once the second call was made and all of its report was taken that can be set, nothing is left
to tell. -/
theorem output_of_second {command : Query.Command} {s t : σ} {result : Option (Except Fault Unit)}
    {code : Nat} (hends : Query.Ends command s exchanges result)
    (hlast : Concluded t result last code) {made : Σ c : Call, Outcome c.Payload}
    (hsecond : (exchanges.filterMap Query.made?)[1]? = some made)
    (smooth : Smooth (exchanges.map (asked origin) ++ last)) :
    ∃ parts, Query.Shows command exchanges made parts ∧
      output (exchanges.map (asked origin) ++ last) = (textOf (Report.set parts).1).toUTF8 := by
  obtain ⟨hfault, parts, hshows, htaken⟩ := hends.of_second hsecond (smooth_of_append smooth)
  refine ⟨parts, hshows, ?_⟩
  rw [hlast.eq_nil hfault, List.append_nil, output, filterMap_taken_asked, htaken]
  exact joined_lineWrites _

/-- A fault that is told after nothing was put out is the whole output. -/
theorem output_told {fault : Fault} {t : σ} {taken : Except SystemError Unit}
    {before : List (Exchange σ)} (hbefore : before.filterMap taken? = [])
    (smooth : Smooth (before ++ [⟨t, .print fault.failure.report.toUTF8, taken⟩])) :
    ∃ text, fault.failure.Told text ∧
      output (before ++ [⟨t, .print fault.failure.report.toUTF8, taken⟩]) = text.toUTF8 := by
  refine ⟨fault.failure.report, fault.failure.told_report, ?_⟩
  have hlast : ¬ Refuses ⟨t, .print fault.failure.report.toUTF8, taken⟩ := smooth _ (by simp)
  cases taken with
  | error e => exact absurd trivial hlast
  | ok done =>
    rw [output, List.filterMap_append, hbefore]
    exact ByteArray.append_empty

/-- A query that printed nothing leaves no text but that of its fault. -/
theorem told_of_concluded {fault : Fault} {t : σ} {code : Nat}
    (hlast : Concluded t (some (.error fault)) last code)
    (hprints : exchanges.filterMap Query.printed? = [])
    (smooth : Smooth (exchanges.map (asked origin) ++ last)) :
    ∃ text, fault.failure.Told text ∧
      output (exchanges.map (asked origin) ++ last) = text.toUTF8 := by
  have htaken : (exchanges.map (asked origin)).filterMap taken? = [] := by
    rw [filterMap_taken_asked, List.filterMap_eq_nil_iff]
    intro e he
    exact Query.taken?_eq_none (List.filterMap_eq_nil_iff.1 hprints e he)
  cases hlast with
  | told _ taken => exact output_told htaken smooth

end Asked

/-- What becomes of a command line with a base URL that is none. -/
structure Barred (fault : Fault) (exchanges : List (Exchange σ)) (code : Nat) : Prop where
  unasked : exchanges.filterMap made? = []
  code : code = 1
  told : Smooth exchanges →
    ∃ text, fault.failure.Told text ∧ output exchanges = text.toUTF8

/-- All tables of the report can be set. -/
def Whole (command : Query.Command) (exchanges : List (Exchange σ)) : Prop :=
  ∀ made, (exchanges.filterMap made?)[1]? = some made → Query.Settable command made

/-- What becomes of a query that is put to the service at an origin. -/
structure Settled (answer : (q : Request) → σ → q.Answer × σ) (s : σ) (origin : Url.Origin)
    (command : Query.Command) (exchanges : List (Exchange σ)) (code : Nat) : Prop where
  codes : code = 0 ∨ code = 1 ∨ code = 101
  succeeds : code = 0 ↔ Query.Reachable (answerAt answer origin) s ∧
    (∀ rule ∈ command.rules, ¬ rule.broken) ∧ Smooth exchanges ∧ Whole command exchanges
  breaksOff : code = 101 ↔ Query.Reachable (answerAt answer origin) s ∧
    (∀ rule ∈ command.rules, ¬ rule.broken) ∧ Smooth exchanges ∧ ¬ Whole command exchanges
  calls : (exchanges.filterMap made?).length ≤ 2
  callsOfRun : exchanges.filterMap made? =
    ((Query.run command).course (answerAt answer origin) s).filterMap Query.made?
  resultOfRun : code ≠ 101 → ((Query.attempt command).run (answerAt answer origin) s).1 =
    some ((Query.run command).run (answerAt answer origin) s).1
  secondFailed : ∀ c trouble, (exchanges.filterMap made?)[1]? = some ⟨c, .error trouble⟩ →
    Smooth exchanges → output exchanges = (trouble.text ++ "\n").toUTF8
  secondAnswered : ∀ c payload, (exchanges.filterMap made?)[1]? = some ⟨c, .ok payload⟩ →
    Smooth exchanges → ∃ t now, ⟨t, .query origin .clock, now⟩ ∈ exchanges ∧
      output exchanges =
        (textOf (Report.set (Query.rendering now command c payload)).1).toUTF8
  gate : ¬ (Query.Reachable (answerAt answer origin) s ∧ ∀ rule ∈ command.rules, ¬ rule.broken) →
    ∃ fault, ((Query.attempt command).run (answerAt answer origin) s).1 = some (.error fault) ∧
      (fault.failure.kind = .serviceUnreachable ∨ fault.failure.kind = .invalidArgument)
  told : ∀ fault,
    ((Query.attempt command).run (answerAt answer origin) s).1 = some (.error fault) →
    fault.failure.kind = .serviceUnreachable ∨ fault.failure.kind = .invalidArgument →
    Query.prints (answerAt answer origin) s (Query.attempt command) = [] ∧
      (Smooth exchanges → ∃ text, fault.failure.Told text ∧ output exchanges = text.toUTF8)

variable (answer : (q : Request) → σ → q.Answer × σ) (s : σ) {words : List String}
  {url : Option String} {command : Query.Command}

theorem barred_attempt (h : read words = .ok (.query url command)) {fault : Fault}
    (hurl : Url.baseOfOption url = .error fault) :
    Barred fault ((attempt words).course answer s) ((attempt words).run answer s).1 := by
  obtain ⟨t, last, hlast, hcourse⟩ := attempt_concluded answer h s
  have hattempt : (Invocation.query url command).attempt = .done (some (.error fault)) := by
    rw [Invocation.attempt, attemptQuery, hurl]
    rfl
  rw [hcourse, hattempt]
  rw [hattempt] at hlast
  generalize ((attempt words).run answer s).1 = code at hlast ⊢
  cases hlast with
  | told _ taken => exact ⟨rfl, rfl, output_told rfl⟩

theorem whole_of_concluded {origin : Url.Origin} {exchanges : List (Query.Exchange σ)} {t : σ}
    {result : Option (Except Fault Unit)} {last : List (Exchange σ)} {code : Nat}
    (hlast : Concluded t result last code) :
    Whole command (exchanges.map (asked origin) ++ last) ↔ Query.Whole command exchanges := by
  rw [Whole, made_of_concluded hlast, Query.Whole]

theorem settled_of_concluded {origin : Url.Origin} {t : σ} {last : List (Exchange σ)} {code : Nat}
    (hlast : Concluded t ((Query.attempt command).run (answerAt answer origin) s).1 last code) :
    Settled answer s origin command
      (((Query.attempt command).course (answerAt answer origin) s).map (asked origin) ++ last)
      code := by
  have hends := Query.attempt_ends (answerAt answer origin) command s
  have hgreeted := Query.greeted_course (answerAt answer origin) command s
  -- Without a fault to tell the exchanges of the query are all there are.
  have hsmooth (hfault : ∀ fault,
      ((Query.attempt command).run (answerAt answer origin) s).1 ≠ some (.error fault)) :
      (∀ e ∈ (Query.attempt command).course (answerAt answer origin) s, ¬ Query.Refuses e) →
        Smooth (((Query.attempt command).course (answerAt answer origin) s).map (asked origin) ++
          last) := by
    rw [hlast.eq_nil hfault, List.append_nil]
    exact smooth_asked.2
  refine ⟨hlast.code_cases, ?_, ?_, ?_, ?_, ?_, ?_, ?_, ?_, ?_⟩
  · rw [hlast.code_eq_zero_iff, hends.ok_iff, hgreeted, whole_of_concluded hlast]
    refine ⟨fun h => ⟨h.1, h.2.1, hsmooth (fun fault hfault => ?_) h.2.2.1, h.2.2.2⟩,
      fun h => ⟨h.1, h.2.1, smooth_of_append h.2.2.1, h.2.2.2⟩⟩
    rw [hends.ok_iff.2 ⟨hgreeted.2 h.1, h.2⟩] at hfault
    cases hfault
  · rw [hlast.code_eq_brokenOff_iff, hends.none_iff, hgreeted, whole_of_concluded hlast]
    refine ⟨fun h => ⟨h.1, h.2.1, hsmooth (fun fault hfault => ?_) h.2.2.1, h.2.2.2⟩,
      fun h => ⟨h.1, h.2.1, smooth_of_append h.2.2.1, h.2.2.2⟩⟩
    rw [hends.none_iff.2 ⟨hgreeted.2 h.1, h.2⟩] at hfault
    cases hfault
  · rw [made_of_concluded hlast]
    exact hends.made_length
  · rw [made_of_concluded hlast]
    exact Query.made_attempt _ command s
  · intro hcode
    have hsome := mt hlast.code_eq_brokenOff_iff.2 hcode
    exact (Query.attempt_none_or_run _ command s).resolve_left hsome
  · intro c trouble h smooth
    rw [made_of_concluded hlast] at h
    obtain ⟨parts, hshows, houtput⟩ := output_of_second hends hlast h smooth
    cases hshows with
    | trouble =>
      rw [Query.set_text] at houtput
      simpa using houtput
  · intro c payload h smooth
    rw [made_of_concluded hlast] at h
    obtain ⟨parts, hshows, houtput⟩ := output_of_second hends hlast h smooth
    cases hshows with
    | answer _ _ u now hread =>
      have hmem := List.mem_map_of_mem (f := asked origin) hread
      exact ⟨u, now, List.mem_append_left last hmem, houtput⟩
  · rw [← hgreeted]
    exact hends.kind_of_gate
  · intro fault hfault hkind
    rw [hfault] at hends hlast
    -- A query that has begun to print ends in no fault but that of its output.
    have hio : fault.failure.kind ≠ .io := by
      rcases hkind with h | h
      · rw [h]
        decide
      · rw [h]
        decide
    have hprints := hends.silent hio
    exact ⟨hprints, told_of_concluded hlast hprints⟩

theorem settled_attempt (h : read words = .ok (.query url command)) {origin : Url.Origin}
    (hurl : Url.baseOfOption url = .ok origin) :
    Settled answer s origin command ((attempt words).course answer s)
      ((attempt words).run answer s).1 := by
  obtain ⟨t, last, hlast, hcourse⟩ := attempt_concluded answer h s
  have hattempt : (Invocation.query url command).attempt =
      querying origin (Query.attempt command) := by
    rw [Invocation.attempt, attemptQuery, hurl]
  rw [hattempt, run_querying] at hlast
  rw [hcourse, hattempt, course_querying]
  exact settled_of_concluded answer s hlast

/-- A base URL that is none ends a query before anything is asked. With one that is, the exit code
tells if the service was there, the command kept its rules and the output took what was printed;
what the service said to the call is printed and does not matter for it. Only a report that cannot
be set breaks the program off, behind its front. -/
theorem query_outcome (h : read words = .ok (.query url command)) :
    (∀ fault, Url.baseOfOption url = .error fault →
      Barred fault ((attempt words).course answer s) ((attempt words).run answer s).1) ∧
    ∀ origin, Url.baseOfOption url = .ok origin →
      Settled answer s origin command ((attempt words).course answer s)
        ((attempt words).run answer s).1 :=
  ⟨fun _ hurl => barred_attempt answer s h hurl, fun _ hurl => settled_attempt answer s h hurl⟩

/-- A machine on which nothing can be done but ask a service that has nothing to tell. -/
def bare : (q : Request) → Unit → q.Answer × Unit
  | .home, s => (none, s)
  | .executable, s => ("", s)
  | .launch (.readFile _), s => (.error .unsupported, s)
  | .launch (.listNames _), s => (.error .unsupported, s)
  | .supervise q, s => (refuse q, s)
  | .query _ q, s => Query.idle q s
  | .print _, s => (.ok (), s)
where
  refuse : (q : Supervisor.Request) → q.Answer
    | .spawn _ _ => .error .unsupported
    | .writeFile _ _ => .error .unsupported
    | .readFile _ => .error .unsupported
    | .removeFile _ => .error .unsupported
    | .discard _ => ()
    | .print _ => .error .unsupported
    | .relay _ => .ok .finished
    | .await _ => .ok ()
    | .terminate _ => .error .unsupported

/-- A schedule that the service does not know is told of, and is no failure. -/
theorem query_outcome_refused :
    let words := ["schedules", "--id", "a"]
    let exchanges := (attempt words).course bare ()
    read words = .ok (.query none (.schedules none none (some "a") false (-1))) ∧
      ((attempt words).run bare ()).1 = 0 ∧
      output exchanges = "Request failed with status 404\n".toUTF8 := by
  intro words exchanges
  have hread : read words = .ok (.query none (.schedules none none (some "a") false (-1))) := by
    decide +kernel
  have horigin : ∃ origin, Url.baseOfOption none = .ok origin := by
    refine ⟨⟨"http", [], [], .name "localhost".toList, some 8080⟩, ?_⟩
    decide +kernel
  obtain ⟨origin, horigin⟩ := horigin
  have hsettled := (query_outcome bare () hread).2 origin horigin
  have hsmooth : Smooth exchanges :=
    List.forall_mem_cons.2 ⟨id, List.forall_mem_cons.2 ⟨id, List.forall_mem_cons.2
      ⟨id, List.forall_mem_singleton.2 id⟩⟩⟩
  have hreach : Query.Reachable (answerAt bare origin) () := ⟨[], rfl⟩
  have hkept : ∀ rule ∈ (Query.Command.schedules none none (some "a") false (-1)).rules,
      ¬ rule.broken := by
    have hid : ¬ Absent (some "a") := fun h => h "a" ⟨rfl, by decide⟩
    exact List.forall_mem_cons.2 ⟨fun h => hid h.1, List.forall_mem_singleton.2 fun h => hid h.1⟩
  have hwhole : Whole (.schedules none none (some "a") false (-1)) exchanges := by
    rintro made ⟨⟩
    trivial
  refine ⟨hread, hsettled.succeeds.2 ⟨hreach, hkept, hsmooth, hwhole⟩, ?_⟩
  exact hsettled.secondFailed (.getSchedule "a" false) (.refused 404 "") rfl hsmooth

end CommandLine
end RepairConsole
