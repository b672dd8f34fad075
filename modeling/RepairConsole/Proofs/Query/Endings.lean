import RepairConsole.Proofs.Query.Forwarding
import RepairConsole.Proofs.Query.Gate
import RepairConsole.Proofs.Report.Frame
import RepairConsole.Query.Attempt
/-!
# How queries end

One statement that says all a query can do: what it asks, what it is answered, what it prints and
what comes of it. Nothing comes of it if its report breaks off.
-/

namespace RepairConsole.Query

open Dialogue

variable {σ : Type} {answer : (q : Request) → σ → q.Answer × σ}

/-- The bytes that an exchange put on the output. -/
def taken? : Exchange σ → Option ByteArray
  | ⟨_, .print bytes, .ok ()⟩ => some bytes
  | _ => none

/-- The output did not take what was printed. -/
def Refuses : Exchange σ → Prop
  | ⟨_, .print _, .error _⟩ => True
  | _ => False

/-- The call that an exchange made, and its outcome. -/
def made? : Exchange σ → Option (Σ c : Call, Outcome c.Payload)
  | ⟨_, .call c, outcome⟩ => some ⟨c, outcome⟩
  | _ => none

theorem taken?_eq_none {e : Exchange σ} (h : printed? e = none) : taken? e = none := by
  obtain ⟨before, q, reply⟩ := e
  cases q with
  | print bytes => cases h
  | call c | clock => rfl

theorem made_of_prints {exchanges : List (Exchange σ)} (h : ∀ e ∈ exchanges, e.request.prints) :
    exchanges.filterMap made? = [] := by
  rw [List.filterMap_eq_nil_iff]
  intro e he
  have hprints := h e he
  obtain ⟨before, q, reply⟩ := e
  cases q with
  | print bytes => rfl
  | call c | clock => exact hprints.elim

/-! ## Lines -/

/-- What printing lines comes to: all of them are on the output, or it refused one. -/
inductive Printed (lines : List String) : List (Exchange σ) → Except Fault Unit → Prop
  | all {exchanges : List (Exchange σ)} (asked : ∀ e ∈ exchanges, e.request.prints)
    (taken : exchanges.filterMap taken? = lineWrites lines)
    (smooth : ∀ e ∈ exchanges, ¬ Refuses e) : Printed lines exchanges (.ok ())
  | broken {exchanges : List (Exchange σ)} {error : SystemError}
    (asked : ∀ e ∈ exchanges, e.request.prints)
    (refused : ∃ e ∈ exchanges, Refuses e) :
    Printed lines exchanges (.error (.outputFailed error))

theorem printed_printLines (answer : (q : Request) → σ → q.Answer × σ) (lines : List String)
    (s : σ) :
    Printed lines ((printLines lines).course answer s) ((printLines lines).run answer s).1 := by
  induction lines generalizing s with
  | nil => exact .all (List.forall_mem_nil _) rfl (List.forall_mem_nil _)
  | cons line rest ih =>
    rw [printLines, course_ask, run_ask]
    cases hprint : (answer (.print (line ++ "\n").toUTF8) s).1 with
    | error e =>
      refine .broken ?_ ⟨_, List.mem_cons_self, trivial⟩
      exact List.forall_mem_singleton.2 trivial
    | ok done =>
      have hrest := ih (answer (.print (line ++ "\n").toUTF8) s).2
      dsimp only
      generalize (printLines rest).course answer _ = exchanges at hrest ⊢
      generalize ((printLines rest).run answer _).1 = result at hrest ⊢
      cases hrest with
      | all asked taken smooth =>
        refine .all (List.forall_mem_cons.2 ⟨trivial, asked⟩) ?_
          (List.forall_mem_cons.2 ⟨id, smooth⟩)
        change (line ++ "\n").toUTF8 :: exchanges.filterMap taken? = _
        rw [taken]
        rfl
      | broken asked refused =>
        obtain ⟨e, he, hrefuses⟩ := refused
        exact .broken (List.forall_mem_cons.2 ⟨trivial, asked⟩)
          ⟨e, List.mem_cons_of_mem _ he, hrefuses⟩

namespace Printed

variable {lines : List String} {exchanges : List (Exchange σ)} {result : Except Fault Unit}

theorem ok_iff (h : Printed lines exchanges result) :
    result = .ok () ↔ ∀ e ∈ exchanges, ¬ Refuses e := by
  cases h with
  | all asked taken smooth => exact iff_of_true rfl smooth
  | broken asked refused =>
    obtain ⟨e, he, hrefuses⟩ := refused
    exact iff_of_false nofun fun h => h e he hrefuses

theorem taken_eq (h : Printed lines exchanges result) (smooth : ∀ e ∈ exchanges, ¬ Refuses e) :
    exchanges.filterMap taken? = lineWrites lines := by
  cases h with
  | all asked taken smooth => exact taken
  | broken asked refused =>
    obtain ⟨e, he, hrefuses⟩ := refused
    exact absurd hrefuses (smooth e he)

theorem made_eq (h : Printed lines exchanges result) : exchanges.filterMap made? = [] := by
  cases h with
  | all asked taken smooth => exact made_of_prints asked
  | broken asked refused => exact made_of_prints asked

theorem kind_eq {fault : Fault} (h : Printed lines exchanges (.error fault)) :
    fault.failure.kind = .io := by
  cases h with
  | broken asked refused => rfl

end Printed

/-! ## Reports -/

/-- What printing a report comes to: all of it is on the output, or what can be set of it, or the
output refused a line of that. -/
inductive Reported (parts : List Report.Part) :
    List (Exchange σ) → Option (Except Fault Unit) → Prop
  | whole {exchanges : List (Exchange σ)} (whole : (Report.set parts).2 = true)
    (printed : Printed (Report.set parts).1 exchanges (.ok ())) :
    Reported parts exchanges (some (.ok ()))
  | off {exchanges : List (Exchange σ)} (broken : (Report.set parts).2 = false)
    (printed : Printed (Report.set parts).1 exchanges (.ok ())) : Reported parts exchanges none
  | refused {exchanges : List (Exchange σ)} {fault : Fault}
    (printed : Printed (Report.set parts).1 exchanges (.error fault)) :
    Reported parts exchanges (some (.error fault))

theorem set_text (lines : List String) : Report.set [.text lines] = (lines, true) := by
  rw [Report.set_of_settable (List.forall_mem_singleton.2 rfl)]
  exact congrArg (·, true) (List.append_nil lines)

theorem printParts_eq (parts : List Report.Part) :
    printParts parts = (printLines (Report.set parts).1).bind fun
      | .error fault => .done (some (.error fault))
      | .ok () => .done (if (Report.set parts).2 then some (.ok ()) else none) := by
  unfold printParts
  generalize Report.set parts = front
  obtain ⟨lines, whole⟩ := front
  cases whole <;> rfl

/-- A text is a report that can be set. -/
theorem printParts_text (lines : List String) :
    printParts [.text lines] = (printLines lines).bind fun result => .done (some result) := by
  rw [printParts_eq, set_text]
  congr 1
  funext result
  cases result <;> rfl

theorem reported_printParts (answer : (q : Request) → σ → q.Answer × σ)
    (parts : List Report.Part) (s : σ) :
    Reported parts ((printParts parts).course answer s) ((printParts parts).run answer s).1 := by
  have hprinted := printed_printLines answer (Report.set parts).1 s
  rw [printParts_eq, run_bind, course_bind]
  generalize ((printLines (Report.set parts).1).run answer s).1 = result at hprinted ⊢
  cases result with
  | error fault =>
    rw [course_done, List.append_nil]
    exact .refused hprinted
  | ok =>
    rw [course_done, List.append_nil]
    cases hset : (Report.set parts).2 with
    | true => exact .whole hset hprinted
    | false => exact .off hset hprinted

namespace Reported

variable {parts : List Report.Part} {exchanges : List (Exchange σ)}
  {result : Option (Except Fault Unit)}

theorem made_eq (h : Reported parts exchanges result) : exchanges.filterMap made? = [] := by
  cases h with
  | whole _ printed | off _ printed | refused printed => exact printed.made_eq

/-- If the output takes everything, whether the report can be set decides what comes of it. -/
theorem ok_iff (h : Reported parts exchanges result) :
    result = some (.ok ()) ↔ (∀ e ∈ exchanges, ¬ Refuses e) ∧ (Report.set parts).2 = true := by
  cases h with
  | whole whole printed => exact iff_of_true rfl ⟨printed.ok_iff.1 rfl, whole⟩
  | off broken printed => exact iff_of_false nofun fun h => absurd h.2 (by simp [broken])
  | refused printed => exact iff_of_false nofun fun h => nomatch printed.ok_iff.2 h.1

theorem none_iff (h : Reported parts exchanges result) :
    result = none ↔ (∀ e ∈ exchanges, ¬ Refuses e) ∧ (Report.set parts).2 = false := by
  cases h with
  | whole whole printed => exact iff_of_false nofun fun h => absurd h.2 (by simp [whole])
  | off broken printed => exact iff_of_true rfl ⟨printed.ok_iff.1 rfl, broken⟩
  | refused printed => exact iff_of_false nofun fun h => nomatch printed.ok_iff.2 h.1

theorem taken_eq (h : Reported parts exchanges result) (smooth : ∀ e ∈ exchanges, ¬ Refuses e) :
    exchanges.filterMap taken? = lineWrites (Report.set parts).1 := by
  cases h with
  | whole _ printed | off _ printed | refused printed => exact printed.taken_eq smooth

theorem kind_eq {fault : Fault} (h : Reported parts exchanges (some (.error fault))) :
    fault.failure.kind = .io := by
  cases h with
  | refused printed => exact printed.kind_eq

end Reported

/-- What is to be shown of the answer to a command's call. -/
def rendering (now : Calendar.Moment) : Command → (c : Call) → c.Payload → List Report.Part
  | .schedules _ _ _ full limit, .getSchedule _ _, s =>
    Report.scheduleParts (Report.limitOf limit) full s
  | .schedules _ _ _ _ limit, .listSchedules _ _, all =>
    Report.schedulesParts now (Report.limitOf limit) all
  | .repairs _ _ _ _ limit, .getRepair _ _, all =>
    Report.repairsParts (Report.limitOf limit) all
  | .repairs _ _ _ _ limit, .listRepairs _ _ _, all =>
    Report.repairsParts (Report.limitOf limit) all
  | .runRepair _ _ _, .triggerRepair _ _ _, all => Report.repairsParts none all
  | .repairInfo _ _ _ _ _ limit, .repairInfo _ _ _ _ _, info =>
    Report.repairInfoParts (Report.limitOf limit) info
  | _, _, _ => []

/-- Whether a report can be set does not hang on when it is made. -/
theorem set_rendering (now later : Calendar.Moment) (command : Command) (c : Call)
    (payload : c.Payload) :
    (Report.set (rendering later command c payload)).2 =
      (Report.set (rendering now command c payload)).2 := by
  cases command with
  | schedules keyspace table id full limit =>
    cases c with
    | listSchedules => exact (Report.set_schedulesParts now later _ payload).2
    | _ => rfl
  | _ => cases c <;> rfl

/-- What is to be printed after a call: its trouble, or what the command shows of the answer by the
clock that was read. -/
inductive Shows (command : Command) (exchanges : List (Exchange σ)) :
    (Σ c : Call, Outcome c.Payload) → List Report.Part → Prop
  | trouble (c : Call) (trouble : Trouble) :
    Shows command exchanges ⟨c, .error trouble⟩ [.text [trouble.text]]
  | answer (c : Call) (payload : c.Payload) (t : σ) (now : Calendar.Moment)
    (read : ⟨t, .clock, now⟩ ∈ exchanges) :
    Shows command exchanges ⟨c, .ok payload⟩ (rendering now command c payload)

/-- All tables of what the command shows of an outcome can be set. -/
def Settable (command : Command) : (Σ c : Call, Outcome c.Payload) → Prop
  | ⟨c, .ok payload⟩ => ∀ now, (Report.set (rendering now command c payload)).2 = true
  | ⟨_, .error _⟩ => True

theorem settable_iff_of_shows {command : Command} {exchanges : List (Exchange σ)}
    {made : Σ c : Call, Outcome c.Payload} {parts : List Report.Part}
    (h : Shows command exchanges made parts) :
    Settable command made ↔ (Report.set parts).2 = true := by
  cases h with
  | trouble c trouble => exact iff_of_true trivial (congrArg Prod.snd (set_text _))
  | answer c payload t now read =>
    exact ⟨fun h => h now, fun h later => (set_rendering now later command c payload).trans h⟩

theorem parts_of_plan {now : Calendar.Moment} {command : Command} {plan : Plan}
    (h : command.plan now = .ok (some plan)) (later : Calendar.Moment)
    (payload : plan.call.Payload) :
    plan.parts later payload = rendering later command plan.call payload := by
  cases command with
  | status => cases h
  | schedules keyspace table id full limit =>
    cases hid : given id with
    | some raw =>
      simp only [Command.plan, hid] at h
      cases h
      rfl
    | none =>
      simp only [Command.plan, hid] at h
      split at h
      · cases h
      · obtain ⟨pair, -, h⟩ := bind_eq_ok h
        cases h
        rfl
  | repairs keyspace table id hostId limit =>
    cases hid : given id with
    | some raw =>
      simp only [Command.plan, hid] at h
      cases h
      rfl
    | none =>
      simp only [Command.plan, hid] at h
      obtain ⟨pair, -, h⟩ := bind_eq_ok h
      cases h
      rfl
  | runRepair keyspace table localOnly =>
    obtain ⟨pair, -, h⟩ := bind_eq_ok h
    cases h
    rfl
  | repairInfo keyspace table since duration localOnly limit =>
    obtain ⟨pair, -, h⟩ := bind_eq_ok h
    obtain ⟨w, -, h⟩ := bind_eq_ok h
    cases h
    rfl

/-! ## Queries -/

/-- All that a query can do. -/
inductive Ends (command : Command) (s : σ) :
    List (Exchange σ) → Option (Except Fault Unit) → Prop
  /-- The service is not there. -/
  | unreachable (trouble : Trouble) :
    Ends command s [⟨s, .call Call.probe, .error trouble⟩] (some (.error .unreachable))
  /-- The command breaks a rule. -/
  | rejected (listed : List Schedule) (t : σ) (now : Calendar.Moment) (fault : Fault)
    (broken : ∃ rule ∈ command.rules, rule.broken)
    (kind : fault.failure.kind = .invalidArgument) :
    Ends command s [⟨s, .call Call.probe, .ok listed⟩, ⟨t, .clock, now⟩] (some (.error fault))
  /-- There is nothing more to ask. -/
  | running (listed : List Schedule) (t : σ) (now : Calendar.Moment)
    (kept : ∀ rule ∈ command.rules, ¬ rule.broken)
    {printing : List (Exchange σ)} {result : Option (Except Fault Unit)}
    (reported : Reported [.text [running]] printing result) :
    Ends command s (⟨s, .call Call.probe, .ok listed⟩ :: ⟨t, .clock, now⟩ :: printing) result
  /-- The call came to nothing. -/
  | failed (listed : List Schedule) (t : σ) (now : Calendar.Moment)
    (kept : ∀ rule ∈ command.rules, ¬ rule.broken) (u : σ) (c : Call) (trouble : Trouble)
    {printing : List (Exchange σ)} {result : Option (Except Fault Unit)}
    (reported : Reported [.text [trouble.text]] printing result) :
    Ends command s (⟨s, .call Call.probe, .ok listed⟩ :: ⟨t, .clock, now⟩ ::
      ⟨u, .call c, .error trouble⟩ :: printing) result
  /-- The call was answered. -/
  | answered (listed : List Schedule) (t : σ) (now : Calendar.Moment)
    (kept : ∀ rule ∈ command.rules, ¬ rule.broken) (u : σ) (c : Call) (payload : c.Payload)
    (v : σ) (later : Calendar.Moment) {printing : List (Exchange σ)}
    {result : Option (Except Fault Unit)}
    (reported : Reported (rendering later command c payload) printing result) :
    Ends command s (⟨s, .call Call.probe, .ok listed⟩ :: ⟨t, .clock, now⟩ ::
      ⟨u, .call c, .ok payload⟩ :: ⟨v, .clock, later⟩ :: printing) result

/-- The service answered the call that asks whether it is there. -/
def Greeted : List (Exchange σ) → Prop
  | ⟨_, .call _, .ok _⟩ :: _ => True
  | _ => False

theorem greeted_ok {s : σ} {rest : List (Exchange σ)} (listed : Call.probe.Payload) :
    Greeted (⟨s, .call Call.probe, .ok listed⟩ :: rest) := trivial

theorem not_greeted_error {s : σ} {rest : List (Exchange σ)} {trouble : Trouble} :
    ¬ Greeted (⟨s, .call Call.probe, .error trouble⟩ :: rest) := id

theorem attemptPlan_eq (plan : Plan) :
    attemptPlan plan = .ask (.call plan.call) fun
      | .error trouble => printParts [.text [trouble.text]]
      | .ok payload => .ask .clock fun now => printParts (plan.parts now payload) := by
  refine ask_congr fun outcome => ?_
  cases outcome with
  | error trouble => exact (printParts_text _).symm
  | ok payload => rfl

/-- What an attempt still does once a command was looked at. -/
def attemptObeying : Except Fault (Option Plan) → Conversation (Option (Except Fault Unit))
  | .error fault => .done (some (.error fault))
  | .ok none => (printLines [running]).bind fun result => .done (some result)
  | .ok (some plan) => attemptPlan plan

theorem attempt_eq (command : Command) :
    attempt command = .ask (.call Call.probe) fun
      | .error _ => .done (some (.error .unreachable))
      | .ok _ => .ask .clock fun now => attemptObeying (command.plan now) := rfl

theorem attemptObeying_none : attemptObeying (.ok none) = printParts [.text [running]] :=
  (printParts_text _).symm

theorem greeted_course (answer : (q : Request) → σ → q.Answer × σ) (command : Command) (s : σ) :
    Greeted ((attempt command).course answer s) ↔ Reachable answer s := by
  rw [attempt_eq, course_ask, Reachable]
  cases (answer (.call Call.probe) s).1 with
  | error trouble => exact iff_of_false not_greeted_error nofun
  | ok listed => exact iff_of_true (greeted_ok listed) ⟨listed, rfl⟩

theorem attempt_ends (answer : (q : Request) → σ → q.Answer × σ) (command : Command) (s : σ) :
    Ends command s ((attempt command).course answer s) ((attempt command).run answer s).1 := by
  rw [attempt_eq, course_ask, run_ask]
  cases (answer (.call Call.probe) s).1 with
  | error trouble => exact .unreachable trouble
  | ok listed =>
    dsimp only
    rw [course_ask, run_ask]
    generalize (answer .clock (answer (.call Call.probe) s).2).1 = now
    generalize (answer .clock (answer (.call Call.probe) s).2).2 = t
    have hmeets := meets_plan now command
    cases hplan : command.plan now with
    | error fault =>
      rw [hplan] at hmeets
      cases hmeets with
      | error first blames =>
        obtain ⟨before, after, hrules, hbroken, -⟩ := first
        exact .rejected listed _ now fault ⟨_, by simp [hrules], hbroken⟩ blames.1
    | ok p =>
      rw [hplan] at hmeets
      cases hmeets with
      | ok _ kept =>
        cases p with
        | none =>
          rw [attemptObeying_none]
          exact .running listed _ now kept (reported_printParts answer _ t)
        | some plan =>
          change Ends command s (_ :: _ :: (attemptPlan plan).course answer t)
            ((attemptPlan plan).run answer t).1
          rw [attemptPlan_eq, course_ask, run_ask]
          generalize (answer (.call plan.call) t).2 = u
          cases (answer (.call plan.call) t).1 with
          | error trouble =>
            exact .failed listed _ now kept t plan.call trouble (reported_printParts answer _ u)
          | ok payload =>
            have hreported := reported_printParts answer
              (plan.parts (answer .clock u).1 payload) (answer .clock u).2
            rw [parts_of_plan hplan] at hreported
            dsimp only
            rw [course_ask, run_ask, parts_of_plan hplan]
            exact .answered listed _ now kept t plan.call payload u _ hreported

namespace Ends

variable {command : Command} {s : σ} {exchanges : List (Exchange σ)}
  {result : Option (Except Fault Unit)}

theorem made_length (h : Ends command s exchanges result) :
    (exchanges.filterMap made?).length ≤ 2 := by
  cases h with
  | unreachable trouble => exact Nat.le_succ 1
  | rejected listed t now fault broken kind => exact Nat.le_succ 1
  | @running listed t now kept printing _ reported =>
    change (printing.filterMap made?).length + 1 ≤ 2
    rw [reported.made_eq]
    exact Nat.le_succ 1
  | @failed listed t now kept u c trouble printing _ reported =>
    change (printing.filterMap made?).length + 1 + 1 ≤ 2
    rw [reported.made_eq]
    exact Nat.le_refl 2
  | @answered listed t now kept u c payload v later printing _ reported =>
    change (printing.filterMap made?).length + 1 + 1 ≤ 2
    rw [reported.made_eq]
    exact Nat.le_refl 2

/-- Whoever hears that the service is not there, or of a rule that is broken, hears nothing else. -/
theorem silent {fault : Fault} (h : Ends command s exchanges (some (.error fault)))
    (hkind : fault.failure.kind ≠ .io) : exchanges.filterMap printed? = [] := by
  cases h with
  | unreachable trouble => rfl
  | rejected listed t now _ broken kind => rfl
  | running listed t now kept reported => exact absurd reported.kind_eq hkind
  | failed listed t now kept u c trouble reported => exact absurd reported.kind_eq hkind
  | answered listed t now kept u c payload v later reported =>
    exact absurd reported.kind_eq hkind

theorem kind_of_gate (h : Ends command s exchanges result)
    (hgate : ¬ (Greeted exchanges ∧ ∀ rule ∈ command.rules, ¬ rule.broken)) :
    ∃ fault, result = some (.error fault) ∧
      (fault.failure.kind = .serviceUnreachable ∨ fault.failure.kind = .invalidArgument) := by
  cases h with
  | unreachable trouble => exact ⟨_, rfl, Or.inl rfl⟩
  | rejected listed t now fault broken kind => exact ⟨fault, rfl, Or.inr kind⟩
  | running listed t now kept reported => exact absurd ⟨greeted_ok listed, kept⟩ hgate
  | failed listed t now kept u c trouble reported =>
    exact absurd ⟨greeted_ok listed, kept⟩ hgate
  | answered listed t now kept u c payload v later reported =>
    exact absurd ⟨greeted_ok listed, kept⟩ hgate

end Ends

/-! ## Behind the gate -/

/-- All tables of what the command shows of its call can be set. -/
def Whole (command : Command) (exchanges : List (Exchange σ)) : Prop :=
  ∀ made, (exchanges.filterMap made?)[1]? = some made → Settable command made

/-- A query that has printed nothing goes on to print these parts. -/
structure Prints (command : Command) (before printing : List (Exchange σ))
    (parts : List Report.Part) (result : Option (Except Fault Unit)) : Prop where
  smooth : ∀ e ∈ before, ¬ Refuses e
  untaken : before.filterMap taken? = []
  reported : Reported parts printing result
  whole : Whole command (before ++ printing) ↔ (Report.set parts).2 = true
  shows : ∀ made, ((before ++ printing).filterMap made?)[1]? = some made →
    Shows command (before ++ printing) made parts

theorem Ends.prints {command : Command} {s : σ} {exchanges : List (Exchange σ)}
    {result : Option (Except Fault Unit)} (h : Ends command s exchanges result)
    (hgreeted : Greeted exchanges) (hkept : ∀ rule ∈ command.rules, ¬ rule.broken) :
    ∃ before printing parts, exchanges = before ++ printing ∧
      Prints command before printing parts result := by
  cases h with
  | unreachable trouble => exact absurd hgreeted not_greeted_error
  | rejected listed t now fault broken kind =>
    obtain ⟨rule, hrule, hbroken⟩ := broken
    exact absurd hbroken (hkept rule hrule)
  | @running listed t now kept printing _ reported =>
    have hsecond : ((⟨s, .call Call.probe, .ok listed⟩ :: ⟨t, .clock, now⟩ ::
        printing).filterMap made?)[1]? = none := by
      change (printing.filterMap made?)[0]? = none
      rw [reported.made_eq]
      rfl
    refine ⟨[⟨s, .call Call.probe, .ok listed⟩, ⟨t, .clock, now⟩], printing, _, rfl, ?_, rfl,
      reported, iff_of_true ?_ (congrArg Prod.snd (set_text _)), ?_⟩
    · simp [Refuses]
    · intro made hmade
      exact absurd (hsecond.symm.trans hmade) nofun
    · intro made hmade
      exact absurd (hsecond.symm.trans hmade) nofun
  | @failed listed t now kept u c trouble printing _ reported =>
    refine ⟨[⟨s, .call Call.probe, .ok listed⟩, ⟨t, .clock, now⟩, ⟨u, .call c, .error trouble⟩],
      printing, _, rfl, ?_, rfl, reported, iff_of_true ?_ (congrArg Prod.snd (set_text _)), ?_⟩
    · simp [Refuses]
    · rintro made ⟨⟩
      trivial
    · rintro made ⟨⟩
      exact .trouble c trouble
  | @answered listed t now kept u c payload v later printing _ reported =>
    have hshows : Shows command ([⟨s, .call Call.probe, .ok listed⟩, ⟨t, .clock, now⟩,
        ⟨u, .call c, .ok payload⟩, ⟨v, .clock, later⟩] ++ printing) ⟨c, .ok payload⟩
        (rendering later command c payload) := .answer c payload v later (by simp)
    refine ⟨[⟨s, .call Call.probe, .ok listed⟩, ⟨t, .clock, now⟩, ⟨u, .call c, .ok payload⟩,
      ⟨v, .clock, later⟩], printing, _, rfl, ?_, rfl, reported, ?_, ?_⟩
    · simp [Refuses]
    · rw [← settable_iff_of_shows hshows]
      exact ⟨fun h => h _ rfl, fun h made hmade => by cases hmade; exact h⟩
    · rintro made ⟨⟩
      exact hshows

namespace Prints

variable {command : Command} {before printing : List (Exchange σ)} {parts : List Report.Part}
  {result : Option (Except Fault Unit)}

theorem smooth_iff (h : Prints command before printing parts result) :
    (∀ e ∈ before ++ printing, ¬ Refuses e) ↔ ∀ e ∈ printing, ¬ Refuses e := by
  rw [List.forall_mem_append]
  exact and_iff_right h.smooth

theorem ok_iff (h : Prints command before printing parts result) :
    result = some (.ok ()) ↔
      (∀ e ∈ before ++ printing, ¬ Refuses e) ∧ Whole command (before ++ printing) := by
  rw [h.reported.ok_iff, h.smooth_iff, h.whole]

theorem none_iff (h : Prints command before printing parts result) :
    result = none ↔
      (∀ e ∈ before ++ printing, ¬ Refuses e) ∧ ¬ Whole command (before ++ printing) := by
  rw [h.reported.none_iff, h.smooth_iff, h.whole, Bool.not_eq_true]

theorem taken_eq (h : Prints command before printing parts result)
    (smooth : ∀ e ∈ before ++ printing, ¬ Refuses e) :
    (before ++ printing).filterMap taken? = lineWrites (Report.set parts).1 := by
  rw [List.filterMap_append, h.untaken, h.reported.taken_eq (h.smooth_iff.1 smooth)]
  rfl

end Prints

namespace Ends

variable {command : Command} {s : σ} {exchanges : List (Exchange σ)}
  {result : Option (Except Fault Unit)}

/-- A query succeeds if the service is there, the command keeps its rules, all tables can be set and
the output takes everything, whatever came of the call. -/
theorem ok_iff (h : Ends command s exchanges result) :
    result = some (.ok ()) ↔ Greeted exchanges ∧ (∀ rule ∈ command.rules, ¬ rule.broken) ∧
      (∀ e ∈ exchanges, ¬ Refuses e) ∧ Whole command exchanges := by
  by_cases hgate : Greeted exchanges ∧ ∀ rule ∈ command.rules, ¬ rule.broken
  · obtain ⟨before, printing, parts, rfl, hprints⟩ := h.prints hgate.1 hgate.2
    rw [hprints.ok_iff]
    exact ⟨fun h => ⟨hgate.1, hgate.2, h⟩, fun h => h.2.2⟩
  · obtain ⟨fault, rfl, -⟩ := h.kind_of_gate hgate
    exact iff_of_false nofun fun h => hgate ⟨h.1, h.2.1⟩

/-- It breaks off if all is as for a success but for a table that cannot be set. -/
theorem none_iff (h : Ends command s exchanges result) :
    result = none ↔ Greeted exchanges ∧ (∀ rule ∈ command.rules, ¬ rule.broken) ∧
      (∀ e ∈ exchanges, ¬ Refuses e) ∧ ¬ Whole command exchanges := by
  by_cases hgate : Greeted exchanges ∧ ∀ rule ∈ command.rules, ¬ rule.broken
  · obtain ⟨before, printing, parts, rfl, hprints⟩ := h.prints hgate.1 hgate.2
    rw [hprints.none_iff]
    exact ⟨fun h => ⟨hgate.1, hgate.2, h⟩, fun h => h.2.2⟩
  · obtain ⟨fault, rfl, -⟩ := h.kind_of_gate hgate
    exact iff_of_false nofun fun h => hgate ⟨h.1, h.2.1⟩

/-- What was called for after the probe is what is printed, as far as it can be set, and where the
output takes it no fault is left to tell. -/
theorem of_second (h : Ends command s exchanges result) {made : Σ c : Call, Outcome c.Payload}
    (hsecond : (exchanges.filterMap made?)[1]? = some made)
    (smooth : ∀ e ∈ exchanges, ¬ Refuses e) :
    (∀ fault, result ≠ some (.error fault)) ∧ ∃ parts, Shows command exchanges made parts ∧
      exchanges.filterMap taken? = lineWrites (Report.set parts).1 := by
  by_cases hgate : Greeted exchanges ∧ ∀ rule ∈ command.rules, ¬ rule.broken
  · obtain ⟨before, printing, parts, rfl, hprints⟩ := h.prints hgate.1 hgate.2
    refine ⟨?_, parts, hprints.shows made hsecond, hprints.taken_eq smooth⟩
    rintro fault rfl
    by_cases hwhole : Whole command (before ++ printing)
    · exact absurd (hprints.ok_iff.2 ⟨smooth, hwhole⟩) nofun
    · exact absurd (hprints.none_iff.2 ⟨smooth, hwhole⟩) nofun
  · cases h with
    | unreachable trouble => cases hsecond
    | rejected listed t now fault broken kind => cases hsecond
    | running listed t now kept reported => exact absurd ⟨greeted_ok listed, kept⟩ hgate
    | failed listed t now kept u c trouble reported =>
      exact absurd ⟨greeted_ok listed, kept⟩ hgate
    | answered listed t now kept u c payload v later reported =>
      exact absurd ⟨greeted_ok listed, kept⟩ hgate

end Ends

end RepairConsole.Query
