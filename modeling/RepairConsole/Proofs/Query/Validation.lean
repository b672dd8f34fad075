import RepairConsole.Proofs.Query.Gate
/-!
# What is wrong with a command

A service that is there lets a command be looked at. It is rejected if and only if it breaks a
rule, and the operator hears of the first that it breaks; nothing was printed or asked by then.
-/

namespace RepairConsole.Query

open Dialogue

variable {σ : Type} (answer : (q : Request) → σ → q.Answer × σ) (s : σ)

/-- The query ended because of what the operator gave. -/
def Rejected (result : Except Fault Unit) : Prop :=
  ∃ fault, result = .error fault ∧ fault.failure.kind = .invalidArgument

/-! ## Output -/

theorem result_printLines (lines : List String) {fault : Fault}
    (h : ((printLines lines).run answer s).1 = .error fault) : ∃ e, fault = .outputFailed e := by
  induction lines generalizing s with
  | nil => cases h
  | cons line rest ih =>
    rw [printLines, run_ask] at h
    revert h
    cases (answer (.print (line ++ "\n").toUTF8) s).1 with
    | ok done => exact ih _
    | error e => exact fun h => ⟨e, (Except.error.inj h).symm⟩

theorem not_rejected_printLines (lines : List String) :
    ¬ Rejected ((printLines lines).run answer s).1 := by
  rintro ⟨fault, h, hkind⟩
  obtain ⟨e, rfl⟩ := result_printLines answer s lines h
  cases hkind

theorem not_rejected_carryOut (plan : Plan) : ¬ Rejected ((carryOut plan).run answer s).1 := by
  change ¬ Rejected ((Dialogue.ask (Request.call plan.call) _).run answer s).1
  rw [run_ask]
  cases (answer (.call plan.call) s).1 with
  | error trouble => exact not_rejected_printLines answer _ _
  | ok payload => exact not_rejected_printLines answer _ _

theorem not_rejected_obey (p : Option Plan) : ¬ Rejected ((obey (.ok p)).run answer s).1 := by
  cases p with
  | none => exact not_rejected_printLines answer s _
  | some plan => exact not_rejected_carryOut answer s plan

/-! ## Validation -/

theorem validates_query (h : Reachable answer s) (command : Command) :
    (Rejected ((run command).run answer s).1 ↔ ∃ rule ∈ command.rules, rule.broken) ∧
    (∀ rule, FirstBroken command.rules rule →
      ∃ fault, ((run command).run answer s).1 = .error fault ∧ rule.Blames fault ∧
        calls answer s (run command) = [Call.probe] ∧ prints answer s (run command) = []) ∧
    (∀ keyspace table id full limit, ¬ Absent id →
      command = .schedules keyspace table id full limit →
      ¬ Rejected ((run command).run answer s).1) ∧
    (∀ keyspace table id hostId limit, ¬ Absent id →
      command = .repairs keyspace table id hostId limit →
      ¬ Rejected ((run command).run answer s).1) := by
  obtain ⟨now, t, hcalls, hprints, hresult⟩ := reachable_eq answer s h command
  have hmeets := meets_plan now command
  have hrejected : Rejected ((run command).run answer s).1 ↔
      ∃ rule ∈ command.rules, rule.broken := by
    rw [hresult]
    generalize command.plan now = x at hmeets ⊢
    cases hmeets with
    | ok p kept =>
      refine iff_of_false (not_rejected_obey answer t p) ?_
      rintro ⟨rule, hrule, hbroken⟩
      exact kept rule hrule hbroken
    | error first blames =>
      obtain ⟨before, after, hrules, hbroken, -⟩ := first
      exact iff_of_true ⟨_, rfl, blames.1⟩ ⟨_, by simp [hrules], hbroken⟩
  refine ⟨hrejected, fun rule hfirst => ?_, ?_, ?_⟩
  · rw [hresult, hcalls, hprints]
    generalize command.plan now = x at hmeets ⊢
    cases hmeets with
    | ok p kept =>
      obtain ⟨before, after, hrules, hbroken, -⟩ := hfirst
      exact absurd hbroken (kept rule (by simp [hrules]))
    | @error fault _ first blames =>
      rw [hfirst.unique first]
      exact ⟨fault, rfl, blames, rfl, rfl⟩
  · rintro keyspace table id full limit hid rfl
    rw [hrejected]
    rintro ⟨rule, hrule, hbroken⟩
    rcases List.mem_cons.1 hrule with rfl | hrule
    · exact hid hbroken.1
    · rw [List.mem_singleton.1 hrule] at hbroken
      exact hid hbroken.1
  · rintro keyspace table id hostId limit hid rfl
    rw [hrejected]
    rintro ⟨rule, hrule, hbroken⟩
    rw [List.mem_singleton.1 hrule] at hbroken
    exact hid hbroken.1

/-- A service that is there and has nothing to tell. -/
def idle : (q : Request) → Unit → q.Answer × Unit
  | .call (.listSchedules _ _), s => (.ok [], s)
  | .call (.getSchedule _ _), s => (.error (.refused 404 ""), s)
  | .call (.listRepairs _ _ _), s => (.ok [], s)
  | .call (.getRepair _ _), s => (.error (.refused 404 ""), s)
  | .call (.triggerRepair _ _ _), s => (.ok [], s)
  | .call (.repairInfo _ _ _ _ _), s => (.error (.refused 404 ""), s)
  | .clock, s => (⟨0, 0⟩, s)
  | .print _, s => (.ok (), s)

/-- Of the two rules that are broken here the operator hears of the first. -/
theorem validates_query_full :
    let command : Command := .schedules none (some "t") none true 10
    Reachable idle () ∧ command.rules.length = 2 ∧ (∀ rule ∈ command.rules, rule.broken) ∧
      (∃ fault, ((run command).run idle ()).1 = .error fault ∧
        fault.failure.message = some "Must specify id with full") ∧
      calls idle () (run command) = [Call.probe] ∧ prints idle () (run command) = [] := by
  intro command
  have hreach : Reachable idle () := ⟨[], rfl⟩
  have hid : Absent none := fun raw hraw => nomatch hraw.1
  have htable : ¬ Absent (some "t") := fun h => h "t" ⟨rfl, by decide⟩
  let full : Rule := ⟨Absent none ∧ true = true, "Must specify id with full"⟩
  have hfirst : FirstBroken command.rules full := ⟨[], _, rfl, ⟨hid, rfl⟩, by simp⟩
  obtain ⟨fault, hresult, hblames, hcalls, hprints⟩ :=
    (validates_query idle () hreach command).2.1 full hfirst
  refine ⟨hreach, rfl, ?_, ⟨fault, hresult, hblames.2⟩, hcalls, hprints⟩
  exact List.forall_mem_cons.2 ⟨⟨hid, rfl⟩, List.forall_mem_singleton.2 ⟨hid, htable, hid⟩⟩

end RepairConsole.Query
