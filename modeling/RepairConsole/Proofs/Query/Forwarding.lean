import RepairConsole.Proofs.Query.Gate
import RepairConsole.Proofs.Reading
import RepairConsole.Proofs.Window.Resolution
/-!
# What a query forwards

The call that a command comes to, said from the command's fields alone. A field is forwarded if
and only if it is a text that is not empty, and then as it stands, but for a duration, which is
sent as its token.
-/

namespace RepairConsole

/-- A duration as it is sent: `P`, the days, and after a `T` hours, minutes and seconds. -/
def Duration.IsToken (text : String) : Prop := ∃ d : Duration, d.WellFormed ∧ text.toList = d.iso

theorem Duration.IsToken.ne_empty {text : String} (h : IsToken text) : text ≠ "" := by
  rintro rfl
  obtain ⟨d, -, htext⟩ := h
  exact List.cons_ne_nil _ _ htext.symm

theorem Duration.WellFormed.isToken {d : Duration} (h : d.WellFormed) : IsToken d.token :=
  ⟨d, h, String.toList_ofList⟩

/-- No argument of the call is empty, a table comes with its keyspace, and a duration is a
token. -/
structure Call.Complete (c : Call) : Prop where
  notEmpty : ∀ text ∈ c.resource ++ c.given.map Prod.snd, text ≠ ""
  keyspace : ∀ table, ("table", table) ∈ c.given → ∃ keyspace, ("keyspace", keyspace) ∈ c.given
  duration : ∀ text, ("duration", text) ∈ c.given → Duration.IsToken text

namespace Call

theorem truth_ne_empty (value : Bool) : truth value ≠ "" := by cases value <;> decide

theorem complete_of_parameters {c : Call} (hresource : ∀ text ∈ c.resource, text ≠ "")
    (hvalue : ∀ p ∈ c.parameters, ∀ text, p.2 = some text → text ≠ "")
    (hkeyspace : ∀ table, ("table", some table) ∈ c.parameters →
      ∃ keyspace, ("keyspace", some keyspace) ∈ c.parameters)
    (hduration : ∀ text, ("duration", some text) ∈ c.parameters → Duration.IsToken text) :
    c.Complete where
  notEmpty := by
    intro text htext
    rcases List.mem_append.1 htext with htext | htext
    · exact hresource text htext
    · obtain ⟨⟨name, value⟩, hgiven, rfl⟩ := List.mem_map.1 htext
      exact hvalue _ (mem_given.1 hgiven) value rfl
  keyspace := by
    intro table htable
    obtain ⟨keyspace, hk⟩ := hkeyspace table (mem_given.1 htable)
    exact ⟨keyspace, mem_given.2 hk⟩
  duration := fun text htext => hduration text (mem_given.1 htext)

end Call

namespace Query

/-! ## Arguments -/

/-- The argument is there if and only if the field is a text that is not empty, and is that
text. -/
def Passes (field argument : Option String) : Prop := ∀ text, argument = some text ↔ Gives field text

/-- The argument is the token of the duration that the field writes, where the field is a text
that is not empty. -/
def PassesToken (field argument : Option String) : Prop :=
  (Absent field ∧ argument = none) ∨
    ∃ raw d, Gives field raw ∧ Duration.Writes d (Duration.upper raw) ∧ argument = some d.token

theorem passes_given (field : Option String) : Passes field (given field) :=
  fun _ => given_eq_some_iff

theorem Passes.eq_given {field argument : Option String} (h : Passes field argument) :
    argument = given field :=
  Option.ext fun text => (h text).trans given_eq_some_iff.symm

theorem Passes.ne_empty {field argument : Option String} (h : Passes field argument) {text : String}
    (htext : argument = some text) : text ≠ "" :=
  ((h text).1 htext).2

theorem PassesToken.unique {field argument argument' : Option String}
    (h : PassesToken field argument) (h' : PassesToken field argument') : argument = argument' := by
  rcases h with ⟨habsent, rfl⟩ | ⟨raw, d, hraw, hd, rfl⟩
  · rcases h' with ⟨-, rfl⟩ | ⟨raw, -, hraw, -⟩
    · rfl
    · exact absurd hraw (habsent raw)
  · rcases h' with ⟨habsent, -⟩ | ⟨raw', d', hraw', hd', rfl⟩
    · exact absurd hraw (habsent raw)
    · obtain rfl := Gives.unique hraw hraw'
      rw [hd.unique hd']

theorem PassesToken.isToken {field argument : Option String} (h : PassesToken field argument)
    {text : String} (htext : argument = some text) : Duration.IsToken text := by
  rcases h with ⟨-, rfl⟩ | ⟨raw, d, -, hd, rfl⟩
  · cases htext
  · rw [← Option.some.inj htext]
    exact hd.wellFormed.isToken

/-! ## Calls -/

/-- The call that a command comes to. With an id the keyspace and the table do not matter. -/
inductive Forwards : Command → Call → Prop
  | schedule {keyspace table id : Option String} {full : Bool} {limit : Int} {raw : String}
    (ofId : Gives id raw) :
    Forwards (.schedules keyspace table id full limit) (.getSchedule raw full)
  | schedules {keyspace table id k t : Option String} {full : Bool} {limit : Int}
    (absent : Absent id) (ofKeyspace : Passes keyspace k) (ofTable : Passes table t) :
    Forwards (.schedules keyspace table id full limit) (.listSchedules k t)
  | repair {keyspace table id hostId h : Option String} {limit : Int} {raw : String}
    (ofId : Gives id raw) (ofHostId : Passes hostId h) :
    Forwards (.repairs keyspace table id hostId limit) (.getRepair raw h)
  | repairs {keyspace table id hostId k t h : Option String} {limit : Int}
    (absent : Absent id) (ofKeyspace : Passes keyspace k) (ofTable : Passes table t)
    (ofHostId : Passes hostId h) :
    Forwards (.repairs keyspace table id hostId limit) (.listRepairs k t h)
  | runRepair {keyspace table k t : Option String} {localOnly : Bool}
    (ofKeyspace : Passes keyspace k) (ofTable : Passes table t) :
    Forwards (.runRepair keyspace table localOnly) (.triggerRepair k t localOnly)
  | repairInfo {keyspace table since duration k t s d : Option String} {localOnly : Bool}
    {limit : Int} (ofKeyspace : Passes keyspace k) (ofTable : Passes table t) (ofSince : Passes since s)
    (ofDuration : PassesToken duration d) :
    Forwards (.repairInfo keyspace table since duration localOnly limit)
      (.repairInfo k t s d localOnly)

theorem Forwards.unique {command : Command} {c c' : Call} (h : Forwards command c)
    (h' : Forwards command c') : c = c' := by
  cases h with
  | schedule hid =>
    cases h' with
    | schedule hid' => rw [hid.unique hid']
    | schedules habsent => exact absurd hid (habsent _)
  | schedules habsent hk ht =>
    cases h' with
    | schedule hid => exact absurd hid (habsent _)
    | schedules _ hk' ht' => rw [hk.eq_given, hk'.eq_given, ht.eq_given, ht'.eq_given]
  | repair hid hh =>
    cases h' with
    | repair hid' hh' => rw [hid.unique hid', hh.eq_given, hh'.eq_given]
    | repairs habsent => exact absurd hid (habsent _)
  | repairs habsent hk ht hh =>
    cases h' with
    | repair hid => exact absurd hid (habsent _)
    | repairs _ hk' ht' hh' =>
      rw [hk.eq_given, hk'.eq_given, ht.eq_given, ht'.eq_given, hh.eq_given, hh'.eq_given]
  | runRepair hk ht =>
    cases h' with
    | runRepair hk' ht' => rw [hk.eq_given, hk'.eq_given, ht.eq_given, ht'.eq_given]
  | repairInfo hk ht hs hd =>
    cases h' with
    | repairInfo hk' ht' hs' hd' =>
      rw [hk.eq_given, hk'.eq_given, ht.eq_given, ht'.eq_given, hs.eq_given, hs'.eq_given,
        hd.unique hd']

/-! ## From the plan to the call -/

theorem scope_eq_ok {alone : Fault} {keyspace table : Option String}
    {pair : Option String × Option String} (h : scope alone keyspace table = .ok pair) :
    pair = (given keyspace, given table) := by
  unfold scope at h
  split at h
  · cases h
  · exact (Except.ok.inj h).symm

theorem resolve_eq_ok {since duration : Option String} {now : Calendar.Moment} {w : Window}
    (h : Window.resolve since duration now = .ok w) :
    Passes since w.since ∧ PassesToken duration (w.duration.map Duration.token) := by
  have hsettles := Window.settles_of_resolve h
  refine ⟨hsettles.kept, ?_⟩
  cases hd : w.duration with
  | none =>
    refine Or.inl ⟨?_, rfl⟩
    by_contra hgiven
    have hsome := hsettles.duration_present.2 hgiven
    rw [hd] at hsome
    cases hsome
  | some d =>
    obtain ⟨raw, hraw, htoken⟩ := (hsettles.token d.token).1 (congrArg (Option.map _) hd)
    obtain ⟨e, he, heq⟩ := map_eq_ok_iff.1 htoken
    exact Or.inr ⟨raw, e, hraw, (Duration.parse_eq_ok_iff.1 he).2, congrArg some heq.symm⟩

theorem forwards_of_plan {now : Calendar.Moment} {command : Command} {plan : Plan}
    (h : command.plan now = .ok (some plan)) : Forwards command plan.call := by
  cases command with
  | status => cases h
  | schedules keyspace table id full limit =>
    cases hid : given id with
    | some raw =>
      simp only [Command.plan, hid] at h
      cases h
      exact .schedule (given_eq_some_iff.1 hid)
    | none =>
      simp only [Command.plan, hid] at h
      split at h
      · cases h
      · obtain ⟨pair, hpair, h⟩ := bind_eq_ok h
        obtain rfl := scope_eq_ok hpair
        cases h
        exact .schedules (given_eq_none_iff.1 hid) (passes_given _) (passes_given _)
  | repairs keyspace table id hostId limit =>
    cases hid : given id with
    | some raw =>
      simp only [Command.plan, hid] at h
      cases h
      exact .repair (given_eq_some_iff.1 hid) (passes_given _)
    | none =>
      simp only [Command.plan, hid] at h
      obtain ⟨pair, hpair, h⟩ := bind_eq_ok h
      obtain rfl := scope_eq_ok hpair
      cases h
      exact .repairs (given_eq_none_iff.1 hid) (passes_given _) (passes_given _) (passes_given _)
  | runRepair keyspace table localOnly =>
    obtain ⟨pair, hpair, h⟩ := bind_eq_ok h
    obtain rfl := scope_eq_ok hpair
    cases h
    exact .runRepair (passes_given _) (passes_given _)
  | repairInfo keyspace table since duration localOnly limit =>
    obtain ⟨pair, hpair, h⟩ := bind_eq_ok h
    obtain rfl := scope_eq_ok hpair
    obtain ⟨w, hw, h⟩ := bind_eq_ok h
    obtain ⟨hsince, hduration⟩ := resolve_eq_ok hw
    cases h
    exact .repairInfo (passes_given _) (passes_given _) hsince hduration

/-! ## What no call lacks -/

theorem keyspace_of_table {keyspace table k t : Option String} {rest : List (String × Option String)}
    (h : ¬ TableAlone keyspace table) (hk : Passes keyspace k) (ht : Passes table t)
    (hrest : ∀ p ∈ rest, p.1 ≠ "table") {text : String}
    (htext : ("table", some text) ∈ ("keyspace", k) :: ("table", t) :: rest) :
    ∃ raw, ("keyspace", some raw) ∈ ("keyspace", k) :: ("table", t) :: rest := by
  have htable : t = some text := by
    rcases List.mem_cons.1 htext with heq | htext
    · exact absurd (Prod.mk.inj heq).1 (by decide)
    · rcases List.mem_cons.1 htext with heq | htext
      · exact (Prod.mk.inj heq).2.symm
      · exact absurd rfl (hrest _ htext)
  have hgiven : ¬ Absent table := fun habsent => habsent text ((ht text).1 htable)
  have hkeyspace : ¬ Absent keyspace := fun habsent => h ⟨hgiven, habsent⟩
  rw [← isSome_given, Option.isSome_iff_exists, ← hk.eq_given] at hkeyspace
  obtain ⟨raw, rfl⟩ := hkeyspace
  exact ⟨raw, List.mem_cons_self⟩

theorem Forwards.complete {command : Command} {c : Call} (h : Forwards command c)
    (hkept : ∀ rule ∈ command.rules, ¬ rule.broken) : c.Complete := by
  have htruth : ∀ {value : Bool} {text : String}, some (Call.truth value) = some text → text ≠ "" :=
    fun h => Option.some.inj h ▸ Call.truth_ne_empty _
  cases h with
  | @schedule _ _ _ full _ raw hid =>
    refine Call.complete_of_parameters ?_ ?_ (by simp [Call.parameters]) (by simp [Call.parameters])
    · exact List.forall_mem_cons.2 ⟨by decide, List.forall_mem_singleton.2 hid.2⟩
    · refine List.forall_mem_singleton.2 fun text htext => ?_
      cases full with
      | true => exact htruth htext
      | false => cases htext
  | schedules habsent hk ht =>
    have hscope := fun halone => hkept _ (List.mem_cons_of_mem _ List.mem_cons_self) ⟨habsent, halone⟩
    refine Call.complete_of_parameters (List.forall_mem_singleton.2 (by decide)) ?_
      (fun _ => keyspace_of_table hscope hk ht (by simp)) (by simp [Call.parameters])
    simp only [Call.parameters, List.forall_mem_cons]
    exact ⟨fun _ => hk.ne_empty, fun _ => ht.ne_empty, by simp⟩
  | repair hid hh =>
    refine Call.complete_of_parameters ?_ ?_ (by simp [Call.parameters]) (by simp [Call.parameters])
    · exact List.forall_mem_cons.2 ⟨by decide, List.forall_mem_singleton.2 hid.2⟩
    · exact List.forall_mem_singleton.2 fun _ => hh.ne_empty
  | repairs habsent hk ht hh =>
    have hscope := fun halone => hkept _ List.mem_cons_self ⟨habsent, halone⟩
    refine Call.complete_of_parameters (List.forall_mem_singleton.2 (by decide)) ?_
      (fun _ => keyspace_of_table hscope hk ht (by simp)) (by simp [Call.parameters])
    simp only [Call.parameters, List.forall_mem_cons]
    exact ⟨fun _ => hk.ne_empty, fun _ => ht.ne_empty, fun _ => hh.ne_empty, by simp⟩
  | runRepair hk ht =>
    have hscope := hkept _ List.mem_cons_self
    refine Call.complete_of_parameters (List.forall_mem_singleton.2 (by decide)) ?_
      (fun _ => keyspace_of_table hscope hk ht (by simp)) (by simp [Call.parameters])
    simp only [Call.parameters, List.forall_mem_cons]
    exact ⟨fun _ => hk.ne_empty, fun _ => ht.ne_empty, fun _ => htruth, by simp⟩
  | @repairInfo _ _ _ _ _ _ _ d _ _ hk ht hs hd =>
    have hscope := hkept _ List.mem_cons_self
    refine Call.complete_of_parameters (List.forall_mem_singleton.2 (by decide)) ?_
      (fun _ => keyspace_of_table hscope hk ht (by simp)) fun text htext => ?_
    · simp only [Call.parameters, List.forall_mem_cons]
      exact ⟨fun _ => hk.ne_empty, fun _ => ht.ne_empty, fun _ => hs.ne_empty,
        fun _ h => (hd.isToken h).ne_empty, fun _ => htruth, by simp⟩
    · have htoken : some text = d := by simpa [Call.parameters] using htext
      exact hd.isToken htoken.symm

/-! ## Forwarding -/

variable {σ : Type} (answer : (q : Request) → σ → q.Answer × σ) (s : σ)

/-- A service that does not answer gets no second call; one that does gets that of the plan. -/
theorem calls_run (command : Command) :
    (¬ Reachable answer s ∧ calls answer s (run command) = [Call.probe]) ∨
      Reachable answer s ∧ ∃ now,
        calls answer s (run command) = Call.probe :: callsOf (command.plan now) := by
  cases hprobe : (answer (.call Call.probe) s).1 with
  | error trouble =>
    refine Or.inl ⟨?_, ?_⟩
    · rintro ⟨payload, h⟩
      rw [hprobe] at h
      cases h
    · rw [calls, (unreachable_eq answer s hprobe command).1]
      rfl
  | ok payload =>
    have hreach : Reachable answer s := ⟨payload, hprobe⟩
    obtain ⟨now, t, hcalls, -⟩ := reachable_eq answer s hreach command
    exact Or.inr ⟨hreach, now, by rw [hcalls, calls_obey]⟩

/-- A second call is made just where the service answers and the command keeps its rules, and
it is the one that the command comes to. -/
theorem second_call (command : Command) :
    (calls answer s (run command) = [Call.probe] ∧
      ¬ (Reachable answer s ∧ command ≠ .status ∧ ∀ rule ∈ command.rules, ¬ rule.broken)) ∨
    ∃ c, calls answer s (run command) = [Call.probe, c] ∧ Forwards command c ∧
      Reachable answer s ∧ ∀ rule ∈ command.rules, ¬ rule.broken := by
  rcases calls_run answer s command with ⟨hreach, hcalls⟩ | ⟨hreach, now, hcalls⟩
  · exact Or.inl ⟨hcalls, fun h => hreach h.1⟩
  · have hlength := (callsOf_plan_length now command).2
    cases hplan : command.plan now with
    | error fault =>
      rw [hplan] at hlength hcalls
      exact Or.inl ⟨hcalls, fun h => nomatch hlength.2 h.2⟩
    | ok p =>
      cases p with
      | none =>
        rw [hplan] at hlength hcalls
        exact Or.inl ⟨hcalls, fun h => nomatch hlength.2 h.2⟩
      | some plan =>
        rw [hplan] at hlength hcalls
        exact Or.inr ⟨plan.call, hcalls, forwards_of_plan hplan, hreach, (hlength.1 rfl).2⟩

/-- With an id neither the keyspace nor the table comes into the query. -/
theorem run_schedules_of_id {id : Option String} (h : ¬ Absent id) (full : Bool) (limit : Int)
    (keyspace table keyspace' table' : Option String) :
    run (.schedules keyspace table id full limit) =
      run (.schedules keyspace' table' id full limit) := by
  rw [← isSome_given, Option.isSome_iff_exists] at h
  obtain ⟨raw, hid⟩ := h
  simp only [run_eq, Command.plan, hid]

theorem run_repairs_of_id {id : Option String} (h : ¬ Absent id) (hostId : Option String)
    (limit : Int) (keyspace table keyspace' table' : Option String) :
    run (.repairs keyspace table id hostId limit) =
      run (.repairs keyspace' table' id hostId limit) := by
  rw [← isSome_given, Option.isSome_iff_exists] at h
  obtain ⟨raw, hid⟩ := h
  simp only [run_eq, Command.plan, hid]

theorem Forwards.ne_status {command : Command} {c : Call} (h : Forwards command c) :
    command ≠ .status := by
  rintro rfl
  cases h

/-- Of the calls that commands come to only a repair is posted. -/
theorem Forwards.posts_iff {command : Command} {c : Call} (h : Forwards command c) :
    c.method = "POST" ↔ ∃ keyspace table localOnly, command = .runRepair keyspace table localOnly := by
  cases h <;> simp [Call.method]

/-- Besides the probe there is at most one call, made just where the service answers and the command
keeps its rules. It is the one that the command comes to, with nothing empty or amiss in it, and it
is posted only to run a repair. -/
theorem query_forwards (command : Command) :
    (∃ later, calls answer s (run command) = Call.probe :: later ∧ later.length ≤ 1 ∧
      (later ≠ [] ↔
        Reachable answer s ∧ command ≠ .status ∧ ∀ rule ∈ command.rules, ¬ rule.broken) ∧
      ∀ c ∈ later, (∀ c', Forwards command c' ↔ c' = c) ∧ c.Complete) ∧
    (∀ keyspace table keyspace' table' id full limit, ¬ Absent id →
      run (.schedules keyspace table id full limit) =
        run (.schedules keyspace' table' id full limit)) ∧
    (∀ keyspace table keyspace' table' id hostId limit, ¬ Absent id →
      run (.repairs keyspace table id hostId limit) =
        run (.repairs keyspace' table' id hostId limit)) ∧
    (calls answer s (run command)).countP (·.method = "POST") ≤ 1 ∧
    ((∃ c ∈ calls answer s (run command), c.method = "POST") ↔
      Reachable answer s ∧
        (∃ keyspace table localOnly, command = .runRepair keyspace table localOnly) ∧
        ∀ rule ∈ command.rules, ¬ rule.broken) := by
  have hprobe : Call.probe.method ≠ "POST" := by decide
  refine ⟨?_, fun keyspace table keyspace' table' id full limit hid =>
    run_schedules_of_id hid full limit keyspace table keyspace' table',
    fun keyspace table keyspace' table' id hostId limit hid =>
    run_repairs_of_id hid hostId limit keyspace table keyspace' table', ?_, ?_⟩
  all_goals rcases second_call answer s command with ⟨hcalls, hnot⟩ | ⟨c, hcalls, hc, hreach, hkept⟩
  · exact ⟨[], hcalls, Nat.zero_le 1, iff_of_false (by simp) hnot, by simp⟩
  · refine ⟨[c], hcalls, Nat.le_refl 1, iff_of_true (by simp) ⟨hreach, hc.ne_status, hkept⟩, ?_⟩
    refine List.forall_mem_singleton.2 ⟨fun c' => ⟨fun hc' => hc'.unique hc, ?_⟩, hc.complete hkept⟩
    rintro rfl
    exact hc
  · rw [hcalls]
    exact List.countP_le_length
  · rw [hcalls, List.countP_cons_of_neg (by simpa using hprobe)]
    exact List.countP_le_length
  · rw [hcalls]
    refine iff_of_false (by simpa using hprobe) ?_
    rintro ⟨hreach, ⟨keyspace, table, localOnly, rfl⟩, hkept⟩
    exact hnot ⟨hreach, nofun, hkept⟩
  · rw [hcalls]
    simp only [List.mem_cons, List.not_mem_nil, or_false, exists_eq_or_imp, exists_eq_left, hprobe,
      false_or, hc.posts_iff]
    exact ⟨fun h => ⟨hreach, h, hkept⟩, fun h => h.2.1⟩

end Query
end RepairConsole
