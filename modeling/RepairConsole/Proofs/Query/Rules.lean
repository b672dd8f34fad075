import RepairConsole.Proofs.Window.Given
import RepairConsole.Proofs.Window.Grammar
import RepairConsole.Proofs.Window.Since
import RepairConsole.Query.Command
/-!
# The rules of commands

For every command the rules that its values have to keep, in the order in which an operator hears
of them. A command is made into a call if and only if it keeps them all.
-/

namespace RepairConsole

/-! ## Starts -/

/-- The text writes a start: digits for a millisecond of epoch time up to the year 9999, or a time
in RFC 3339. -/
def Window.WritesSince (raw : String) : Prop :=
  let cs := (Text.trim raw).toList
  Text.allDigits cs = true ∧ Text.digitsValue cs ≤ Calendar.lastMillis ∨
    ∃ stamp : Calendar.Rfc3339.Stamp, stamp.Valid ∧ cs = stamp.chars

/-- What writes a start names an instant. -/
theorem Window.writesSince_iff {raw : String} : WritesSince raw ↔ ∃ m, StartsAt raw m := by
  constructor
  · rintro (⟨hdigits, hle⟩ | ⟨stamp, hvalid, heq⟩)
    · exact ⟨_, Or.inl ⟨hdigits, hle, rfl⟩⟩
    · exact ⟨_, Or.inr ⟨stamp, hvalid, heq, rfl⟩⟩
  · rintro ⟨m, ⟨hdigits, hle, -⟩ | ⟨stamp, hvalid, heq, -⟩⟩
    · exact Or.inl ⟨hdigits, hle⟩
    · exact Or.inr ⟨stamp, hvalid, heq⟩

namespace Query

/-! ## Rules and checks -/

/-- A rule that a command can break, and what the operator is told then. -/
structure Rule where
  broken : Prop
  message : String

/-- The rule is broken, and none before it is. -/
def FirstBroken (rules : List Rule) (rule : Rule) : Prop :=
  ∃ before after, rules = before ++ rule :: after ∧ rule.broken ∧ ∀ r ∈ before, ¬ r.broken

/-- The fault tells the operator of this rule. -/
def Rule.Blames (rule : Rule) (fault : Fault) : Prop :=
  fault.failure.kind = .invalidArgument ∧ fault.failure.message = some rule.message

/-- The check succeeds if no rule is broken, and else blames the first that is. -/
inductive Meets {α : Type} (rules : List Rule) : Except Fault α → Prop
  | ok (a : α) (kept : ∀ rule ∈ rules, ¬ rule.broken) : Meets rules (.ok a)
  | error {fault : Fault} {rule : Rule} (first : FirstBroken rules rule)
    (blames : rule.Blames fault) : Meets rules (.error fault)

theorem FirstBroken.unique {rules : List Rule} {r q : Rule} (hr : FirstBroken rules r)
    (hq : FirstBroken rules q) : r = q := by
  classical
  obtain ⟨before, after, rfl, hr, hbefore⟩ := hr
  obtain ⟨before', after', heq, hq, hbefore'⟩ := hq
  let p : Rule → Bool := fun rule => !decide rule.broken
  have hkept : ∀ rules : List Rule, (∀ rule ∈ rules, ¬ rule.broken) →
      ∀ rule ∈ rules, p rule = true :=
    fun rules h rule hrule => by simp [p, h rule hrule]
  exact (Text.append_cons_inj (hkept before hbefore) (by simp [p, hr]) (hkept before' hbefore')
    (by simp [p, hq]) heq).2.1

section Meets

variable {α β : Type} {rules later : List Rule} {rule : Rule}

theorem meets_ok (a : α) : Meets [] (.ok a) := .ok a (by simp)

theorem meets_ite {c : Prop} [Decidable c] {fault : Fault} {x : Except Fault α}
    (hc : c ↔ rule.broken) (hfault : rule.Blames fault) (hx : Meets rules x) :
    Meets (rule :: rules) (if c then .error fault else x) := by
  by_cases h : c
  · rw [if_pos h]
    exact .error ⟨[], rules, rfl, hc.1 h, by simp⟩ hfault
  · rw [if_neg h]
    have hrule : ¬ rule.broken := fun hb => h (hc.2 hb)
    cases hx with
    | ok a kept => exact .ok a (List.forall_mem_cons.2 ⟨hrule, kept⟩)
    | @error _ r first blames =>
      obtain ⟨before, after, rfl, hr, hbefore⟩ := first
      exact .error ⟨rule :: before, after, rfl, hr, List.forall_mem_cons.2 ⟨hrule, hbefore⟩⟩ blames

theorem Meets.bind {x : Except Fault α} {next : α → Except Fault β} (hx : Meets rules x)
    (hnext : ∀ a, Meets later (next a)) : Meets (rules ++ later) (x >>= next) := by
  cases hx with
  | error first blames =>
    obtain ⟨before, after, rfl, hr, hbefore⟩ := first
    exact .error ⟨before, after ++ later, by simp, hr, hbefore⟩ blames
  | ok a kept =>
    change Meets (rules ++ later) (next a)
    have hlater := hnext a
    generalize next a = y at hlater ⊢
    cases hlater with
    | ok b kept' => exact .ok b (List.forall_mem_append.2 ⟨kept, kept'⟩)
    | error first blames =>
      obtain ⟨before, after, rfl, hr, hbefore⟩ := first
      refine .error ⟨rules ++ before, after, by simp, hr, ?_⟩ blames
      exact List.forall_mem_append.2 ⟨kept, hbefore⟩

/-- A value that is looked at only where it was given. -/
theorem meets_mapM {value : Option String} {check : String → Except Fault α}
    (habsent : Absent value → ∀ rule ∈ rules, ¬ rule.broken)
    (hgiven : ∀ raw, Gives value raw → Meets rules (check raw)) :
    Meets rules ((given value).mapM check) := by
  have hchecked := checked_mapM value check
  generalize (given value).mapM check = x at hchecked ⊢
  cases hchecked with
  | missing absent => exact .ok none (habsent absent)
  | @read raw a gives ok =>
    have hmeets := hgiven raw gives
    rw [ok] at hmeets
    cases hmeets with
    | ok _ kept => exact .ok (some a) kept
  | refused refused =>
    obtain ⟨raw, hraw, hcheck⟩ := refused
    have hmeets := hgiven raw hraw
    rw [hcheck] at hmeets
    cases hmeets with
    | error first blames => exact .error first blames

end Meets

/-! ## The rules -/

/-- A table comes without its keyspace. -/
def TableAlone (keyspace table : Option String) : Prop := ¬ Absent table ∧ Absent keyspace

def noWindow (since duration : Option String) : Rule :=
  ⟨Absent since ∧ Absent duration, "Either --duration or --since or both must be provided"⟩

def signed (duration : Option String) : Rule where
  broken := ∃ raw, Gives duration raw ∧ Duration.Signed raw
  message := "'+' and '-' is not allowed in duration, check help for more information"

def badDuration (duration : Option String) : Rule where
  broken := ∃ raw, Gives duration raw ∧ ∀ d, ¬ Duration.Writes d (Duration.upper raw)
  message := "invalid duration '" ++ duration.getD "" ++ "'"

def badSince (since : Option String) : Rule where
  broken := ∃ raw, Gives since raw ∧ ¬ Window.WritesSince raw
  message := "invalid --since value '" ++ since.getD "" ++ "'"

/-- The rules of a command, in the order in which they are reported. -/
def Command.rules : Command → List Rule
  | .status => []
  | .schedules keyspace table id full _ =>
    [⟨Absent id ∧ full = true, "Must specify id with full"⟩,
      ⟨Absent id ∧ TableAlone keyspace table, "Must specify keyspace"⟩]
  | .repairs keyspace table id _ _ =>
    [⟨Absent id ∧ TableAlone keyspace table, "Must specify keyspace"⟩]
  | .runRepair keyspace table _ =>
    [⟨TableAlone keyspace table, "--keyspace must be specified if table is specified"⟩]
  | .repairInfo keyspace table since duration _ _ =>
    [⟨TableAlone keyspace table, "--keyspace must be specified if table is specified"⟩,
      noWindow since duration, signed duration, badDuration duration, badSince since]

/-! ## The checks -/

theorem badDuration_blames (raw : String) :
    (badDuration (some raw)).Blames (.badDuration raw) :=
  ⟨rfl, by simp only [badDuration, Fault.failure, Option.getD_some]; rfl⟩

theorem badSince_blames (raw : String) {fault : Fault}
    (h : fault = .sinceOutOfRange raw ∨ fault = .badSince raw) :
    (badSince (some raw)).Blames fault := by
  rcases h with rfl | rfl
  · exact ⟨rfl, by simp only [badSince, Fault.failure, Option.getD_some]; rfl⟩
  · exact ⟨rfl, by simp only [badSince, Fault.failure, Option.getD_some]; rfl⟩

theorem meets_scope {rule : Rule} {alone : Fault} {keyspace table : Option String}
    (hrule : TableAlone keyspace table ↔ rule.broken) (hfault : rule.Blames alone) :
    Meets [rule] (scope alone keyspace table) := by
  refine meets_ite ?_ hfault (meets_ok _)
  rw [← hrule, isSome_given, isNone_given]
  rfl

theorem meets_parse {duration : Option String} {raw : String} (hraw : Gives duration raw) :
    Meets [signed duration, badDuration duration] (Duration.parse raw) := by
  obtain ⟨rfl, hne⟩ := hraw
  have hgives : ∀ {r : String}, Gives (some raw) r → r = raw :=
    fun h => (Option.some.inj h.1).symm
  by_cases hsigned : Duration.Signed raw
  · rw [Duration.parse_of_signed hsigned]
    exact .error ⟨[], _, rfl, ⟨raw, ⟨rfl, hne⟩, hsigned⟩, by simp⟩ ⟨rfl, rfl⟩
  · have hnot : ¬ (signed (some raw)).broken := by
      rintro ⟨r, hr, hs⟩
      exact hsigned (hgives hr ▸ hs)
    by_cases hwrites : ∃ d, Duration.Writes d (Duration.upper raw)
    · obtain ⟨d, hd⟩ := hwrites
      rw [Duration.parse_eq_ok_iff.2 ⟨hsigned, hd⟩]
      refine .ok d (List.forall_mem_cons.2 ⟨hnot, List.forall_mem_singleton.2 ?_⟩)
      rintro ⟨r, hr, hbad⟩
      exact hbad d (hgives hr ▸ hd)
    · have hbad : ∀ d, ¬ Duration.Writes d (Duration.upper raw) := fun d hd => hwrites ⟨d, hd⟩
      rw [Duration.parse_of_not_writes hsigned hbad]
      refine .error ⟨[signed (some raw)], [], rfl, ⟨raw, ⟨rfl, hne⟩, hbad⟩, ?_⟩
        (badDuration_blames raw)
      exact List.forall_mem_singleton.2 hnot

theorem meets_readSince {since : Option String} {raw : String} (hraw : Gives since raw) :
    Meets [badSince since] (Window.readSince raw) := by
  obtain ⟨rfl, hne⟩ := hraw
  by_cases hwrites : Window.WritesSince raw
  · obtain ⟨m, hm⟩ := Window.writesSince_iff.1 hwrites
    rw [Window.readSince_eq_ok_iff.2 hm]
    refine .ok m (List.forall_mem_singleton.2 ?_)
    rintro ⟨r, ⟨hr, -⟩, hnot⟩
    exact hnot (Option.some.inj hr ▸ hwrites)
  · have hnone : ∀ m, ¬ Window.StartsAt raw m := fun m hm =>
      hwrites (Window.writesSince_iff.2 ⟨m, hm⟩)
    obtain ⟨fault, hfault, hcause⟩ := Window.readSince_refused hnone
    rw [hfault]
    exact .error ⟨[], [], rfl, ⟨raw, ⟨rfl, hne⟩, hwrites⟩, by simp⟩ (badSince_blames raw hcause)

theorem meets_resolve (since duration : Option String) (now : Calendar.Moment) :
    Meets [noWindow since duration, signed duration, badDuration duration, badSince since]
      (Window.resolve since duration now) := by
  have hduration : Meets [signed duration, badDuration duration]
      ((given duration).mapM Duration.parse) := by
    refine meets_mapM (fun habsent => ?_) fun raw hraw => meets_parse hraw
    refine List.forall_mem_cons.2 ⟨?_, List.forall_mem_singleton.2 ?_⟩
    · rintro ⟨raw, hraw, -⟩
      exact habsent raw hraw
    · rintro ⟨raw, hraw, -⟩
      exact habsent raw hraw
  have hsince : Meets [badSince since] ((given since).mapM Window.readSince) := by
    refine meets_mapM (fun habsent => ?_) fun raw hraw => meets_readSince hraw
    refine List.forall_mem_singleton.2 ?_
    rintro ⟨raw, hraw, -⟩
    exact habsent raw hraw
  refine meets_ite ?_ ⟨rfl, rfl⟩ ?_
  · rw [Bool.and_eq_true, isNone_given, isNone_given]
    rfl
  · exact hduration.bind fun _ => hsince.bind fun _ => meets_ok _

theorem meets_plan (now : Calendar.Moment) (command : Command) :
    Meets command.rules (command.plan now) := by
  cases command with
  | status => exact meets_ok _
  | runRepair keyspace table localOnly =>
    exact (meets_scope Iff.rfl ⟨rfl, rfl⟩).bind fun _ => meets_ok _
  | repairInfo keyspace table since duration localOnly limit =>
    exact (meets_scope Iff.rfl ⟨rfl, rfl⟩).bind fun _ =>
      (meets_resolve since duration now).bind fun _ => meets_ok _
  | schedules keyspace table id full limit =>
    cases hid : given id with
    | some raw =>
      have hnot : ¬ Absent id := fun habsent => habsent raw (given_eq_some_iff.1 hid)
      simp only [Command.plan, hid]
      refine .ok _ (List.forall_mem_cons.2 ⟨fun h => hnot h.1, ?_⟩)
      exact List.forall_mem_singleton.2 fun h => hnot h.1
    | none =>
      have habsent := given_eq_none_iff.1 hid
      simp only [Command.plan, hid]
      refine meets_ite (and_iff_right habsent).symm ⟨rfl, rfl⟩ ?_
      exact (meets_scope (and_iff_right habsent).symm ⟨rfl, rfl⟩).bind fun _ => meets_ok _
  | repairs keyspace table id hostId limit =>
    cases hid : given id with
    | some raw =>
      have hnot : ¬ Absent id := fun habsent => habsent raw (given_eq_some_iff.1 hid)
      simp only [Command.plan, hid]
      exact .ok _ (List.forall_mem_singleton.2 fun h => hnot h.1)
    | none =>
      have habsent := given_eq_none_iff.1 hid
      simp only [Command.plan, hid]
      exact (meets_scope (and_iff_right habsent).symm ⟨rfl, rfl⟩).bind fun _ => meets_ok _

/-! ## Plans -/

theorem bind_ne_none {α β : Type} {x : Except Fault α} {next : α → Except Fault (Option β)}
    (h : ∀ a, next a ≠ .ok none) : (x >>= next) ≠ .ok none := by
  cases x with
  | error fault => nofun
  | ok a => exact h a

/-- There is nothing to ask for `status` alone. -/
theorem plan_ne_none {now : Calendar.Moment} {command : Command} (h : command ≠ .status) :
    command.plan now ≠ .ok none := by
  cases command with
  | status => exact absurd rfl h
  | runRepair keyspace table localOnly => exact bind_ne_none nofun
  | repairInfo keyspace table since duration localOnly limit =>
    exact bind_ne_none fun _ => bind_ne_none nofun
  | schedules keyspace table id full limit =>
    cases hid : given id with
    | some raw =>
      simp only [Command.plan, hid]
      nofun
    | none =>
      simp only [Command.plan, hid]
      cases full with
      | true => nofun
      | false => exact bind_ne_none nofun
  | repairs keyspace table id hostId limit =>
    cases hid : given id with
    | some raw =>
      simp only [Command.plan, hid]
      nofun
    | none =>
      simp only [Command.plan, hid]
      exact bind_ne_none nofun

end Query
end RepairConsole
