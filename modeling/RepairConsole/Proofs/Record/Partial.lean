import RepairConsole.Proofs.Json.Grammar
import RepairConsole.Proofs.Json.Record
import RepairConsole.Remote.Client
/-!
# Answers with parts left out

What the service documents of its records: the name of each field, what it is if left out, and how
its value is written. Every text of such a record is decoded, whatever is left out of it.
-/

namespace RepairConsole

open Json

/-! ## The records as documented -/

def ScheduleConfig.slots : List (Slot ScheduleConfig) :=
  [ ⟨"intervalInMs", intervalInMs, 0, .int⟩,
    ⟨"unwindRatio", unwindRatio, 0.0, .float⟩,
    ⟨"warningTimeInMs", warningTimeInMs, 0, .int⟩,
    ⟨"errorTimeInMs", errorTimeInMs, 0, .int⟩,
    ⟨"parallelism", parallelism, "", .text⟩ ]

def VirtualNode.slots : List (Slot VirtualNode) :=
  [ ⟨"startToken", startToken, 0, .int⟩,
    ⟨"endToken", endToken, 0, .int⟩,
    ⟨"replicas", replicas, [], .list .text⟩,
    ⟨"lastRepairedAtInMs", lastRepairedAtInMs, 0, .int⟩,
    ⟨"repaired", repaired, false, .truth⟩ ]

def Schedule.slots : List (Slot Schedule) :=
  [ ⟨"id", id, "", .text⟩,
    ⟨"keyspace", keyspace, "", .text⟩,
    ⟨"table", table, "", .text⟩,
    ⟨"status", status, "", .text⟩,
    ⟨"repairedRatio", repairedRatio, 0.0, .float⟩,
    ⟨"lastRepairedAtInMs", lastRepairedAtInMs, 0, .int⟩,
    ⟨"nextRepairInMs", nextRepairInMs, 0, .int⟩,
    ⟨"config", config, {}, .record ScheduleConfig.slots⟩,
    ⟨"repairType", repairType, "", .text⟩,
    ⟨"virtualNodeStates", virtualNodeStates, none, .optional (.list (.record VirtualNode.slots))⟩ ]

def OnDemandRepair.slots : List (Slot OnDemandRepair) :=
  [ ⟨"id", id, "", .text⟩,
    ⟨"hostId", hostId, "", .text⟩,
    ⟨"keyspace", keyspace, "", .text⟩,
    ⟨"table", table, "", .text⟩,
    ⟨"status", status, "", .text⟩,
    ⟨"repairedRatio", repairedRatio, 0.0, .float⟩,
    ⟨"completedAt", completedAt, 0, .int⟩,
    ⟨"repairType", repairType, "", .text⟩ ]

def RepairStats.slots : List (Slot RepairStats) :=
  [ ⟨"keyspace", keyspace, "", .text⟩,
    ⟨"table", table, "", .text⟩,
    ⟨"repairedRatio", repairedRatio, 0.0, .float⟩,
    ⟨"repairTimeTakenMs", repairTimeTakenMs, 0, .int⟩ ]

def RepairInfo.slots : List (Slot RepairInfo) :=
  [ ⟨"sinceInMs", sinceInMs, 0, .int⟩,
    ⟨"toInMs", toInMs, 0, .int⟩,
    ⟨"repairStats", repairStats, [], .list (.record RepairStats.slots)⟩ ]

/-! ## Reading them -/

theorem ScheduleConfig.reads : Reads (.record slots) ofJson? := by
  refine Matches.reads ⟨?_, by decide, by simp [slots], ?_⟩
  · refine .cons (.of reads_int ?_ ?_) (.cons (.of reads_float ?_ ?_) (.cons (.of reads_int ?_ ?_)
      (.cons (.of reads_int ?_ ?_) (.cons (.of reads_text ?_ ?_) .nil)))) <;> simp [slots]
  · intro r r' h
    cases r
    cases r'
    simpa [slots] using h

theorem VirtualNode.reads : Reads (.record slots) ofJson? := by
  refine Matches.reads ⟨?_, by decide, by simp [slots], ?_⟩
  · refine .cons (.of reads_int ?_ ?_) (.cons (.of reads_int ?_ ?_)
      (.cons (.of reads_text.list ?_ ?_) (.cons (.of reads_int ?_ ?_)
        (.cons (.of reads_truth ?_ ?_) .nil)))) <;> simp [slots]
  · intro r r' h
    cases r
    cases r'
    simpa [slots] using h

theorem Schedule.reads : Reads (.record slots) ofJson? := by
  have hnodes : Reads (.optional (.list (.record VirtualNode.slots)))
      (asOptional? (asList? VirtualNode.ofJson?)) :=
    VirtualNode.reads.list.optional (by rintro _ _ ⟨_, hnull, _⟩; nomatch hnull)
  refine Matches.reads ⟨?_, by decide, by simp [slots], ?_⟩
  · refine .cons (.of reads_text ?_ ?_) (.cons (.of reads_text ?_ ?_) (.cons (.of reads_text ?_ ?_)
      (.cons (.of reads_text ?_ ?_) (.cons (.of reads_float ?_ ?_) (.cons (.of reads_int ?_ ?_)
        (.cons (.of reads_int ?_ ?_) (.cons (.of ScheduleConfig.reads ?_ ?_)
          (.cons (.of reads_text ?_ ?_) (.cons (.of hnodes ?_ ?_) .nil))))))))) <;> simp [slots]
  · intro r r' h
    cases r
    cases r'
    simpa [slots] using h

theorem OnDemandRepair.reads : Reads (.record slots) ofJson? := by
  refine Matches.reads ⟨?_, by decide, by simp [slots], ?_⟩
  · refine .cons (.of reads_text ?_ ?_) (.cons (.of reads_text ?_ ?_) (.cons (.of reads_text ?_ ?_)
      (.cons (.of reads_text ?_ ?_) (.cons (.of reads_text ?_ ?_) (.cons (.of reads_float ?_ ?_)
        (.cons (.of reads_int ?_ ?_) (.cons (.of reads_text ?_ ?_) .nil))))))) <;> simp [slots]
  · intro r r' h
    cases r
    cases r'
    simpa [slots] using h

theorem RepairStats.reads : Reads (.record slots) ofJson? := by
  refine Matches.reads ⟨?_, by decide, by simp [slots], ?_⟩
  · refine .cons (.of reads_text ?_ ?_) (.cons (.of reads_text ?_ ?_) (.cons (.of reads_float ?_ ?_)
      (.cons (.of reads_int ?_ ?_) .nil))) <;> simp [slots]
  · intro r r' h
    cases r
    cases r'
    simpa [slots] using h

theorem RepairInfo.reads : Reads (.record slots) ofJson? := by
  refine Matches.reads ⟨?_, by decide, by simp [slots], ?_⟩
  · refine .cons (.of reads_int ?_ ?_) (.cons (.of reads_int ?_ ?_)
      (.cons (.of RepairStats.reads.list ?_ ?_) .nil)) <;> simp [slots]
  · intro r r' h
    cases r
    cases r'
    simpa [slots] using h

/-! ## Decoding their texts -/

/-- Every text of what is described is read, as what is left. -/
def Json.Decodes {α : Type} (description : Description α) (read : Json → Option α) : Prop :=
  ∀ whole json left text, description whole json left → Written json text.toList →
    (parse? text).bind read = some left

theorem Json.Reads.decodes {α : Type} {description : Description α} {read : Json → Option α}
    (h : Reads description read) : Decodes description read := by
  intro whole json left text hjson htext
  rw [parse?_of_written htext, Option.bind_some, h whole json left hjson]

namespace Call

/-- What an operation answers with, as documented. -/
def description : (c : Call) → Description c.Payload
  | listSchedules .. => .list (.record Schedule.slots)
  | getSchedule .. => .record Schedule.slots
  | listRepairs .. => .list (.record OnDemandRepair.slots)
  | getRepair .. => .list (.record OnDemandRepair.slots)
  | triggerRepair .. => .list (.record OnDemandRepair.slots)
  | repairInfo .. => .record RepairInfo.slots

theorem reads_payload : (c : Call) → Reads c.description c.payload?
  | listSchedules .. => Schedule.reads.list
  | getSchedule .. => Schedule.reads
  | listRepairs .. => OnDemandRepair.reads.list
  | getRepair .. => OnDemandRepair.reads.list
  | triggerRepair .. => OnDemandRepair.reads.list
  | repairInfo .. => RepairInfo.reads

/-- Records, lists of them and the answers of all operations are decoded from any text, whatever
is left out of it: what is left out is as in a blank record, and the rest is as it was. -/
theorem partial_answers_decode :
    Decodes (.record Schedule.slots) Schedule.ofJson? ∧
      Decodes (.record OnDemandRepair.slots) OnDemandRepair.ofJson? ∧
      Decodes (.record RepairInfo.slots) RepairInfo.ofJson? ∧
      Decodes (.list (.record Schedule.slots)) (asList? Schedule.ofJson?) ∧
      Decodes (.list (.record OnDemandRepair.slots)) (asList? OnDemandRepair.ofJson?) ∧
      ∀ (origin : Url.Origin) (c : Call) whole json left text, c.description whole json left →
        Written json text.toList → c.ofBody origin (some text) = .ok left := by
  refine ⟨Schedule.reads.decodes, OnDemandRepair.reads.decodes, RepairInfo.reads.decodes,
    Schedule.reads.list.decodes, OnDemandRepair.reads.list.decodes, ?_⟩
  intro origin c whole json left text hjson htext
  have hpayload := c.reads_payload.decodes whole json left text hjson htext
  rw [ofBody, hpayload]

/-- Two schedules, one of them without any member, with an unknown member that holds half of a
surrogate pair, an escape, and a numeral with an exponent. -/
theorem partial_schedules_decode :
    Description.list (.record Schedule.slots)
        [{ id := "s", keyspace := "k", config := { intervalInMs := 1, unwindRatio := 0.5 } }, {}]
        (.array
          [ .object
              [ (some "note", .array [.text none]),
                (some "config", .object [(some "unwindRatio", .number ⟨false, 5, 0, -1, false⟩)]),
                (some "id", .text (some "s")) ],
            .object [] ])
        [{ id := "s", config := { unwindRatio := 0.5 } }, {}] ∧
      (parse? ("[\x7b\"note\":[\"\\ud800\"],\"config\":\x7b\"unwindRatio\":5e-1\x7d," ++
        "\"id\":\"\\u0073\"\x7d, \x7b\x7d]")).bind (asList? Schedule.ofJson?) =
          some [{ id := "s", config := { unwindRatio := 0.5 } }, {}] := by
  have hconfig : Description.record ScheduleConfig.slots { intervalInMs := 1, unwindRatio := 0.5 }
      (.object [(some "unwindRatio", .number ⟨false, 5, 0, -1, false⟩)]) { unwindRatio := 0.5 } := by
    have hratio : Description.float 0.5 (.number ⟨false, 5, 0, -1, false⟩) 0.5 := ⟨_, rfl, rfl, rfl⟩
    refine ⟨[("unwindRatio", _)], rfl, by decide, ?_, by simp [ScheduleConfig.slots]⟩
    simp [ScheduleConfig.slots, hratio]
  have hschedule : Description.record Schedule.slots
      { id := "s", keyspace := "k", config := { intervalInMs := 1, unwindRatio := 0.5 } }
      (.object
        [ (some "note", .array [.text none]),
          (some "config", .object [(some "unwindRatio", .number ⟨false, 5, 0, -1, false⟩)]),
          (some "id", .text (some "s")) ])
      { id := "s", config := { unwindRatio := 0.5 } } := by
    refine ⟨[("note", _), ("config", _), ("id", _)], rfl, by decide, ?_, by simp [Schedule.slots]⟩
    simp [Schedule.slots, Description.text, hconfig]
  have hblank : Description.record Schedule.slots {} (.object []) {} :=
    ⟨[], rfl, by decide, by simp, by simp [Schedule.slots]⟩
  have hhalf : Written (.text none) ['"', '\\', 'u', 'd', '8', '0', '0', '"'] := by
    have hspells : Spells [0xD800] ['\\', 'u', 'd', '8', '0', '0'] :=
      .unit (i := 13) (j := 8) (k := 0) (l := 0) (by decide) (by decide) (by decide) (by decide) .nil
    refine .text hspells fun s => ⟨nofun, fun hs => ?_⟩
    have hclose := (Quoted.close_eq_some_iff hspells.unit_lt).2 hs
    cases hclose
  have hid : Written (.text (some "s")) ['"', '\\', 'u', '0', '0', '7', '3', '"'] := by
    have hspells : Spells [0x73] ['\\', 'u', '0', '0', '7', '3'] :=
      .unit (i := 0) (j := 0) (k := 7) (l := 3) (by decide) (by decide) (by decide) (by decide) .nil
    exact .ofSpells (s := "s") hspells
  have hratio : Written (.number ⟨false, 5, 0, -1, false⟩) ['5', 'e', '-', '1'] :=
    .number (.mk false (Or.inr ⟨by decide, by decide⟩ : IsWhole ['5']) .absent
      (.minus (Or.inl rfl) (by decide : Text.allDigits ['1'] = true)))
  have hfirst := Written.object (.next (.ofPlain (s := "note") (by simp)) (.array (.last hhalf))
    (.next (.ofPlain (s := "config") (by simp))
      (.object (.last (.ofPlain (s := "unwindRatio") (by simp)) hratio))
      (.last (.ofPlain (s := "id") (by simp)) hid)))
  have hsecond : Written (.object []) [' ', '\x7b', '\x7d'] :=
    .before (by decide) (.emptyObject (by simp : ∀ c ∈ ([] : List Char), c ∈ blanks))
  have hdescribed := Each.cons hschedule (.cons hblank .nil)
  refine ⟨⟨_, rfl, hdescribed⟩, partial_answers_decode.2.2.2.1 _ _ _ _ ⟨_, rfl, hdescribed⟩ ?_⟩
  exact .array (.next hfirst (.last hsecond))

end Call
end RepairConsole
