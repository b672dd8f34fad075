import Mathlib.Logic.Relation
import RepairConsole.Proofs.Supervisor.Calm
/-!
# Stops at the same time

Any number of stops on one pid file, of which at every moment any one may ask what it asks next.
The first that removes the record does so for all of them: the others find no process to signal or
no file to remove, which counts as success, or no record to begin with.
-/

namespace RepairConsole.Supervisor

open Dialogue

/-- A stop on its way: what it asked and was answered, and what it is still to do. -/
structure Party where
  past : List Exchange
  rest : Conversation (Except Fault Nat)

def Party.result? : Party → Option (Except Fault Nat)
  | ⟨_, .done result⟩ => some result
  | ⟨_, .ask _ _⟩ => none

structure Scene where
  parties : List Party
  world : World

/-- Signals are delivered or find no process, removals succeed or find no file, and the output takes
what is printed. -/
def Orderly : (q : Request) → q.Answer → Prop
  | .print _, .error _ => False
  | .terminate _, .error error => error = .noSuchProcess
  | .removeFile _, .error error => error = .notFound
  | _, _ => True

variable {flaky : Prop} {pidfile : String} {pid : Nat}

/-- One of the parties asks what it asks next. -/
inductive Step (flaky : Prop) : Scene → Scene → Prop
  | turn {before after : List Party} {past : List Exchange} {q : Request}
    {next : q.Answer → Conversation (Except Fault Nat)} {answer : q.Answer} {w v : World}
    (may : World.May flaky q w answer v) (orderly : Orderly q answer) :
    Step flaky ⟨before ++ ⟨past, .ask q next⟩ :: after, w⟩
      ⟨before ++ ⟨past ++ [⟨w, q, answer⟩], next answer⟩ :: after, v⟩

/-- The one scene becomes the other as the parties take turns in some order. -/
def Interleaves (flaky : Prop) : Scene → Scene → Prop := Relation.ReflTransGen (Step flaky)

/-- So many stops, of which none has begun. -/
def Scene.ofStops (pidfile : String) (n : Nat) (first : World) : Scene :=
  ⟨List.replicate n ⟨[], stop pidfile⟩, first⟩

def Scene.Complete (s : Scene) : Prop := ∀ x ∈ s.parties, x.result?.isSome

/-! ## Schedules -/

/-- On a calm system the party with this number takes its turn. -/
def Scene.advance (s : Scene) (i : Nat) : Scene :=
  match s.parties[i]? with
  | some ⟨past, .ask q next⟩ =>
    let reply := World.calm q s.world
    ⟨s.parties.set i ⟨past ++ [⟨s.world, q, reply.1⟩], next reply.1⟩, reply.2⟩
  | _ => s

theorem orderly_calm (q : Request) (w : World) : Orderly q (World.calm q w).1 := by
  cases q with
  | removeFile path =>
    simp only [World.calm]
    cases w.files path with
    | some bytes => trivial
    | none => rfl
  | readFile path =>
    simp only [World.calm]
    cases w.files path <;> trivial
  | spawn launch foreground =>
    simp only [World.calm]
    split <;> trivial
  | writeFile path contents | discard pid | print bytes | relay pid | await pid | terminate pid =>
    trivial

theorem step_calm (flaky : Prop) (before after : List Party) (past : List Exchange) (q : Request)
    (next : q.Answer → Conversation (Except Fault Nat)) (w : World) :
    Step flaky ⟨before ++ ⟨past, .ask q next⟩ :: after, w⟩
      ⟨before ++ ⟨past ++ [⟨w, q, (World.calm q w).1⟩], next (World.calm q w).1⟩ :: after,
        (World.calm q w).2⟩ :=
  .turn (World.may_calm flaky q w) (orderly_calm q w)

theorem interleaves_advance (flaky : Prop) (s : Scene) (i : Nat) :
    Interleaves flaky s (s.advance i) := by
  unfold Scene.advance
  split
  · next past q next hparty =>
    obtain ⟨hi, hget⟩ := List.getElem?_eq_some_iff.1 hparty
    have hsplit :
        s.parties.take i ++ ⟨past, .ask q next⟩ :: s.parties.drop (i + 1) = s.parties := by
      rw [← hget, List.getElem_cons_drop, List.take_append_drop]
    have hstep := step_calm flaky (s.parties.take i) (s.parties.drop (i + 1)) past q next s.world
    rw [hsplit] at hstep
    dsimp only
    rw [List.set_eq_take_append_cons_drop, if_pos hi]
    exact Relation.ReflTransGen.single hstep
  · exact Relation.ReflTransGen.refl

theorem interleaves_schedule (flaky : Prop) (schedule : List Nat) (s : Scene) :
    Interleaves flaky s (schedule.foldl Scene.advance s) := by
  induction schedule generalizing s with
  | nil => exact Relation.ReflTransGen.refl
  | cons i rest ih => exact (interleaves_advance flaky s i).trans (ih (s.advance i))

theorem interleaves_finish (flaky : Prop) (before after : List Party) (past : List Exchange)
    (d : Conversation (Except Fault Nat)) (w : World) :
    ∃ past' result v, Interleaves flaky ⟨before ++ ⟨past, d⟩ :: after, w⟩
      ⟨before ++ ⟨past', .done result⟩ :: after, v⟩ := by
  induction d generalizing past w with
  | done result => exact ⟨past, result, w, Relation.ReflTransGen.refl⟩
  | ask q next ih =>
    have hstep := step_calm flaky before after past q next w
    obtain ⟨past', result, v, hrest⟩ := ih (World.calm q w).1
      (past ++ [⟨w, q, (World.calm q w).1⟩]) (World.calm q w).2
    exact ⟨past', result, v, Relation.ReflTransGen.head hstep hrest⟩

/-- Nobody waits for anybody: from wherever they are, all parties can return. -/
theorem exists_complete (flaky : Prop) (s : Scene) : ∃ t, Interleaves flaky s t ∧ t.Complete := by
  have hfrom : ∀ (after before : List Party) (w : World), (∀ x ∈ before, x.result?.isSome) →
      ∃ t, Interleaves flaky ⟨before ++ after, w⟩ t ∧ t.Complete := by
    intro after
    -- One after the other returns, and those that have returned stay as they are.
    induction after with
    | nil =>
      intro before w hbefore
      refine ⟨_, Relation.ReflTransGen.refl, ?_⟩
      rw [List.append_nil]
      exact hbefore
    | cons x rest ih =>
      intro before w hbefore
      obtain ⟨past, result, v, hfirst⟩ := interleaves_finish flaky before rest x.past x.rest w
      obtain ⟨t, hrest, ht⟩ := ih (before ++ [⟨past, .done result⟩]) v
        (List.forall_mem_append.2 ⟨hbefore, List.forall_mem_singleton.2 rfl⟩)
      rw [List.append_assoc] at hrest
      exact ⟨t, hfirst.trans hrest, ht⟩
  exact hfrom s.parties [] s.world (List.forall_mem_nil _)

/-! ## What a stop has still to do -/

/-- Only this process is signalled, and after the removal of the record nothing is left to do. -/
inductive Underway (pidfile : String) (pid : Nat) : Conversation (Except Fault Nat) → Prop
  | prints {bytes : ByteArray} {next : Except SystemError Unit → Conversation (Except Fault Nat)}
    (taken : Underway pidfile pid (next (.ok ()))) : Underway pidfile pid (.ask (.print bytes) next)
  | signals {next : Except SystemError Unit → Conversation (Except Fault Nat)}
    (sent : ∀ answer, Orderly (.terminate pid) answer → Underway pidfile pid (next answer)) :
    Underway pidfile pid (.ask (.terminate pid) next)
  | removes {next : Except SystemError Unit → Conversation (Except Fault Nat)}
    (removed : ∀ answer, Orderly (.removeFile pidfile) answer → next answer = .done (.ok pid)) :
    Underway pidfile pid (.ask (.removeFile pidfile) next)

theorem underway_proceed (pidfile : String) (pid : Nat) :
    Underway pidfile pid (proceed pidfile (.ok pid)) := by
  -- The line and its end are two prints.
  refine .prints (.prints (.signals fun answer hsent => ?_))
  have hremoves : Underway pidfile pid (leave pidfile pid) := by
    refine .removes fun answer hremoved => ?_
    cases answer with
    | ok done => rfl
    | error e =>
      cases hremoved
      rfl
  cases answer with
  | ok done => exact hremoves
  | error e =>
    cases hsent
    exact hremoves

theorem Underway.result? {rest : Conversation (Except Fault Nat)} (h : Underway pidfile pid rest)
    (past : List Exchange) : Party.result? ⟨past, rest⟩ = none := by
  cases h <;> rfl

/-! ## Where a party stands -/

def Exchange.Spares (pid : Nat) (e : Exchange) : Prop := ∀ p, signalled? e = some p → p = pid

inductive Stands (pidfile : String) (pid : Nat) : Party → Prop
  | fresh : Stands pidfile pid ⟨[], stop pidfile⟩
  | underway {past : List Exchange} {rest : Conversation (Except Fault Nat)}
    (spares : ∀ e ∈ past, e.Spares pid) (underway : Underway pidfile pid rest) :
    Stands pidfile pid ⟨past, rest⟩
  | finished {past : List Exchange} (spares : ∀ e ∈ past, e.Spares pid) :
    Stands pidfile pid ⟨past, .done (.ok pid)⟩
  | refused (w : World) (answer : Except SystemError ByteArray) (fault : Fault)
    (kind : fault.failure.kind = .notRunning) :
    Stands pidfile pid ⟨[⟨w, .readFile pidfile, answer⟩], .done (.error fault)⟩

theorem Stands.spares {x : Party} (h : Stands pidfile pid x) : ∀ e ∈ x.past, e.Spares pid := by
  cases h with
  | fresh => exact List.forall_mem_nil _
  | underway spares underway => exact spares
  | finished spares => exact spares
  | refused w answer fault kind => exact List.forall_mem_singleton.2 nofun

section Turns

variable {w v : World}

theorem pidOf_of_may {answer : Except SystemError ByteArray}
    (h : World.May flaky (.readFile pidfile) w answer v) :
    (∃ p, pidOf pidfile answer = .ok p ∧ w.pid? pidfile = some p) ∨
      (∃ fault, pidOf pidfile answer = .error fault ∧ fault.failure.kind = .notRunning) ∧
        (w.pid? pidfile = none ∨ flaky) := by
  have hgoes : (readPid pidfile).Goes (World.May flaky) w [⟨w, .readFile pidfile, answer⟩]
      (pidOf pidfile answer) v := by
    rw [readPid_eq]
    exact ⟨answer, v, [], h, rfl, rfl, rfl, rfl⟩
  exact (readPid_goes hgoes).2.2

theorem files_of_removal {answer : Except SystemError Unit}
    (h : World.May flaky (.removeFile pidfile) w answer v)
    (orderly : Orderly (.removeFile pidfile) answer) : v.files pidfile = none := by
  obtain ⟨left, -, h⟩ := h
  cases answer with
  | ok done =>
    obtain ⟨-, rfl⟩ := h
    simp
  | error e =>
    obtain ⟨hnone, rfl⟩ := h
    exact hnone orderly

/-- The pid file names this process, or is not there. -/
def NamesAtMost (pidfile : String) (pid : Nat) (w : World) : Prop :=
  w.pid? pidfile = some pid ∨ w.files pidfile = none

theorem NamesAtMost.eq_of_pid? {p : Nat} (h : NamesAtMost pidfile pid w)
    (hp : w.pid? pidfile = some p) : p = pid := by
  rcases h with hpid | hnone
  · rw [hpid] at hp
    exact (Option.some.inj hp).symm
  · rw [World.pid?, hnone] at hp
    cases hp

theorem NamesAtMost.files_of_pid? (h : NamesAtMost pidfile pid w) (hp : w.pid? pidfile = none) :
    w.files pidfile = none := by
  rcases h with hpid | hnone
  · rw [hpid] at hp
    cases hp
  · exact hnone

/-- What a turn does to the record, given how it leaves the party that took it. -/
inductive Leaves (flaky : Prop) (pidfile : String) (pid : Nat) (w v : World) (x : Party) : Prop
  | same (files : v.files = w.files)
    (returned : x.result?.isSome → w.files pidfile = none ∨ flaky)
  | gone (files : v.files pidfile = none) (returned : x.result? = some (.ok pid))

theorem Underway.leaves {rest : Conversation (Except Fault Nat)} (h : Underway pidfile pid rest)
    (past : List Exchange) (files : v.files = w.files) :
    Leaves flaky pidfile pid w v ⟨past, rest⟩ := by
  refine .same files fun hsome => ?_
  rw [h.result? past] at hsome
  cases hsome

theorem spares_snoc {past : List Exchange} {e : Exchange} (spares : ∀ e ∈ past, e.Spares pid)
    (he : e.Spares pid) : ∀ x ∈ past ++ [e], x.Spares pid :=
  List.forall_mem_append.2 ⟨spares, List.forall_mem_singleton.2 he⟩

theorem stands_of_reading {answer : Except SystemError ByteArray}
    (hnames : NamesAtMost pidfile pid w) (may : World.May flaky (.readFile pidfile) w answer v) :
    Stands pidfile pid ⟨[⟨w, .readFile pidfile, answer⟩], proceed pidfile (pidOf pidfile answer)⟩ ∧
      Leaves flaky pidfile pid w v
        ⟨[⟨w, .readFile pidfile, answer⟩], proceed pidfile (pidOf pidfile answer)⟩ := by
  have hfiles : v.files = w.files := may.files trivial
  rcases pidOf_of_may may with ⟨p, hok, hp⟩ | ⟨⟨fault, herror, hkind⟩, hnone⟩
  · obtain rfl := hnames.eq_of_pid? hp
    have hunderway := underway_proceed pidfile p
    rw [hok]
    exact ⟨.underway (List.forall_mem_singleton.2 nofun) hunderway, hunderway.leaves _ hfiles⟩
  · rw [herror]
    refine ⟨.refused w answer fault hkind, .same hfiles fun _ => ?_⟩
    exact hnone.imp_left hnames.files_of_pid?

theorem Underway.turn {past : List Exchange} {q : Request}
    {next : q.Answer → Conversation (Except Fault Nat)} {answer : q.Answer}
    (h : Underway pidfile pid (.ask q next)) (spares : ∀ e ∈ past, e.Spares pid)
    (may : World.May flaky q w answer v) (orderly : Orderly q answer) :
    Stands pidfile pid ⟨past ++ [⟨w, q, answer⟩], next answer⟩ ∧
      Leaves flaky pidfile pid w v ⟨past ++ [⟨w, q, answer⟩], next answer⟩ := by
  cases h with
  | prints taken =>
    cases answer with
    | error e => exact absurd orderly id
    | ok done =>
      exact ⟨.underway (spares_snoc spares nofun) taken, taken.leaves _ (may.files trivial)⟩
  | signals sent =>
    have hunderway := sent answer orderly
    refine ⟨.underway (spares_snoc spares ?_) hunderway, hunderway.leaves _ (may.files trivial)⟩
    intro p hp
    exact (Option.some.inj hp).symm
  | removes removed =>
    rw [removed answer orderly]
    exact ⟨.finished (spares_snoc spares nofun), .gone (files_of_removal may orderly) rfl⟩

theorem Stands.turn {past : List Exchange} {q : Request}
    {next : q.Answer → Conversation (Except Fault Nat)} {answer : q.Answer}
    (h : Stands pidfile pid ⟨past, .ask q next⟩) (hnames : NamesAtMost pidfile pid w)
    (may : World.May flaky q w answer v) (orderly : Orderly q answer) :
    Stands pidfile pid ⟨past ++ [⟨w, q, answer⟩], next answer⟩ ∧
      Leaves flaky pidfile pid w v ⟨past ++ [⟨w, q, answer⟩], next answer⟩ := by
  generalize hx : Party.mk past (.ask q next) = x at h
  cases h with
  | fresh =>
    rw [stop_eq] at hx
    cases hx
    exact stands_of_reading hnames may
  | underway spares underway =>
    cases hx
    exact underway.turn spares may orderly
  | finished spares => cases hx
  | refused u a fault kind => cases hx

end Turns

/-! ## The invariant -/

/-- Either the record is as it was and nobody has returned, unless the disk would not let a party
read; or the record is gone and somebody has returned its process. -/
inductive Stage (flaky : Prop) (pidfile : String) (pid : Nat) (s : Scene) : Prop
  | recorded (named : s.world.pid? pidfile = some pid)
    (busy : ∀ x ∈ s.parties, x.result?.isSome → flaky)
  | gone (files : s.world.files pidfile = none)
    (returned : ∃ x ∈ s.parties, x.result? = some (.ok pid))

structure Agrees (flaky : Prop) (pidfile : String) (pid n : Nat) (s : Scene) : Prop where
  length : s.parties.length = n
  stands : ∀ x ∈ s.parties, Stands pidfile pid x
  stage : Stage flaky pidfile pid s

theorem Stage.namesAtMost {s : Scene} (h : Stage flaky pidfile pid s) :
    NamesAtMost pidfile pid s.world := by
  cases h with
  | recorded named busy => exact Or.inl named
  | gone files returned => exact Or.inr files

variable {n : Nat} {s t : Scene}

theorem agrees_ofStops {first : World} (h : first.pid? pidfile = some pid) :
    Agrees flaky pidfile pid n (.ofStops pidfile n first) where
  length := List.length_replicate
  stands := by
    intro x hx
    rw [List.eq_of_mem_replicate hx]
    exact .fresh
  stage := by
    refine .recorded h fun x hx hsome => ?_
    rw [List.eq_of_mem_replicate hx, stop_eq] at hsome
    cases hsome

theorem Stage.turn {before after : List Party} {x y : Party} {w v : World}
    (h : Stage flaky pidfile pid ⟨before ++ x :: after, w⟩) (hx : x.result? = none)
    (leaves : Leaves flaky pidfile pid w v y) :
    Stage flaky pidfile pid ⟨before ++ y :: after, v⟩ := by
  cases leaves with
  | gone files returned => exact .gone files ⟨y, by simp, returned⟩
  | same files returned =>
    cases h with
    | recorded named busy =>
      -- Only a party that could not read may have returned so far.
      change w.pid? pidfile = some pid at named
      refine .recorded ((World.pid?_congr (congrFun files pidfile)).trans named) ?_
      simp only [List.forall_mem_append, List.forall_mem_cons] at busy ⊢
      refine ⟨busy.1, fun hsome => ?_, busy.2.2⟩
      rcases returned hsome with hnone | hflaky
      · rw [World.pid?, hnone] at named
        cases named
      · exact hflaky
    | gone gone earlier =>
      refine .gone ((congrFun files pidfile).trans gone) ?_
      -- Whoever has returned is not the one that asked, and is still there.
      obtain ⟨z, hz, hdone⟩ := earlier
      have hne : z ≠ x := by
        rintro rfl
        rw [hx] at hdone
        cases hdone
      refine ⟨z, ?_, hdone⟩
      simp only [List.mem_append, List.mem_cons, hne, false_or] at hz ⊢
      exact hz.imp_right Or.inr

theorem Agrees.step (h : Agrees flaky pidfile pid n s) (hstep : Step flaky s t) :
    Agrees flaky pidfile pid n t := by
  obtain ⟨hlength, hstands, hstage⟩ := h
  cases hstep with
  | @turn before after past q next answer w v may orderly =>
    simp only [List.forall_mem_append, List.forall_mem_cons] at hstands
    obtain ⟨hbefore, hparty, hafter⟩ := hstands
    obtain ⟨hturned, hleaves⟩ := hparty.turn hstage.namesAtMost may orderly
    refine ⟨?_, ?_, hstage.turn rfl hleaves⟩
    · simpa using hlength
    · exact List.forall_mem_append.2 ⟨hbefore, List.forall_mem_cons.2 ⟨hturned, hafter⟩⟩

theorem Agrees.run (h : Agrees flaky pidfile pid n s) (hrun : Interleaves flaky s t) :
    Agrees flaky pidfile pid n t := by
  induction hrun with
  | refl => exact h
  | tail hrun hstep ih => exact ih.step hstep

/-! ## Agreement -/

/-- The party has returned its process, or was told that there is none before it did anything. -/
inductive Returned (pid : Nat) : Party → Prop
  | stopped {past : List Exchange} : Returned pid ⟨past, .done (.ok pid)⟩
  | notRunning {past : List Exchange} {fault : Fault} (kind : fault.failure.kind = .notRunning)
    (silent : ∀ e ∈ past, ¬ e.request.prints ∧ signalled? e = none) :
    Returned pid ⟨past, .done (.error fault)⟩

theorem Stands.returned {x : Party} (h : Stands pidfile pid x) (hsome : x.result?.isSome) :
    Returned pid x := by
  cases h with
  | fresh =>
    rw [stop_eq] at hsome
    cases hsome
  | underway spares underway =>
    rw [underway.result?] at hsome
    cases hsome
  | finished spares => exact .stopped
  | refused w answer fault kind =>
    exact .notRunning kind (List.forall_mem_singleton.2 ⟨id, rfl⟩)

/-- Whatever the order in which stops take turns, all of them signal the process on record only, and
none keeps another from returning. When all have returned, each has returned that process or was
told at once that there is none. If the disk lets them read, one of them at least has returned it,
and the record is gone. -/
theorem stops_agree {first : World} (hrecord : first.pid? pidfile = some pid)
    (hrun : Interleaves flaky (.ofStops pidfile n first) s) :
    s.parties.length = n ∧ (∃ t, Interleaves flaky s t ∧ t.Complete) ∧
    (∀ x ∈ s.parties, ∀ e ∈ x.past, ∀ p, signalled? e = some p → p = pid) ∧
    (s.Complete → ∀ x ∈ s.parties, Returned pid x) ∧
    (s.Complete → 0 < n → ¬ flaky →
      (∃ x ∈ s.parties, x.result? = some (.ok pid)) ∧ s.world.files pidfile = none) := by
  have hagrees := (agrees_ofStops hrecord).run hrun
  refine ⟨hagrees.length, exists_complete flaky s, ?_, ?_, ?_⟩
  · intro x hx
    exact (hagrees.stands x hx).spares
  · intro hcomplete x hx
    exact (hagrees.stands x hx).returned (hcomplete x hx)
  · intro hcomplete hn hsound
    cases hagrees.stage with
    | recorded named busy =>
      -- With the record in its place there would be a party that has not returned.
      have hlength : 0 < s.parties.length := hagrees.length.symm ▸ hn
      obtain ⟨x, hx⟩ := List.exists_mem_of_length_pos hlength
      exact absurd (busy x hx (hcomplete x hx)) hsound
    | gone files returned => exact ⟨returned, files⟩

def World.ofSeven : World := ⟨fun _ => some (PidFile.text 7).toUTF8, [7]⟩

/-- Two stops that both read the record before the first of them removes it. -/
def Scene.race : Scene :=
  [0, 1, 0, 0, 1, 1, 0, 1, 0, 1].foldl Scene.advance (.ofStops "ecc.pid" 2 .ofSeven)

/-- The one that comes second to remove the record finds none, and both succeed. -/
theorem stops_agree_race :
    World.ofSeven.pid? "ecc.pid" = some 7 ∧
      Interleaves False (.ofStops "ecc.pid" 2 .ofSeven) .race ∧
      Scene.race.parties.map Party.result? = [some (.ok 7), some (.ok 7)] ∧
      (∀ x ∈ Scene.race.parties, ∀ e ∈ x.past, ∀ p, signalled? e = some p → p = 7) ∧
      Scene.race.world.files "ecc.pid" = none := by
  have hrecord : World.ofSeven.pid? "ecc.pid" = some 7 :=
    World.pid?_of_text (by decide) (by decide) rfl
  have hrun : Interleaves False (.ofStops "ecc.pid" 2 .ofSeven) .race :=
    interleaves_schedule False _ _
  have hresults : Scene.race.parties.map Party.result? = [some (.ok 7), some (.ok 7)] := by rfl
  have hcomplete : Scene.race.Complete := by
    have hsome : ∀ r ∈ Scene.race.parties.map Party.result?, r.isSome := by simp [hresults]
    exact List.forall_mem_map.1 hsome
  obtain ⟨-, -, hsignals, -, hstopped⟩ := stops_agree hrecord hrun
  exact ⟨hrecord, hrun, hresults, hsignals, (hstopped hcomplete (by decide) id).2⟩

end RepairConsole.Supervisor
