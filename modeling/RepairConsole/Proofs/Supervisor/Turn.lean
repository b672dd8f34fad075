import RepairConsole.Proofs.Supervisor.Endings
/-!
# Starts and stops in a row

A run on one pid file: starts and stops one after the other, each carried out to its end. What
happened is read off the exchanges of each turn.
-/

namespace RepairConsole.Supervisor

inductive Order where
  | start (launch : Launch) (foreground : Bool)
  | stop

namespace Order

abbrev Result : Order → Type
  | start _ _ => Except Fault Started
  | stop => Except Fault Nat

def conversation (pidfile : String) : (o : Order) → Conversation o.Result
  | start launch foreground => Supervisor.start pidfile launch foreground
  | stop => Supervisor.stop pidfile

end Order

/-- An order that was carried out to its end. -/
structure Turn where
  order : Order
  before : World
  exchanges : List Exchange
  result : order.Result
  after : World

namespace Turn

/-- The turn is one that its order can take. -/
def Happens (flaky : Prop) (pidfile : String) (t : Turn) : Prop :=
  (t.order.conversation pidfile).Goes (World.May flaky) t.before t.exchanges t.result t.after

/-- The process that the turn brought to life. -/
def spawned? (t : Turn) : Option Nat := t.exchanges.findSome? child?

/-- The process that the turn brought to life and put on record: the writing of the pid file
succeeded. -/
def recorded? (pidfile : String) (t : Turn) : Option Nat :=
  if t.exchanges.any (replaces pidfile) then t.spawned? else none

/-- The process that a start returned. -/
def started? : Turn → Option Nat
  | ⟨.start _ _, _, _, .ok started, _⟩ => some started.pid
  | _ => none

/-- The process that a stop returned. -/
def stopped? : Turn → Option Nat
  | ⟨.stop, _, _, .ok pid, _⟩ => some pid
  | _ => none

/-- The kind of failure that the turn ended with. -/
def kind? : Turn → Option FailureKind
  | ⟨.start _ _, _, _, .error fault, _⟩ => some fault.failure.kind
  | ⟨.stop, _, _, .error fault, _⟩ => some fault.failure.kind
  | _ => none

end Turn

/-- A run of starts and stops on a pid file, and the world that it ends in. -/
inductive Run (flaky : Prop) (pidfile : String) (first : World) : List Turn → World → Prop
  | none : Run flaky pidfile first [] first
  | turn {turns : List Turn} {t : Turn} (past : Run flaky pidfile first turns t.before)
    (happens : t.Happens flaky pidfile) : Run flaky pidfile first (turns ++ [t]) t.after

/-- There was a turn with `P`, and all turns since are such as `R` says. -/
def Since (P R : Turn → Prop) (turns : List Turn) : Prop :=
  ∃ earlier t later, turns = earlier ++ t :: later ∧ P t ∧ ∀ u ∈ later, R u

theorem since_snoc {P R : Turn → Prop} {turns : List Turn} {t : Turn} :
    Since P R (turns ++ [t]) ↔ P t ∨ R t ∧ Since P R turns := by
  constructor
  · rintro ⟨earlier, u, later, h, hu, hlater⟩
    rcases List.eq_nil_or_concat later with rfl | ⟨middle, last, rfl⟩
    · obtain ⟨-, hlast⟩ := List.append_inj' h rfl
      rw [← List.singleton_inj.1 hlast] at hu
      exact Or.inl hu
    · rw [List.concat_eq_append, ← List.cons_append, ← List.append_assoc] at h
      obtain ⟨rfl, hlast⟩ := List.append_inj' h rfl
      obtain rfl := List.singleton_inj.1 hlast
      rw [List.concat_eq_append] at hlater
      refine Or.inr ⟨hlater t (by simp), earlier, u, middle, rfl, hu, fun v hv => ?_⟩
      exact hlater v (List.mem_append_left _ hv)
  · rintro (ht | ⟨ht, earlier, u, later, rfl, hu, hlater⟩)
    · exact ⟨turns, t, [], rfl, ht, by simp⟩
    · refine ⟨earlier, u, later ++ [t], by simp, hu, fun v hv => ?_⟩
      rcases List.mem_append.1 hv with hv | hv
      · exact hlater v hv
      · rw [List.mem_singleton.1 hv]
        exact ht

/-! ## What a turn does to the record -/

theorem Request.ends.replaces_eq_false {pidfile : String} {pid : Nat} {e : Exchange}
    (h : e.request.ends pidfile pid) : replaces pidfile e = false := by
  obtain ⟨w, q, answer⟩ := e
  cases q <;> first | rfl | exact h.elim

namespace Turn

variable {flaky : Prop} {pidfile : String} {t : Turn}

/-- A turn leaves the record alone, or puts its child on it, or removes it; on a flaky disk it
may also spoil it. -/
inductive Effect (flaky : Prop) (pidfile : String) (t : Turn) : Prop
  | none (recorded : t.recorded? pidfile = none) (started : t.started? = none)
    (stopped : t.stopped? = none) (files : t.after.files = t.before.files)
  | spoiled (flaky : flaky) (torn : ByteArray) (recorded : t.recorded? pidfile = none)
    (started : t.started? = none) (stopped : t.stopped? = none)
    (files : t.after.files = (t.before.put pidfile (some torn)).files)
  | recorded (pid : Nat) (positive : 0 < pid) (bounded : pid ≤ PidFile.greatestPid)
    (recorded : t.recorded? pidfile = some pid) (spawned : t.spawned? = some pid)
    (started : ∀ p, t.started? = some p → p = pid) (stopped : t.stopped? = none)
    (files : t.after.files = (t.before.put pidfile (some (Nat.repr pid).toUTF8)).files)
  | removed (pid : Nat) (recorded : t.recorded? pidfile = none) (started : t.started? = none)
    (stopped : t.stopped? = some pid) (named : t.before.pid? pidfile = some pid)
    (files : t.after.files = (t.before.put pidfile none).files)

theorem recorded?_of_ends {order : Order} {result : order.Result} {w u v : World} {pid : Nat}
    {answer : Except SystemError ByteArray} {rest : List Exchange}
    (h : ∀ e ∈ rest, e.request.ends pidfile pid) :
    recorded? pidfile ⟨order, w, ⟨u, .readFile pidfile, answer⟩ :: rest, result, v⟩ = none := by
  rw [recorded?, if_neg]
  simp only [List.any_cons, Bool.or_eq_true, not_or]
  refine ⟨by simp [replaces], ?_⟩
  rw [Bool.not_eq_true, List.any_eq_false]
  intro e he
  rw [(h e he).replaces_eq_false]
  simp

theorem Happens.effect (h : t.Happens flaky pidfile) : t.Effect flaky pidfile := by
  obtain ⟨order, w, exchanges, result, v⟩ := t
  cases order with
  | start launch foreground =>
    have hends : StartEnds flaky pidfile launch foreground w exchanges result v := start_ends h
    cases hends with
    | unlaunched error v files => exact .none rfl rfl rfl files
    | unrecorded pid error u₁ u₂ v files gone =>
      rcases files with files | ⟨hflaky, torn, files⟩
      · exact .none rfl rfl rfl files
      · exact .spoiled hflaky torn rfl rfl rfl files
    | recorded pid u v rest result asked files positive bounded returned =>
      refine .recorded pid positive bounded ?_ rfl ?_ ?_ files
      · rw [recorded?, if_pos (by simp [replaces])]
        rfl
      · intro p hp
        rcases returned with ⟨rfl, -⟩ | ⟨⟨fault, rfl, -⟩, -⟩
        · exact (Option.some.inj hp).symm
        · cases hp
      · rfl
  | stop =>
    have hends : StopEnds flaky pidfile w exchanges result v := stop_ends h
    cases hends with
    | unread answer fault v kind files unnamed => exact .none rfl rfl rfl files
    | kept pid answer rest fault v named asked kind files =>
      exact .none (recorded?_of_ends fun e he => (asked e he).1) rfl rfl files
    | removed pid answer rest v named asked signalled files =>
      exact .removed pid (recorded?_of_ends fun e he => (asked e he).1) rfl rfl named files

/-! ## What a turn does to the processes -/

/-- An exchange of a turn brings the turn's process to life, or signals the process on record, or
kills the turn's process that could not be put on record, or does nothing to any process. -/
inductive Touch (pidfile : String) (t : Turn) (e : Exchange) : Prop
  | none (child : child? e = .none) (signalled : signalled? e = .none)
    (discarded : discarded? e = .none)
  | spawned (pid : Nat) (child : child? e = some pid) (signalled : signalled? e = .none)
    (discarded : discarded? e = .none) (spawned : t.spawned? = some pid)
  | signalled (pid : Nat) (child : child? e = .none) (signalled : signalled? e = some pid)
    (discarded : discarded? e = .none) (named : t.before.pid? pidfile = some pid)
    (files : e.before.files = t.before.files)
  | discarded (pid : Nat) (child : child? e = .none) (signalled : signalled? e = .none)
    (discarded : discarded? e = some pid) (spawned : t.spawned? = some pid)
    (recorded : t.recorded? pidfile = .none)

theorem touch_of_attends {e : Exchange} {pid : Nat} (h : e.request.attends pid) :
    t.Touch pidfile e := by
  obtain ⟨w, q, answer⟩ := e
  cases q <;> first | exact .none rfl rfl rfl | exact h.elim

theorem touch_of_ends {e : Exchange} {pid : Nat} (h : e.request.ends pidfile pid)
    (named : t.before.pid? pidfile = some pid) (files : e.before.files = t.before.files) :
    t.Touch pidfile e := by
  obtain ⟨w, q, answer⟩ := e
  cases q with
  | terminate target =>
    obtain rfl : target = pid := h
    exact .signalled target rfl rfl rfl named files
  | print bytes | removeFile path => exact .none rfl rfl rfl
  | _ => exact h.elim

theorem Happens.touch (h : t.Happens flaky pidfile) {e : Exchange} (he : e ∈ t.exchanges) :
    t.Touch pidfile e := by
  obtain ⟨order, w, exchanges, result, v⟩ := t
  cases order with
  | start launch foreground =>
    have hends : StartEnds flaky pidfile launch foreground w exchanges result v := start_ends h
    cases hends with
    | unlaunched error v files =>
      rw [List.mem_singleton.1 he]
      exact .none rfl rfl rfl
    | unrecorded pid error u₁ u₂ v files gone =>
      simp only [List.mem_cons, List.not_mem_nil, or_false] at he
      rcases he with rfl | rfl | rfl
      · exact .spawned pid rfl rfl rfl rfl
      · exact .none rfl rfl rfl
      · exact .discarded pid rfl rfl rfl rfl rfl
    | recorded pid u v rest result asked files positive bounded returned =>
      simp only [List.mem_cons] at he
      rcases he with rfl | rfl | he
      · exact .spawned pid rfl rfl rfl rfl
      · exact .none rfl rfl rfl
      · exact touch_of_attends (asked e he)
  | stop =>
    have hends : StopEnds flaky pidfile w exchanges result v := stop_ends h
    cases hends with
    | unread answer fault v kind files unnamed =>
      rw [List.mem_singleton.1 he]
      exact .none rfl rfl rfl
    | kept pid answer rest fault v named asked kind files =>
      rcases List.mem_cons.1 he with rfl | he
      · exact .none rfl rfl rfl
      · exact touch_of_ends (asked e he).1 named (asked e he).2
    | removed pid answer rest v named asked signalled files =>
      rcases List.mem_cons.1 he with rfl | he
      · exact .none rfl rfl rfl
      · exact touch_of_ends (asked e he).1 named (asked e he).2

/-- No turn brings more than one process to life. -/
theorem Happens.child (h : t.Happens flaky pidfile) {e : Exchange} (he : e ∈ t.exchanges)
    {pid : Nat} (hchild : child? e = some pid) : t.spawned? = some pid := by
  cases h.touch he with
  | spawned p child signalled discarded spawned => rw [spawned, ← child, hchild]
  | none child | signalled p child | discarded p child =>
    rw [child] at hchild
    cases hchild

theorem Happens.signalled (h : t.Happens flaky pidfile) {e : Exchange} (he : e ∈ t.exchanges)
    {pid : Nat} (hpid : signalled? e = some pid) :
    t.before.pid? pidfile = some pid ∧ e.before.files = t.before.files := by
  cases h.touch he with
  | signalled p child signalled discarded named files =>
    rw [← hpid, signalled]
    exact ⟨named, files⟩
  | none child signalled | spawned p child signalled | discarded p child signalled =>
    rw [signalled] at hpid
    cases hpid

/-- A child is killed only by the start that brought it to life, and only if it could not be put
on record. -/
theorem Happens.discarded (h : t.Happens flaky pidfile) {e : Exchange} (he : e ∈ t.exchanges)
    {pid : Nat} (hpid : discarded? e = some pid) :
    t.spawned? = some pid ∧ t.recorded? pidfile = none := by
  cases h.touch he with
  | discarded p child signalled discarded spawned recorded =>
    rw [← hpid, discarded]
    exact ⟨spawned, recorded⟩
  | none child signalled discarded | spawned p child signalled discarded
  | signalled p child signalled discarded =>
    rw [discarded] at hpid
    cases hpid

theorem Happens.running (h : t.Happens flaky pidfile) {pid : Nat}
    (hpid : pid ∈ t.after.running) : pid ∈ t.before.running ∨ t.spawned? = some pid := by
  rcases World.running_of_goes h hpid with hbefore | ⟨e, he, hchild⟩
  · exact Or.inl hbefore
  · exact Or.inr (h.child he hchild)

end Turn
end RepairConsole.Supervisor
