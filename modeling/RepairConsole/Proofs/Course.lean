import RepairConsole.Dialogue
/-!
# Courses of a dialogue

What was asked and answered, in order, when a dialogue met a host. A host is a function, which
says what it answers, or a relation, which says what it may answer; a relation leaves open what
nobody can foresee.
-/

namespace RepairConsole.Dialogue

variable {Q σ α β : Type} {A : Q → Type}

/-- A request, its answer, and the state of the host in which it was asked. -/
structure Exchange (A : Q → Type) (σ : Type) where
  before : σ
  request : Q
  answer : A request

theorem ask_congr {q : Q} {next other : A q → Dialogue Q A α} (h : ∀ a, next a = other a) :
    ask q next = ask q other := congrArg (ask q) (funext h)

/-! ## Hosts that are functions -/

/-- All exchanges of a dialogue with a host. -/
def course (answer : (q : Q) → σ → A q × σ) : Dialogue Q A α → σ → List (Exchange A σ)
  | done _, _ => []
  | ask q next, s =>
    ⟨s, q, (answer q s).1⟩ :: course answer (next (answer q s).1) (answer q s).2

@[simp] theorem course_done (answer : (q : Q) → σ → A q × σ) (result : α) (s : σ) :
    course answer (done result : Dialogue Q A α) s = [] := rfl

@[simp] theorem course_ask (answer : (q : Q) → σ → A q × σ) (q : Q) (next : A q → Dialogue Q A α)
    (s : σ) :
    course answer (ask q next) s =
      ⟨s, q, (answer q s).1⟩ :: course answer (next (answer q s).1) (answer q s).2 := rfl

theorem course_bind (answer : (q : Q) → σ → A q × σ) (d : Dialogue Q A α)
    (next : α → Dialogue Q A β) (s : σ) :
    course answer (d.bind next) s =
      course answer d s ++ course answer (next (run answer d s).1) (run answer d s).2 := by
  induction d generalizing s with
  | done result => rfl
  | ask q rest ih => exact congrArg (_ :: ·) (ih _ _)

/-! ## Hosts that are relations -/

/-- The dialogue can go this way with a host that may answer as `may` says: from a state,
through these exchanges, to a result and a state. -/
def Goes (may : (q : Q) → σ → A q → σ → Prop) :
    Dialogue Q A α → σ → List (Exchange A σ) → α → σ → Prop
  | done r, s, exchanges, result, t => exchanges = [] ∧ result = r ∧ t = s
  | ask q next, s, exchanges, result, t =>
    ∃ answer m rest, may q s answer m ∧ exchanges = ⟨s, q, answer⟩ :: rest ∧
      (next answer).Goes may m rest result t

variable {may : (q : Q) → σ → A q → σ → Prop} {s t : σ} {exchanges : List (Exchange A σ)}

@[simp] theorem goes_done {r result : α} :
    (done r : Dialogue Q A α).Goes may s exchanges result t ↔
      exchanges = [] ∧ result = r ∧ t = s := Iff.rfl

theorem goes_ask {q : Q} {next : A q → Dialogue Q A α} {result : α} :
    (ask q next).Goes may s exchanges result t ↔
      ∃ answer m rest, may q s answer m ∧ exchanges = ⟨s, q, answer⟩ :: rest ∧
        (next answer).Goes may m rest result t := Iff.rfl

theorem goes_bind {d : Dialogue Q A α} {next : α → Dialogue Q A β} {result : β} :
    (d.bind next).Goes may s exchanges result t ↔
      ∃ first r m rest, exchanges = first ++ rest ∧ d.Goes may s first r m ∧
        (next r).Goes may m rest result t := by
  induction d generalizing s exchanges with
  | done r =>
    constructor
    · intro h
      exact ⟨[], r, s, exchanges, rfl, ⟨rfl, rfl, rfl⟩, h⟩
    · rintro ⟨_, _, _, rest, rfl, ⟨rfl, rfl, rfl⟩, h⟩
      exact h
  | ask q go ih =>
    rw [bind, goes_ask]
    constructor
    · rintro ⟨answer, m, rest, hmay, rfl, h⟩
      obtain ⟨first, r, n, last, rfl, hgo, hnext⟩ := (ih answer).1 h
      exact ⟨_ :: first, r, n, last, rfl, ⟨answer, m, first, hmay, rfl, hgo⟩, hnext⟩
    · rintro ⟨_, r, n, last, rfl, ⟨answer, m, first, hmay, rfl, hgo⟩, hnext⟩
      have hbind := (ih answer).2 ⟨first, r, n, last, rfl, hgo, hnext⟩
      exact ⟨answer, m, first ++ last, hmay, rfl, hbind⟩

/-- What a function answers, the relation that allows just that may answer. -/
theorem goes_run {answer : (q : Q) → σ → A q × σ}
    (h : ∀ q s, may q s (answer q s).1 (answer q s).2) (d : Dialogue Q A α) (s : σ) :
    d.Goes may s (d.course answer s) (d.run answer s).1 (d.run answer s).2 := by
  induction d generalizing s with
  | done result => exact ⟨rfl, rfl, rfl⟩
  | ask q next ih => exact ⟨_, _, _, h q s, rfl, ih _ _⟩

/-! ## What a dialogue can ask -/

/-- Whatever it is answered, the dialogue asks requests of this kind only. -/
def Asks (P : Q → Prop) : Dialogue Q A α → Prop
  | done _ => True
  | ask q next => P q ∧ ∀ answer, (next answer).Asks P

variable {P : Q → Prop}

@[simp] theorem asks_done (result : α) : (done result : Dialogue Q A α).Asks P := trivial

@[simp] theorem asks_ask {q : Q} {next : A q → Dialogue Q A α} :
    (ask q next).Asks P ↔ P q ∧ ∀ answer, (next answer).Asks P := Iff.rfl

theorem Asks.mono {P' : Q → Prop} (himp : ∀ q, P q → P' q) {d : Dialogue Q A α}
    (hd : d.Asks P) : d.Asks P' := by
  induction d with
  | done result => trivial
  | ask q next ih => exact ⟨himp q hd.1, fun answer => ih answer (hd.2 answer)⟩

theorem Goes.asked {d : Dialogue Q A α} {result : α} (h : d.Goes may s exchanges result t)
    (hd : d.Asks P) : ∀ e ∈ exchanges, P e.request := by
  induction d generalizing s exchanges with
  | done r =>
    rw [h.1]
    simp
  | ask q next ih =>
    obtain ⟨answer, m, rest, -, rfl, hgo⟩ := h
    intro e he
    rcases List.mem_cons.1 he with rfl | he
    · exact hd.1
    · exact ih answer hgo (hd.2 answer) e he

theorem Asks.course {d : Dialogue Q A α} (hd : d.Asks P) (answer : (q : Q) → σ → A q × σ)
    (s : σ) : ∀ e ∈ d.course answer s, P e.request := by
  have hgoes : d.Goes (fun q s a t => (a, t) = answer q s) s (d.course answer s)
      (d.run answer s).1 (d.run answer s).2 := goes_run (fun _ _ => rfl) d s
  exact hgoes.asked hd

/-- What no request changes that was asked stays as it is. -/
theorem Goes.keeps_of_asked {τ : Type} {view : σ → τ}
    (hview : ∀ q s a t, P q → may q s a t → view t = view s) {d : Dialogue Q A α} {result : α}
    (h : d.Goes may s exchanges result t) (hasked : ∀ e ∈ exchanges, P e.request) :
    view t = view s := by
  induction d generalizing s exchanges with
  | done r => rw [h.2.2]
  | ask q next ih =>
    obtain ⟨answer, m, rest, hmay, rfl, hgo⟩ := h
    obtain ⟨hq, hrest⟩ := List.forall_mem_cons.1 hasked
    exact (ih answer hgo hrest).trans (hview q s answer m hq hmay)

/-- What no request of a dialogue changes stays as it is throughout. -/
theorem Goes.keeps {τ : Type} {view : σ → τ}
    (hview : ∀ q s a t, P q → may q s a t → view t = view s) {d : Dialogue Q A α} {result : α}
    (h : d.Goes may s exchanges result t) (hd : d.Asks P) :
    view t = view s ∧ ∀ e ∈ exchanges, view e.before = view s := by
  induction d generalizing s exchanges with
  | done r =>
    obtain ⟨rfl, -, rfl⟩ := h
    simp
  | ask q next ih =>
    obtain ⟨answer, m, rest, hmay, rfl, hgo⟩ := h
    have hm : view m = view s := hview q s answer m hd.1 hmay
    obtain ⟨ht, hrest⟩ := ih answer hgo (hd.2 answer)
    refine ⟨ht.trans hm, fun e he => ?_⟩
    rcases List.mem_cons.1 he with rfl | he
    · rfl
    · exact (hrest e he).trans hm

/-! ## Dialogues that break off -/

/-- The first dialogue goes as the second does, or breaks off on the way and comes to nothing. Only
requests of this kind are left by then. -/
inductive Follows (P : Q → Prop) : Dialogue Q A (Option α) → Dialogue Q A α → Prop
  | off (whole : Dialogue Q A α) (left : whole.Asks P) : Follows P (done none) whole
  | through (result : α) : Follows P (done (some result)) (done result)
  | ask {q : Q} {next : A q → Dialogue Q A (Option α)} {whole : A q → Dialogue Q A α}
    (h : ∀ a, Follows P (next a) (whole a)) : Follows P (ask q next) (ask q whole)

namespace Follows

theorem all (d : Dialogue Q A α) : Follows P (d.bind fun result => done (some result)) d := by
  induction d with
  | done result => exact .through result
  | ask q rest ih => exact .ask ih

/-- What was asked before it broke off is what would have been asked, and what was left by then
would have been of this kind. -/
theorem run {d : Dialogue Q A (Option α)} {whole : Dialogue Q A α} (h : Follows P d whole)
    (answer : (q : Q) → σ → A q × σ) (s : σ) :
    ((d.run answer s).1 = none ∨ (d.run answer s).1 = some (whole.run answer s).1) ∧
      ∃ rest, whole.course answer s = d.course answer s ++ rest ∧ ∀ e ∈ rest, P e.request := by
  induction h generalizing s with
  | off whole left => exact ⟨Or.inl rfl, _, rfl, left.course answer s⟩
  | through result => exact ⟨Or.inr rfl, [], rfl, List.forall_mem_nil _⟩
  | @ask q next whole _ ih =>
    rw [course_ask, course_ask, run_ask, run_ask]
    obtain ⟨hrun, rest, hcourse, hleft⟩ := ih (answer q s).1 (answer q s).2
    exact ⟨hrun, rest, congrArg (_ :: ·) hcourse, hleft⟩

end Follows

end RepairConsole.Dialogue
