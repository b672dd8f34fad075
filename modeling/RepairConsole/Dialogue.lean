/-!
# Dialogues

A procedure that deals with the world is a value: it has finished, or it asks something and
goes on with the answer. Who answers is left open, so the same procedure runs against a real
host and a rehearsed one, and can be interleaved with others step by step.
-/

namespace RepairConsole

/-- A procedure that asks requests `Q`, each with its type of answers, and ends in `α`. -/
inductive Dialogue (Q : Type) (A : Q → Type) (α : Type) : Type where
  | done (result : α)
  | ask (request : Q) (next : A request → Dialogue Q A α)

namespace Dialogue

variable {Q R σ α β : Type} {A : Q → Type} {B : R → Type}

/-- Goes on with `next` after a dialogue. -/
def bind : Dialogue Q A α → (α → Dialogue Q A β) → Dialogue Q A β
  | done result, next => next result
  | ask request rest, next => ask request fun answer => (rest answer).bind next

instance : Monad (Dialogue Q A) where
  pure := done
  bind := bind

/-- Lets a host answer, whose state each request may change. -/
def run (answer : (q : Q) → σ → A q × σ) : Dialogue Q A α → σ → α × σ
  | done result, state => (result, state)
  | ask q next, state =>
    let (reply, state) := answer q state
    run answer (next reply) state

/-- Lets a monad answer. -/
def runM {m : Type → Type} [Monad m] (answer : (q : Q) → m (A q)) : Dialogue Q A α → m α
  | done result => Pure.pure result
  | ask q next => do runM answer (next (← answer q))

/-- Turns each request into a dialogue of another kind. -/
def via (as : (q : Q) → Dialogue R B (A q)) : Dialogue Q A α → Dialogue R B α
  | done result => done result
  | ask q next => (as q).bind fun reply => via as (next reply)

@[simp] theorem run_done (answer : (q : Q) → σ → A q × σ) (result : α) (state : σ) :
    run answer (done result) state = (result, state) := rfl

@[simp] theorem run_ask (answer : (q : Q) → σ → A q × σ) (q : Q) (next : A q → Dialogue Q A α)
    (state : σ) :
    run answer (ask q next) state =
      run answer (next (answer q state).1) (answer q state).2 := rfl

theorem run_bind (answer : (q : Q) → σ → A q × σ) (d : Dialogue Q A α)
    (next : α → Dialogue Q A β) (state : σ) :
    run answer (d.bind next) state =
      run answer (next (run answer d state).1) (run answer d state).2 := by
  induction d generalizing state with
  | done result => rfl
  | ask q rest ih => exact ih _ _

end Dialogue
end RepairConsole
