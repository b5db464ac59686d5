/-!
Programs that ask questions. A `Dialogue` either is finished or puts one question and goes on with
the answer; what answers it (a store, a scripted server, a recording) is chosen when it is run.
Running the sequence of two dialogues is running one after the other (`run_bind`).
-/

set_option autoImplicit false

namespace SqlCache

/-- A program that puts questions `q : Q`, each answered by an `R q`, and ends with an `α`. -/
inductive Dialogue (Q : Type) (R : Q → Type) (α : Type) where
  /-- Nothing is left to ask. -/
  | done (a : α)
  /-- Put a question and go on with its answer. -/
  | ask (q : Q) (next : R q → Dialogue Q R α)

namespace Dialogue

variable {Q : Type} {R : Q → Type} {α β σ : Type}

/-- One dialogue after another. -/
protected def bind (d : Dialogue Q R α) (f : α → Dialogue Q R β) : Dialogue Q R β :=
  match d with
  | done a => f a
  | ask q next => ask q fun r => (next r).bind f

instance : Monad (Dialogue Q R) where
  pure := done
  bind := Dialogue.bind

/-- The dialogue of one question. -/
def question (q : Q) : Dialogue Q R (R q) :=
  ask q done

/-- Answer every question with `handle`, which may keep a state. -/
def run (handle : (q : Q) → σ → R q × σ) : Dialogue Q R α → σ → α × σ
  | done a, s => (a, s)
  | ask q next, s =>
    let (r, s) := handle q s
    (next r).run handle s

@[simp] theorem run_done (handle : (q : Q) → σ → R q × σ) (a : α) (s : σ) :
    (done a : Dialogue Q R α).run handle s = (a, s) := rfl

@[simp] theorem run_pure (handle : (q : Q) → σ → R q × σ) (a : α) (s : σ) :
    (pure a : Dialogue Q R α).run handle s = (a, s) := rfl

theorem run_ask (handle : (q : Q) → σ → R q × σ) (q : Q) (next : R q → Dialogue Q R α) (s : σ) :
    (ask q next).run handle s = (next (handle q s).1).run handle (handle q s).2 := rfl

@[simp] theorem run_question (handle : (q : Q) → σ → R q × σ) (q : Q) (s : σ) :
    (question q).run handle s = handle q s := rfl

/-- Running a sequence is running its parts in turn. -/
theorem run_bind (handle : (q : Q) → σ → R q × σ) (d : Dialogue Q R α)
    (f : α → Dialogue Q R β) (s : σ) :
    (d >>= f).run handle s = (f (d.run handle s).1).run handle (d.run handle s).2 := by
  induction d generalizing s with
  | done a => rfl
  | ask q next ih => exact ih (handle q s).1 (handle q s).2

end Dialogue

end SqlCache
