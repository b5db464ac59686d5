import SqlCache.Dialogue
import SqlCache.Error

/-!
What is said in a run of a dialogue: its questions with their answers, in order (`transcript`). A
dialogue that stops at a failure of the store asks nothing after it and fails with it (`Stops`), so
that the question which was answered by the failure is the last one of the transcript
(`Stops.eq_nil_of_failure`).
-/

set_option autoImplicit false

namespace SqlCache.Dialogue

/-- The questions of a run with their answers, in order. -/
def transcript {Q : Type} {R : Q → Type} {α σ : Type} (handle : (q : Q) → σ → R q × σ) :
    Dialogue Q R α → σ → List ((q : Q) × R q)
  | done _, _ => []
  | ask q next, s => ⟨q, (handle q s).1⟩ :: (next (handle q s).1).transcript handle (handle q s).2

theorem run_map {Q : Type} {R : Q → Type} {α β σ : Type} (handle : (q : Q) → σ → R q × σ)
    (f : α → β) (d : Dialogue Q R α) (s : σ) :
    (f <$> d).run handle s = (f (d.run handle s).1, (d.run handle s).2) :=
  run_bind handle d (fun a => pure (f a)) s

/-- A program after another runs from where the first one ends, unless this fails. -/
theorem run_program_bind {Q : Type} {R : Q → Type} {ε α β σ : Type}
    (handle : (q : Q) → σ → R q × σ) (x : ExceptT ε (Dialogue Q R) α)
    (f : α → ExceptT ε (Dialogue Q R) β) (s : σ) :
    (x >>= f).run.run handle s =
      match x.run.run handle s with
      | (.ok a, s') => (f a).run.run handle s'
      | (.error e, s') => (.error e, s') := by
  rw [ExceptT.run_bind, run_bind]
  rcases x.run.run handle s with ⟨r, s'⟩
  cases r with
  | ok a => rfl
  | error e => rfl

section Stops

variable {Q : Type} {A : Q → Type} {α β : Type}

/-- Does the dialogue end with the failure of the store that one of its questions is answered by? -/
inductive Stops : Dialogue Q (fun q => Result (A q)) (Result α) → Prop where
  | done (result : Result α) : Stops (.done result)
  | ask {q : Q} {next : Result (A q) → Dialogue Q (fun q => Result (A q)) (Result α)}
      (failed : ∀ fault, next (.error (.store fault)) = .done (.error (.store fault)))
      (goesOn : ∀ answer, Stops (next answer)) : Stops (.ask q next)

namespace Stops

/-- One question. -/
theorem question (q : Q) :
    Stops (Dialogue.question q : Dialogue Q (fun q => Result (A q)) (Result (A q))) :=
  .ask (fun _ => rfl) fun answer => .done answer

/-- One dialogue after another, which fails as the first one does. -/
theorem andThen {d : Dialogue Q (fun q => Result (A q)) (Result α)}
    {next : Result α → Dialogue Q (fun q => Result (A q)) (Result β)} (h : Stops d)
    (hnext : ∀ result, Stops (next result))
    (hfault : ∀ fault, next (.error (.store fault)) = .done (.error (.store fault))) :
    Stops (d >>= next) := by
  induction h with
  | done result => exact hnext result
  | ask failed goesOn ih =>
      refine .ask (fun fault => ?_) ih
      rw [failed fault]
      exact hfault fault

/-- A program after another, which runs only if the first one succeeds. -/
theorem bind {x : ExceptT CacheError (Dialogue Q fun q => Result (A q)) α}
    {f : α → ExceptT CacheError (Dialogue Q fun q => Result (A q)) β} (h : Stops x.run)
    (hf : ∀ a, Stops (f a).run) : Stops (x >>= f).run := by
  refine h.andThen (fun result => ?_) fun fault => rfl
  cases result with
  | ok a => exact hf a
  | error e => exact .done (.error e)

/-- After a failure of the store nothing is asked. -/
theorem eq_nil_of_failure {σ : Type} {handle : (q : Q) → σ → Result (A q) × σ}
    {d : Dialogue Q (fun q => Result (A q)) (Result α)} (h : Stops d) {s : σ}
    {before later : List ((q : Q) × Result (A q))} {q : Q} {fault : StoreFault}
    (hsaid : d.transcript handle s = before ++ ⟨q, .error (.store fault)⟩ :: later) :
    later = [] := by
  induction h generalizing s before with
  | done result => simp [transcript] at hsaid
  | @ask first next failed goesOn ih =>
      rw [transcript] at hsaid
      cases before with
      | nil =>
          obtain ⟨hfirst, hlater⟩ := List.cons.inj hsaid
          obtain ⟨rfl, hanswer⟩ := Sigma.mk.inj hfirst
          rw [eq_of_heq hanswer, failed fault] at hlater
          exact hlater.symm
      | cons said before => exact ih _ (List.cons.inj hsaid).2

end Stops

end Stops

end SqlCache.Dialogue
