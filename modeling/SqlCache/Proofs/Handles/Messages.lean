import SqlCache.Proofs.Handles.Basic
import SqlCache.Proofs.Store.Messages

/-!
Message ids over a run. Whatever the handles do, the committed tables evolve: messages become
visible with ids greater than all that were visible before (`Step.evolves`). A transaction publishes
to its draft, with ids that nobody else can give out while it is open.
-/

set_option autoImplicit false

namespace SqlCache

open Store (Evolves)

/-- No message has an id that has not been given out, and the open transaction has gone on from the
committed tables. -/
structure Database.Numbered (d : Database) : Prop where
  bounded : d.committed.Bounded
  draft : ∀ {draft}, d.draft = some draft → Evolves d.committed draft.store

namespace Database.Numbered

theorem of_draft_eq_none {d : Database} (hd : d.draft = none) (bounded : d.committed.Bounded) :
    Numbered d where
  bounded := bounded
  draft h := by
    rw [hd] at h
    cases h

end Database.Numbered

namespace Handles

variable {τ α : Type} {body : τ → Body α} {s t : Handles τ α}

/-- One move lets the committed tables evolve. -/
theorem Step.evolves {e : Event τ α} (w : OneWriter s) (n : s.database.Numbered)
    (step : Step body s e t) :
    Evolves s.database.committed t.database.committed ∧ t.database.Numbered := by
  cases e with
  | statement h q reply =>
      rcases step.statement_spec with rfl | ⟨hd, rfl⟩
      · exact ⟨.refl _, n⟩
      · have hevolves : Evolves s.database.committed (q.effect s.database.committed) :=
          .effect _ q
        exact ⟨hevolves, .of_draft_eq_none hd (hevolves.bounded n.bounded)⟩
  | begin h task result =>
      cases result with
      | error e =>
          rw [step.eq_of_refused]
          exact ⟨.refl _, n⟩
      | ok u =>
          rw [step.begun_spec.2.1]
          refine ⟨.refl _, n.bounded, ?_⟩
          intro draft hdraft
          cases hdraft
          exact .refl _
  | within h task now op reply =>
      obtain ⟨next, draft, draft', -, hd, rfl, hstore⟩ := step.within_spec w
      have hevolves : Evolves draft.store draft'.store := by
        rcases hstore with hstore | hstore
        · rw [hstore]
          exact .refl _
        · rw [hstore]
          exact .apply _ now op
      refine ⟨.refl _, n.bounded, ?_⟩
      intro other hother
      cases hother
      exact (n.draft hd).trans hevolves
  | nested h task result =>
      rw [step.nested_spec.2.1]
      exact ⟨.refl _, n⟩
  | finish h task result =>
      obtain ⟨hrunning, -, hcommit, hrollback⟩ := step.finish_spec w
      obtain ⟨draft, hd⟩ := w.open_of_running hrunning
      have hidle := step.draft_of_finish w
      cases result with
      | ok a =>
          have hevolves : Evolves s.database.committed t.database.committed := by
            rw [hcommit a rfl, Database.commit_committed hd]
            exact n.draft hd
          exact ⟨hevolves, .of_draft_eq_none hidle (hevolves.bounded n.bounded)⟩
      | error e =>
          have hsame : t.database.committed = s.database.committed := by
            rw [hrollback e rfl]
            rfl
          rw [hsame]
          refine ⟨.refl _, .of_draft_eq_none hidle ?_⟩
          rw [hsame]
          exact n.bounded

/-- A run keeps message ids in order. -/
theorem Run.numbered {events : List (Event τ α)} (w : OneWriter s) (n : s.database.Numbered)
    (run : Run body s events t) : t.database.Numbered := by
  induction run with
  | nil s => exact n
  | cons step _ ih => exact ih (w.step step) (step.evolves w n).2

end Handles

end SqlCache
