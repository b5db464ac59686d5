import SqlCache.Proofs.Handles.Basic
import SqlCache.Proofs.Store.Cursors

/-!
Handles and the cursors of subscribers. Operations and purges have nothing to do with cursors, so
handles that leave the message log to subscriptions leave all cursors as they are; and no
transaction ever brings back the cursors of the moment at which it began.
-/

set_option autoImplicit false

namespace SqlCache

/-- The open transaction has left the cursors alone. -/
def Database.SparesCursors (d : Database) : Prop :=
  ∀ draft, d.draft = some draft → draft.store.cursors = d.committed.cursors

theorem Database.SparesCursors.of_draft_eq_none {d : Database} (hd : d.draft = none) :
    d.SparesCursors := by
  intro draft h
  rw [hd] at h
  cases h

namespace Handles

variable {τ α : Type} {body : τ → Body α} {s t : Handles τ α}

/-- The move is no call on the message log; these are left to subscriptions. -/
def Event.SparesLog : Event τ α → Prop
  | .statement _ (.log _ _) _ => False
  | _ => True

/-- Handles that leave the log to subscriptions leave the cursors alone. -/
theorem Step.cursors {e : Event τ α} (w : OneWriter s) (spares : e.SparesLog)
    (c : s.database.SparesCursors) (step : Step body s e t) :
    t.database.committed.cursors = s.database.committed.cursors ∧ t.database.SparesCursors := by
  cases e with
  | statement h q reply =>
      rcases step.statement_spec with rfl | ⟨hd, rfl⟩
      · exact ⟨rfl, c⟩
      · refine ⟨?_, .of_draft_eq_none hd⟩
        cases q with
        | operate now op => exact Store.apply_cursors _ now op
        | log now call => exact spares.elim
        | purge call => exact Store.applyPurge_cursors _ call
  | begin h task result =>
      cases result with
      | error e =>
          rw [step.eq_of_refused]
          exact ⟨rfl, c⟩
      | ok u =>
          rw [step.begun_spec.2.1]
          refine ⟨rfl, ?_⟩
          intro draft hdraft
          cases hdraft
          rfl
  | within h task now op reply =>
      obtain ⟨next, draft, draft', -, hd, rfl, hstore⟩ := step.within_spec w
      refine ⟨rfl, ?_⟩
      intro other hother
      cases hother
      rcases hstore with hstore | hstore
      · rw [hstore]
        exact c draft hd
      · rw [hstore, Store.apply_cursors]
        exact c draft hd
  | nested h task result =>
      rw [step.nested_spec.2.1]
      exact ⟨rfl, c⟩
  | finish h task result =>
      obtain ⟨hrunning, -, hcommit, hrollback⟩ := step.finish_spec w
      obtain ⟨draft, hd⟩ := w.open_of_running hrunning
      refine ⟨?_, .of_draft_eq_none (step.draft_of_finish w)⟩
      cases result with
      | ok a =>
          rw [hcommit a rfl, Database.commit_committed hd]
          exact c draft hd
      | error e => rw [hrollback e rfl, Database.rollback_committed]

end Handles

end SqlCache
