import SqlCache.Proofs.Database.Occasion
import SqlCache.Proofs.Handles.Basic

/-!
What handles keep of the tables. What somebody has brought about in the tables is seen inside of his
transaction at first, by everybody once this is committed, and by nobody if it is rolled back; until
somebody else writes over it, inside of a transaction that may be rolled back in turn (`Standing`).
If every other move keeps the property that was brought about (`Event.Keeps`), whoever sees it reads
tables that have it (`Run.stands`, `Database.Stands.store`).
-/

set_option autoImplicit false

namespace SqlCache

/-- What has become of something that was written. -/
inductive Standing where
  /-- The transaction that wrote it is still open. -/
  | pending
  /-- It is in the committed tables. -/
  | kept
  /-- It is in the committed tables, and the open transaction has written over it. -/
  | shadowed
  /-- It has been rolled back or written over. -/
  | gone
  deriving DecidableEq, Repr

namespace Standing

/-- Who sees what was written: those inside of the open transaction or those outside of it,
everybody or nobody. -/
def Seen (isInside : Bool) : Standing → Prop
  | .pending => isInside = true
  | .kept => True
  | .shadowed => isInside = false
  | .gone => False

/-- The open transaction writes over it. -/
def covered : Standing → Standing
  | .kept | .shadowed => .shadowed
  | .pending | .gone => .gone

/-- The open transaction ends. -/
def ended {α : Type} : Standing → Result α → Standing
  | .pending, .ok _ | .shadowed, .error _ => .kept
  | .pending, .error _ | .shadowed, .ok _ => .gone
  | standing, _ => standing

end Standing

/-- The tables in which something that was written is found have a property. -/
def Database.Stands (P : Store → Prop) : Standing → Database → Prop
  | .pending, d => ∃ draft, d.draft = some draft ∧ P draft.store
  | .kept, d => P d.committed ∧ ∀ {draft}, d.draft = some draft → P draft.store
  | .shadowed, d => P d.committed
  | .gone, _ => True

namespace Database.Stands

variable {P : Store → Prop} {standing : Standing} {d : Database} {draft : Draft}

theorem kept_of_draft_eq_none (hd : d.draft = none) (h : P d.committed) : d.Stands P .kept := by
  refine ⟨h, ?_⟩
  intro draft hopen
  rw [hd] at hopen
  cases hopen

theorem not_pending (hd : d.draft = none) : ¬ d.Stands P .pending := by
  rintro ⟨draft, hopen, -⟩
  rw [hd] at hopen
  cases hopen

/-- The open transaction goes on with another draft, which has the property if the last one had
it. -/
theorem with_draft {draft' : Draft} (h : d.Stands P standing) (hd : d.draft = some draft)
    (hP : P draft.store → P draft'.store) :
    ({ d with draft := some draft' } : Database).Stands P standing := by
  cases standing with
  | pending =>
      obtain ⟨other, hopen, hother⟩ := h
      obtain rfl := Option.some.inj (hopen.symm.trans hd)
      exact ⟨draft', rfl, hP hother⟩
  | kept =>
      refine ⟨h.1, ?_⟩
      rintro other ⟨⟩
      exact hP (h.2 hd)
  | shadowed | gone => exact h

/-- The open transaction goes on with a draft that need not have the property. -/
theorem covered (h : d.Stands P standing) :
    ({ d with draft := some draft } : Database).Stands P standing.covered := by
  cases standing with
  | kept => exact h.1
  | shadowed => exact h
  | pending | gone => trivial

/-- Somebody who sees what was written reads tables that have the property. -/
theorem store {o : Occasion} (h : o.database.Stands P standing)
    (seen : standing.Seen o.isInside) : P o.store := by
  cases hin : o.isInside with
  | false =>
      rw [hin] at seen
      rw [Occasion.store, if_neg (by simp [hin])]
      cases standing with
      | pending => cases seen
      | kept => exact h.1
      | shadowed => exact h
      | gone => exact seen.elim
  | true =>
      rw [hin] at seen
      rw [Occasion.store, if_pos hin]
      cases standing with
      | pending =>
          obtain ⟨draft, hopen, hP⟩ := h
          rw [hopen]
          exact hP
      | kept =>
          cases hd : o.database.draft with
          | none => exact h.1
          | some draft => exact h.2 hd
      | shadowed => cases seen
      | gone => exact seen.elim

end Database.Stands

namespace Handles

variable {τ α : Type} {body : τ → Body α} {s t : Handles τ α} {P : Store → Prop}
  {standing : Standing}

/-- The move, by what it was told, keeps a property of the tables that it works on. -/
def Event.Keeps (P : Store → Prop) : Event τ α → Prop
  | .statement _ (.operate now op) reply | .within _ _ now op reply =>
      ∀ {s : Store}, (s.apply now op).1 = reply → P s → P (s.apply now op).2
  | .statement _ (.log now call) _ => ∀ {s : Store}, P s → P (s.applyLog now call).2
  | .statement _ (.purge call) _ => ∀ {s : Store}, P s → P (s.applyPurge call).2
  | _ => True

/-- What becomes of something that was written, with a move, when some moves write over it. -/
def Event.leaves (overwrites : Event τ α → Bool) (standing : Standing) : Event τ α → Standing
  | .statement h q reply => if overwrites (.statement h q reply) then .gone else standing
  | .within h task now op reply =>
      if overwrites (.within h task now op reply) then standing.covered else standing
  | .finish _ _ result => standing.ended result
  | _ => standing

/-- What is committed stays so until somebody writes over it. -/
theorem foldl_leaves_kept {events : List (Event τ α)} {overwrites : Event τ α → Bool}
    (h : ∀ e ∈ events, overwrites e = false) :
    events.foldl (Event.leaves overwrites) .kept = .kept := by
  induction events with
  | nil => rfl
  | cons e rest ih =>
      rw [List.forall_mem_cons] at h
      have hsame : e.leaves overwrites .kept = .kept := by
        cases e with
        | statement | within => exact if_neg (by simp [h.1])
        | begin | nested => rfl
        | finish handle task result => cases result <;> rfl
      rw [List.foldl_cons, hsame]
      exact ih h.2

theorem Step.draft_of_statement {h : Nat} {q : Statement} {reply : q.Reply}
    (step : Step body s (.statement h q reply) t) (hd : s.database.draft = none) :
    t.database.draft = none := by
  rcases step.statement_spec with rfl | ⟨-, rfl⟩
  · exact hd
  · exact hd

/-- A statement that keeps a property of tables keeps it of the committed ones. -/
theorem Step.committed_of_keeps {h : Nat} {q : Statement} {reply : q.Reply}
    (step : Step body s (.statement h q reply) t)
    (keeps : (Event.statement h q reply : Event τ α).Keeps P) (hP : P s.database.committed) :
    P t.database.committed := by
  cases step with
  | @statement d _ _ _ answers =>
      obtain ⟨store, hstore, hcommitted⟩ := Database.execute_eq_committed s.database q
      cases q with
      | operate now op =>
          rcases s.database.apply_cases now op with ⟨e, hsame⟩ | ⟨-, happlied⟩
          · cases hsame.symm.trans answers
            exact hP
          · cases happlied.symm.trans answers
            exact keeps rfl hP
      | log now call =>
          cases hstore.symm.trans (congrArg Prod.snd answers)
          rcases hcommitted with rfl | rfl
          · exact hP
          · exact keeps hP
      | purge call =>
          cases hstore.symm.trans (congrArg Prod.snd answers)
          rcases hcommitted with rfl | rfl
          · exact hP
          · exact keeps hP

/-- An operation of a body that keeps a property of tables keeps it of the draft. -/
theorem Step.draft_of_keeps {h : Nat} {task : τ} {now : Instant} {op : Operation}
    {reply : op.Reply} (step : Step body s (.within h task now op reply) t)
    (keeps : (Event.within h task now op reply : Event τ α).Keeps P) {draft : Draft}
    (hd : s.database.draft = some draft) :
    ∃ draft', t.database = { s.database with draft := some draft' } ∧
      (P draft.store → P draft'.store) := by
  cases step with
  | @within d _ _ _ _ next _ running answers =>
      rcases Database.applyInside_cases hd now op with ⟨e, hsame⟩ | ⟨touched, happlied⟩
      · cases hsame.symm.trans answers
        refine ⟨draft, ?_, id⟩
        simp [← hd]
      · cases happlied.symm.trans answers
        exact ⟨_, rfl, keeps rfl⟩

/-- What was written is found where it is after a move, if the move keeps the property or writes
over it. -/
theorem Step.stands {e : Event τ α} {overwrites : Event τ α → Bool} (w : OneWriter s)
    (stands : s.database.Stands P standing) (keeps : overwrites e = false → e.Keeps P)
    (step : Step body s e t) : t.database.Stands P (e.leaves overwrites standing) := by
  cases e with
  | statement h q reply =>
      cases hover : overwrites (.statement h q reply) with
      | true =>
          rw [Event.leaves, if_pos hover]
          exact trivial
      | false =>
          rw [Event.leaves, if_neg (by simp [hover])]
          have hcommitted := step.committed_of_keeps (keeps hover)
          -- a statement that does something finds no transaction open, so nothing is pending
          rcases step.statement_spec with hsame | ⟨hd, -⟩
          · rw [hsame]
            exact stands
          · cases standing with
            | pending => exact absurd stands (Database.Stands.not_pending hd)
            | kept =>
                exact .kept_of_draft_eq_none (step.draft_of_statement hd) (hcommitted stands.1)
            | shadowed => exact hcommitted stands
            | gone => exact trivial
  | begin h task result =>
      cases result with
      | error e =>
          rw [step.eq_of_refused]
          exact stands
      | ok u =>
          obtain ⟨hd, hdatabase, -⟩ := step.begun_spec
          rw [hdatabase]
          cases standing with
          | pending => exact absurd stands (Database.Stands.not_pending hd)
          | kept =>
              refine ⟨stands.1, ?_⟩
              rintro draft ⟨⟩
              exact stands.1
          | shadowed => exact stands
          | gone => exact trivial
  | within h task now op reply =>
      obtain ⟨_, draft, draft', _, hd, hdatabase, -⟩ := step.within_spec w
      cases hover : overwrites (.within h task now op reply) with
      | true =>
          rw [Event.leaves, if_pos hover, hdatabase]
          exact stands.covered
      | false =>
          obtain ⟨draft', hdatabase, hP⟩ := step.draft_of_keeps (keeps hover) hd
          rw [Event.leaves, if_neg (by simp [hover]), hdatabase]
          exact stands.with_draft hd hP
  | nested h task result =>
      rw [step.nested_spec.2.1]
      exact stands
  | finish h task result =>
      obtain ⟨hrunning, -, hcommit, hrollback⟩ := step.finish_spec w
      obtain ⟨draft, hd⟩ := w.open_of_running hrunning
      have hidle := step.draft_of_finish w
      cases result with
      | ok a =>
          have hcommitted : t.database.committed = draft.store := by
            rw [hcommit a rfl, Database.commit_committed hd]
          cases standing with
          | pending =>
              obtain ⟨other, hopen, hP⟩ := stands
              obtain rfl := Option.some.inj (hopen.symm.trans hd)
              exact .kept_of_draft_eq_none hidle (hcommitted ▸ hP)
          | kept => exact .kept_of_draft_eq_none hidle (hcommitted ▸ stands.2 hd)
          | shadowed | gone => exact trivial
      | error e =>
          have hcommitted : t.database.committed = s.database.committed := by
            rw [hrollback e rfl, Database.rollback_committed]
          cases standing with
          | pending | gone => exact trivial
          | kept => exact .kept_of_draft_eq_none hidle (hcommitted ▸ stands.1)
          | shadowed => exact .kept_of_draft_eq_none hidle (hcommitted ▸ stands)

/-- If every move keeps a property that was brought about or writes over it, the tables in which it
is found go on to have it. -/
theorem Run.stands {events : List (Event τ α)} {overwrites : Event τ α → Bool}
    (run : Run body s events t) (w : OneWriter s) (stands : s.database.Stands P standing)
    (keeps : ∀ e ∈ events, overwrites e = false → e.Keeps P) :
    t.database.Stands P (events.foldl (Event.leaves overwrites) standing) := by
  induction run generalizing standing with
  | nil => exact stands
  | cons step _ ih =>
      rw [List.forall_mem_cons] at keeps
      exact ih (w.step step) (step.stands w stands keeps.1) keeps.2

end Handles

end SqlCache
