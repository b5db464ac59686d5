import SqlCache.Proofs.Database.Lock

/-!
Stores that can fail at any point of a transaction. A store that falters shows a database
(`Falters`): beginning, every operation and committing either do what that database does, an
operation at some reading of the clock, or fail; a transaction whose commit has failed is rolled
back. Main result: `Falters.transaction_cases`. Whatever the body and wherever the store fails, a
transaction that fails leaves the database as it was, and one that succeeds has run its whole body.
-/

set_option autoImplicit false

namespace SqlCache

variable {τ α : Type} {b : Backend τ} {view : τ → Database}

/-- A store that shows a database and can fail at any point of a transaction. -/
structure Falters (b : Backend τ) (view : τ → Database) : Prop where
  begin : ∀ t, ((∃ e, (b.begin t).1 = .error e) ∧ view (b.begin t).2 = view t) ∨
    ((∃ c, (b.begin t).1 = .ok c) ∧ (view t).begin = (.ok (), view (b.begin t).2))
  within : ∀ given c op t,
    ((∃ e, (b.within given c op t).1 = .error e) ∧ view (b.within given c op t).2 = view t) ∨
    ∃ now, (view t).applyInside now op =
      ((b.within given c op t).1, view (b.within given c op t).2)
  commit : ∀ c t,
    ((∃ e, (b.commit c t).1 = .error e) ∧ view (b.commit c t).2 = (view t).rollback) ∨
    ((b.commit c t).1 = .ok () ∧ view (b.commit c t).2 = (view t).commit)
  rollback : ∀ c t, view (b.rollback c t) = (view t).rollback

namespace Falters

variable {d : Database} {t : τ} {draft : Draft} {open? : Option Draft}

/-- An operation of a transaction fails and changes nothing, or answers what the draft says and does
to it what it does to any tables. -/
theorem within_cases (falters : Falters b view) (given : Instant) (c : Connection) (op : Operation)
    (hview : view t = { d with draft := some draft }) :
    ((∃ e, (b.within given c op t).1 = .error e) ∧
      view (b.within given c op t).2 = { d with draft := some draft }) ∨
    ∃ now touched, (b.within given c op t).1 = (draft.store.apply now op).1 ∧
      view (b.within given c op t).2 =
        { d with draft := some ⟨(draft.store.apply now op).2, touched⟩ } := by
  rcases falters.within given c op t with ⟨herror, hsame⟩ | ⟨now, happly⟩
  · exact Or.inl ⟨herror, hsame.trans hview⟩
  · rw [hview] at happly
    have hd : ({ d with draft := some draft } : Database).draft = some draft := rfl
    rcases Database.applyInside_cases hd now op with ⟨e, hfails⟩ | ⟨touched, hdone⟩
    · rw [hfails, Prod.mk.injEq] at happly
      exact Or.inl ⟨⟨e, happly.1.symm⟩, happly.2.symm⟩
    · rw [hdone, Prod.mk.injEq] at happly
      exact Or.inr ⟨now, touched, happly.1.symm, happly.2.symm⟩

/-- A program in a transaction changes nothing but the draft. -/
theorem run_draft (falters : Falters b view) (given : Instant) (c : Connection)
    (script : Script α) (hview : view t = { d with draft := some draft }) :
    ∃ draft', view (script.run (b.within given c) t).2 = { d with draft := some draft' } := by
  induction script generalizing t draft with
  | done a => exact ⟨draft, hview⟩
  | ask op next ih =>
      rcases falters.within_cases given c op hview with ⟨-, hsame⟩ | ⟨now, touched, -, hafter⟩
      · exact ih _ hsame
      · exact ih _ hafter

/-- A program that runs apart from the database changes nothing there. -/
theorem run_apart (falters : Falters b view) (given : Instant) (c : Connection)
    (script : Script α) (apart : (view t).Apart) :
    view (script.run (b.within given c) t).2 = view t := by
  induction script generalizing t with
  | done a => rfl
  | ask op next ih =>
      have hsame : view (b.within given c op t).2 = view t := by
        rcases falters.within given c op t with ⟨-, hsame⟩ | ⟨now, happly⟩
        · exact hsame
        · rw [apart.applyInside_eq] at happly
          exact (congrArg Prod.snd happly).symm
      exact (ih _ (hsame ▸ apart)).trans hsame

/-- The end of a transaction whose body has failed, or which cannot be committed, is the database
without its draft. -/
theorem finish_cases (falters : Falters b view) (hidle : d.draft = none) (c : Connection)
    (result : Result α) (hview : view t = { d with draft := open? }) :
    ((∃ e, (b.finish c result t).1 = .error e) ∧ view (b.finish c result t).2 = d) ∨
    ∃ a, result = .ok a ∧ (b.finish c result t).1 = .ok a ∧ view (b.finish c result t).2 =
      { d with committed := (open?.map Draft.store).getD d.committed } := by
  have hback : (view t).rollback = d := by
    rw [hview]
    exact Database.rollback_of_draft_eq_none hidle
  unfold Backend.finish
  cases result with
  | error e =>
      left
      exact ⟨⟨e, rfl⟩, (falters.rollback c t).trans hback⟩
  | ok a =>
      have hcommit := falters.commit c t
      revert hcommit
      rcases b.commit c t with ⟨r, t'⟩
      rintro (⟨⟨e, herror⟩, hafter⟩ | ⟨hok, hafter⟩)
      · cases herror
        exact Or.inl ⟨⟨e, rfl⟩, hafter.trans hback⟩
      · cases hok
        right
        refine ⟨a, rfl, rfl, hafter.trans ?_⟩
        rw [hview]
        exact Database.commit_of_idle hidle open?

/-- A transaction fails and leaves the database as it was. Or it has begun when no other one was
open, its body has run on a draft of the committed tables and succeeded, and this draft is what is
committed now. Or its body has succeeded apart from the database. -/
theorem transaction_cases (falters : Falters b view) (given : Instant) (body : Body α) (t : τ) :
    ((∃ e, (b.transaction given body t).1 = .error e) ∧
      view (b.transaction given body t).2 = view t) ∨
    (∃ a c t₁ draft, (view t).draft = none ∧
      view t₁ = { view t with draft := some ⟨(view t).committed, []⟩ } ∧
      (body.run.run (b.within given c) t₁).1 = .ok a ∧
      view (body.run.run (b.within given c) t₁).2 = { view t with draft := some draft } ∧
      (b.transaction given body t).1 = .ok a ∧
      view (b.transaction given body t).2 = { view t with committed := draft.store }) ∨
    ∃ a c t₁, (view t).Apart ∧ view t₁ = view t ∧
      (body.run.run (b.within given c) t₁).1 = .ok a ∧
      (b.transaction given body t).1 = .ok a ∧ view (b.transaction given body t).2 = view t := by
  have hbegin := falters.begin t
  revert hbegin
  unfold Backend.transaction
  rcases b.begin t with ⟨r, t₁⟩
  rintro (⟨⟨e, herror⟩, hsame⟩ | ⟨⟨c, hok⟩, hbegun⟩)
  · cases herror
    exact Or.inl ⟨⟨e, rfl⟩, hsame⟩
  · cases hok
    rcases Database.of_begin_ok hbegun with ⟨hidle, -, hview⟩ | ⟨apart, hview⟩
    · obtain ⟨draft, hdraft⟩ := falters.run_draft given c body.run hview
      rcases falters.finish_cases hidle c (body.run.run (b.within given c) t₁).1 hdraft with
        hfails | ⟨a, hresult, hdone, hafter⟩
      · exact Or.inl hfails
      · exact Or.inr (Or.inl ⟨a, c, t₁, draft, hidle, hview, hresult, hdraft, hdone, hafter⟩)
    · have hsame : view (body.run.run (b.within given c) t₁).2 = { view t with draft := none } :=
        (falters.run_apart given c body.run (hview ▸ apart)).trans
          (hview.trans apart.rollback_eq.symm)
      rcases falters.finish_cases apart.idle c (body.run.run (b.within given c) t₁).1 hsame with
        hfails | ⟨a, hresult, hdone, hafter⟩
      · exact Or.inl hfails
      · exact Or.inr (Or.inr ⟨a, c, t₁, apart, hview, hresult, hdone, hafter⟩)

end Falters

/-! ## A database, and one with little room -/

namespace Database

theorem backend_begin_cases (d : Database) :
    ((∃ e, (backend.begin d).1 = .error e) ∧ (backend.begin d).2 = d) ∨
    ((∃ c, (backend.begin d).1 = .ok c) ∧ d.begin = (.ok (), (backend.begin d).2)) := by
  show ((∃ e, Except.map (fun _ => (⟨true⟩ : Connection)) d.begin.1 = .error e) ∧
      d.begin.2 = d) ∨ ((∃ c, Except.map (fun _ => (⟨true⟩ : Connection)) d.begin.1 = .ok c) ∧
        d.begin = (.ok (), d.begin.2))
  cases hbegin : d.begin with
  | mk r d' =>
      cases r with
      | error e => exact Or.inl ⟨⟨e, rfl⟩, of_begin_error hbegin⟩
      | ok u => exact Or.inr ⟨⟨_, rfl⟩, rfl⟩

/-- A database fails only where it says so itself. -/
theorem falters_backend : Falters backend id where
  begin := backend_begin_cases
  within given _ _ _ := Or.inr ⟨given, rfl⟩
  commit _ _ := Or.inr ⟨rfl, rfl⟩
  rollback _ _ := rfl

/-- A database with room for a number of writes. -/
def rationed : Backend (Database × Nat) :=
  { backend.through Prod.fst (fun d t => (d, t.2)) with
    within := fun now _ op t =>
      match op.isWrite, t.2 with
      | true, 0 => (.error (.store (.other "database or disk is full")), t)
      | true, room + 1 => ((t.1.applyInside now op).1, (t.1.applyInside now op).2, room)
      | false, room => ((t.1.applyInside now op).1, (t.1.applyInside now op).2, room) }

/-- A database that runs out of room fails at any write. -/
theorem falters_rationed : Falters rationed Prod.fst where
  begin t := backend_begin_cases t.1
  within given c op t := by
    obtain ⟨d, room⟩ := t
    simp only [rationed]
    split
    · exact Or.inl ⟨⟨_, rfl⟩, rfl⟩
    · exact Or.inr ⟨given, rfl⟩
    · exact Or.inr ⟨given, rfl⟩
  commit _ _ := Or.inr ⟨rfl, rfl⟩
  rollback _ _ := rfl

end Database

end SqlCache
