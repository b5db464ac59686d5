import Mathlib.Logic.Function.Basic
import SqlCache.Proofs.Database.Lock

/-!
Handles on one database, working at the same time. Any handle can put a statement, or open a
transaction whose body then runs operation by operation; between two operations of a body every
other handle can do something. `Step` is one move of one handle, labelled by what it asked and what
it was told, and `Run` is any sequence of moves in any order.

A transaction is called for by a task, whose body `body` says. Where connections share nothing it
would run apart from the database, so it is no move there. No two handles are ever in a transaction
(`Run.oneWriter`). What a move can do is said once, by one lemma for each kind of move
(`Step.statement_spec` and those that follow it).
-/

set_option autoImplicit false

namespace SqlCache

/-- A database with the handles on it. -/
structure Handles (τ α : Type) where
  database : Database
  /-- The task for which a handle is in a transaction, and what is left of its body. -/
  running : Nat → Option (τ × Script (Result α))

namespace Handles

variable {τ α : Type}

/-- A move of a handle, with what it was told. -/
inductive Event (τ α : Type) where
  | statement (handle : Nat) (q : Statement) (reply : q.Reply)
  /-- The handle asks for the writer's lock. -/
  | begin (handle : Nat) (task : τ) (result : Result Unit)
  /-- The body of the handle's transaction puts its next operation. -/
  | within (handle : Nat) (task : τ) (now : Instant) (op : Operation) (reply : op.Reply)
  /-- The body asks for a transaction of its own. -/
  | nested (handle : Nat) (task : τ) (result : Result α)
  /-- The transaction is committed or rolled back, as the result of its body asks for. -/
  | finish (handle : Nat) (task : τ) (result : Result α)

/-- The readings of the clock that a move is made at. -/
def Event.readings : Event τ α → List Instant
  | .statement _ (.operate now _) _ | .statement _ (.log now _) _ => [now]
  | .statement _ (.purge (.expired now)) _ => [now]
  | .within _ _ now _ _ => [now]
  | _ => []

/-- A database on which no transaction is open. -/
def start (d : Database) : Handles τ α := ⟨d, fun _ => none⟩

/-- One move. -/
inductive Step (body : τ → Body α) : Handles τ α → Event τ α → Handles τ α → Prop where
  | statement {s : Handles τ α} {d : Database} {h : Nat} {q : Statement} {reply : q.Reply}
      (answers : s.database.execute q = (reply, d)) :
      Step body s (.statement h q reply) ⟨d, s.running⟩
  | refused {s : Handles τ α} {d : Database} {h : Nat} {task : τ} {e : CacheError}
      (free : s.running h = none) (answers : s.database.begin = (.error e, d)) :
      Step body s (.begin h task (.error e)) ⟨d, s.running⟩
  | begun {s : Handles τ α} {d : Database} {h : Nat} {task : τ}
      (free : s.running h = none) (shared : s.database.sharing ≠ .nothing)
      (answers : s.database.begin = (.ok (), d)) :
      Step body s (.begin h task (.ok ()))
        ⟨d, Function.update s.running h (some (task, (body task).run))⟩
  | within {s : Handles τ α} {d : Database} {h : Nat} {task : τ} {now : Instant} {op : Operation}
      {next : op.Reply → Script (Result α)} {reply : op.Reply}
      (running : s.running h = some (task, .ask op next))
      (answers : s.database.applyInside now op = (reply, d)) :
      Step body s (.within h task now op reply)
        ⟨d, Function.update s.running h (some (task, next reply))⟩
  | nested {s : Handles τ α} {d : Database} {h : Nat} {task : τ} {script : Script (Result α)}
      {now : Instant} {inner : Body α} {result : Result α}
      (running : s.running h = some (task, script))
      (answers : Database.backend.performWithin now ⟨true⟩ (.atomic inner) s.database =
        (result, d)) :
      Step body s (.nested h task result) ⟨d, s.running⟩
  | finish {s : Handles τ α} {d : Database} {h : Nat} {task : τ} {outcome result : Result α}
      (running : s.running h = some (task, .done outcome))
      (answers : Database.backend.finish ⟨true⟩ outcome s.database = (result, d)) :
      Step body s (.finish h task result) ⟨d, Function.update s.running h none⟩

/-- Moves one after the other. -/
inductive Run (body : τ → Body α) : Handles τ α → List (Event τ α) → Handles τ α → Prop where
  | nil (s : Handles τ α) : Run body s [] s
  | cons {s t u : Handles τ α} {e : Event τ α} {es : List (Event τ α)}
      (step : Step body s e t) (rest : Run body t es u) : Run body s (e :: es) u

namespace Run

variable {body : τ → Body α} {s t u : Handles τ α}

theorem single {e : Event τ α} (step : Step body s e t) : Run body s [e] t :=
  .cons step (.nil t)

theorem append {es fs : List (Event τ α)} (first : Run body s es t) (rest : Run body t fs u) :
    Run body s (es ++ fs) u := by
  induction first with
  | nil s => exact rest
  | cons step _ ih => exact .cons step (ih rest)

theorem uncons {e : Event τ α} {es : List (Event τ α)} (run : Run body s (e :: es) u) :
    ∃ t, Step body s e t ∧ Run body t es u := by
  cases run with
  | cons step rest => exact ⟨_, step, rest⟩

/-- A run can be cut anywhere. -/
theorem split : ∀ (es : List (Event τ α)) {s u : Handles τ α} {fs : List (Event τ α)},
    Run body s (es ++ fs) u → ∃ t, Run body s es t ∧ Run body t fs u := by
  intro es
  induction es with
  | nil =>
      intro s u fs run
      exact ⟨s, .nil s, run⟩
  | cons e es ih =>
      intro s u fs run
      obtain ⟨next, step, rest⟩ := uncons run
      obtain ⟨t, first, last⟩ := ih rest
      exact ⟨t, .cons step first, last⟩

end Run

/-! ## One writer at a time -/

/-- A transaction that runs holds the writer's lock, which is why there is only one. -/
structure OneWriter (s : Handles τ α) : Prop where
  open_of_running : ∀ {h t}, s.running h = some t → ∃ draft, s.database.draft = some draft
  unique : ∀ {h k t u}, s.running h = some t → s.running k = some u → h = k

namespace OneWriter

variable {s : Handles τ α}

theorem start (d : Database) : OneWriter (start d : Handles τ α) where
  open_of_running h := by simp [Handles.start] at h
  unique h := by simp [Handles.start] at h

/-- There is one open transaction at the most. -/
theorem eq_of_running (w : OneWriter s) {h k : Nat} {x y : τ × Script (Result α)}
    (hx : s.running h = some x) (hy : s.running k = some y) : x = y := by
  obtain rfl := w.unique hx hy
  rw [hx] at hy
  exact Option.some.inj hy

/-- Where no transaction is open, no handle runs one. -/
theorem running_eq_none (w : OneWriter s) (hd : s.database.draft = none) :
    s.running = fun _ => none := by
  funext h
  cases hr : s.running h with
  | none => rfl
  | some t =>
      obtain ⟨draft, hsome⟩ := w.open_of_running hr
      rw [hd] at hsome
      cases hsome

theorem eq_start_of_draft_eq_none (w : OneWriter s) (hd : s.database.draft = none) :
    s = Handles.start s.database := by
  rw [Handles.start, ← w.running_eq_none hd]

/-- A change of the database that leaves the transaction open keeps the invariant. -/
theorem of_database (w : OneWriter s) {d : Database}
    (hd : ∀ {draft}, s.database.draft = some draft → ∃ draft', d.draft = some draft') :
    OneWriter (⟨d, s.running⟩ : Handles τ α) where
  open_of_running hr := by
    obtain ⟨draft, hsome⟩ := w.open_of_running hr
    exact hd hsome
  unique := w.unique

/-- The transaction of the handle that runs one goes on with another script. -/
theorem of_update (w : OneWriter s) {d : Database} {h : Nat} {x y : τ × Script (Result α)}
    (hr : s.running h = some x) {draft : Draft} (hd : d.draft = some draft) :
    OneWriter (⟨d, Function.update s.running h (some y)⟩ : Handles τ α) where
  open_of_running _ := ⟨draft, hd⟩
  unique {k l _ _} hk hl := by
    have eq_of_updated : ∀ {i z}, Function.update s.running h (some y) i = some z → h = i := by
      intro i z hi
      by_cases heq : i = h
      · exact heq.symm
      · rw [Function.update_of_ne heq] at hi
        exact w.unique hr hi
    exact (eq_of_updated hk).symm.trans (eq_of_updated hl)

/-- The handle that runs a transaction ends it, and then none runs one. -/
theorem update_none_eq_start (w : OneWriter s) (d : Database) {h : Nat}
    {x : τ × Script (Result α)} (hr : s.running h = some x) :
    (⟨d, Function.update s.running h none⟩ : Handles τ α) = Handles.start d := by
  have hidle : Function.update s.running h none = fun _ => none := by
    funext k
    by_cases heq : k = h
    · rw [heq, Function.update_self]
    · rw [Function.update_of_ne heq]
      cases hk : s.running k with
      | none => rfl
      | some y => exact absurd (w.unique hk hr) heq
  rw [Handles.start, hidle]

end OneWriter

/-! ## What a move does -/

namespace Step

variable {body : τ → Body α} {s t : Handles τ α} {h : Nat} {task : τ}

/-- A statement changes nothing, or is put while no transaction is open and does to the committed
tables what it does to any. -/
theorem statement_spec {q : Statement} {reply : q.Reply}
    (step : Step body s (.statement h q reply) t) :
    t = s ∨ (s.database.draft = none ∧
      t = ⟨{ s.database with committed := q.effect s.database.committed }, s.running⟩) := by
  cases step with
  | @statement d _ _ _ answers =>
      cases hd : s.database.draft with
      | some draft =>
          have hsame := Database.execute_snd_while_open hd q
          rw [answers] at hsame
          subst hsame
          exact Or.inl rfl
      | none =>
          obtain ⟨store, hstore, hcommitted⟩ := Database.execute_eq_committed s.database q
          rw [answers] at hstore
          have hsame : d = { s.database with committed := store } := hstore
          subst hsame
          rcases hcommitted with rfl | rfl
          · exact Or.inl rfl
          · exact Or.inr ⟨rfl, rfl⟩

/-- A transaction that cannot begin leaves everything as it is. -/
theorem eq_of_refused {e : CacheError} (step : Step body s (.begin h task (.error e)) t) :
    t = s := by
  cases step with
  | refused free answers => rw [Database.of_begin_error answers]

/-- On a file a transaction fails to begin only on the lock. -/
theorem locked_of_refused (hfile : s.database.sharing = .file) {e : CacheError}
    (step : Step body s (.begin h task (.error e)) t) : e = .store .locked := by
  cases step with
  | refused free answers => exact Database.eq_locked_of_begin_error hfile answers

/-- A transaction begins while no other one is open, with the committed tables for a draft. -/
theorem begun_spec (step : Step body s (.begin h task (.ok ())) t) :
    s.database.draft = none ∧
      t.database = { s.database with draft := some ⟨s.database.committed, []⟩ } ∧
      t.running = Function.update s.running h (some (task, (body task).run)) := by
  cases step with
  | begun free shared answers =>
      obtain ⟨hd, hdatabase⟩ := Database.of_begin_ok_of_shared shared answers
      exact ⟨hd, hdatabase, rfl⟩

/-- A transaction that has begun has its whole body to do. -/
theorem running_of_begun (step : Step body s (.begin h task (.ok ())) t) :
    t.running h = some (task, (body task).run) := by
  rw [step.begun_spec.2.2]
  exact Function.update_self _ _ _

/-- An operation of a body goes on with the body, and does to the draft what it does to any tables
or nothing. -/
theorem within_spec (w : OneWriter s) {now : Instant} {op : Operation} {reply : op.Reply}
    (step : Step body s (.within h task now op reply) t) :
    ∃ next draft draft', s.running h = some (task, .ask op next) ∧
      s.database.draft = some draft ∧
      t = ⟨{ s.database with draft := some draft' },
        Function.update s.running h (some (task, next reply))⟩ ∧
      (draft'.store = draft.store ∨ draft'.store = (draft.store.apply now op).2) := by
  cases step with
  | @within d _ _ _ _ next _ running answers =>
      obtain ⟨draft, hd⟩ := w.open_of_running running
      obtain ⟨draft', hd', hstore⟩ := Database.applyInside_eq_draft hd now op
      rw [answers] at hd'
      have hdatabase : d = { s.database with draft := some draft' } := hd'
      rw [hdatabase]
      exact ⟨next, draft, draft', running, hd, rfl, hstore⟩

/-- A transaction in a transaction is refused, and leaves everything as it is. -/
theorem nested_spec {result : Result α} (step : Step body s (.nested h task result) t) :
    (∃ x, s.running h = some (task, x)) ∧ t = s ∧
      result = .error (.validation .nestedTransaction) := by
  cases step with
  | nested running answers =>
      cases answers
      exact ⟨⟨_, running⟩, rfl, rfl⟩

/-- A transaction ends with its result; its draft becomes the committed tables, or is dropped. -/
theorem finish_spec (w : OneWriter s) {result : Result α}
    (step : Step body s (.finish h task result) t) :
    s.running h = some (task, .done result) ∧ t = start t.database ∧
      (∀ a, result = .ok a → t.database = s.database.commit) ∧
      ∀ e, result = .error e → t.database = s.database.rollback := by
  cases step with
  | @finish d _ _ outcome _ running answers =>
      have hstart := w.update_none_eq_start d running
      cases outcome with
      | ok a =>
          cases answers
          exact ⟨running, hstart, fun _ _ => rfl, fun e he => absurd he (by simp)⟩
      | error e =>
          cases answers
          exact ⟨running, hstart, fun a ha => absurd ha (by simp), fun _ _ => rfl⟩

/-- When a transaction has ended, none is open. -/
theorem draft_of_finish (w : OneWriter s) {result : Result α}
    (step : Step body s (.finish h task result) t) : t.database.draft = none := by
  obtain ⟨-, -, hcommit, hrollback⟩ := step.finish_spec w
  cases result with
  | ok a =>
      rw [hcommit a rfl]
      rfl
  | error e =>
      rw [hrollback e rfl]
      rfl

/-- A move changes nothing of a database but its tables. -/
theorem only_tables {e : Event τ α} (w : OneWriter s) (step : Step body s e t) :
    t.database =
      { s.database with committed := t.database.committed, draft := t.database.draft } := by
  cases e with
  | statement h q reply =>
      rcases step.statement_spec with rfl | ⟨-, rfl⟩
      · rfl
      · rfl
  | begin h task result =>
      cases result with
      | error e => rw [step.eq_of_refused]
      | ok u => rw [step.begun_spec.2.1]
  | within h task now op reply =>
      obtain ⟨_, _, _, -, -, rfl, -⟩ := step.within_spec w
      rfl
  | nested h task result => rw [step.nested_spec.2.1]
  | finish h task result =>
      obtain ⟨-, -, hcommit, hrollback⟩ := step.finish_spec w
      cases result with
      | ok a =>
          rw [hcommit a rfl]
          rfl
      | error e =>
          rw [hrollback e rfl]
          rfl

/-- Connections share a database the way they did. -/
theorem sharing {e : Event τ α} (w : OneWriter s) (step : Step body s e t) :
    t.database.sharing = s.database.sharing := by
  rw [step.only_tables w]

end Step

theorem OneWriter.step {body : τ → Body α} {s t : Handles τ α} {e : Event τ α} (w : OneWriter s)
    (step : Step body s e t) : OneWriter t := by
  cases e with
  | statement h q reply =>
      rcases step.statement_spec with rfl | ⟨-, rfl⟩
      · exact w
      · exact w.of_database fun {draft} hd => ⟨draft, hd⟩
  | begin h task result =>
      cases result with
      | error e =>
          rw [step.eq_of_refused]
          exact w
      | ok u =>
          obtain ⟨hd, hdatabase, hrunning⟩ := step.begun_spec
          have hidle := w.running_eq_none hd
          have eq_of_running : ∀ {i z}, t.running i = some z → i = h := by
            intro i z hi
            by_contra hne
            rw [hrunning, Function.update_of_ne hne, hidle] at hi
            cases hi
          refine ⟨fun _ => ⟨_, congrArg Database.draft hdatabase⟩, ?_⟩
          intro k l x y hk hl
          exact (eq_of_running hk).trans (eq_of_running hl).symm
  | within h task now op reply =>
      obtain ⟨next, draft, draft', running, -, rfl, -⟩ := step.within_spec w
      exact w.of_update running rfl
  | nested h task result =>
      rw [step.nested_spec.2.1]
      exact w
  | finish h task result =>
      rw [(step.finish_spec w).2.1]
      exact OneWriter.start _

/-- At no time are two handles in a transaction. -/
theorem Run.oneWriter {body : τ → Body α} {s t : Handles τ α} {es : List (Event τ α)}
    (run : Run body s es t) (w : OneWriter s) : OneWriter t := by
  induction run with
  | nil => exact w
  | cons step _ ih => exact ih (w.step step)

/-- A run changes nothing of a database but its tables. -/
theorem Run.only_tables {body : τ → Body α} {s t : Handles τ α} {es : List (Event τ α)}
    (run : Run body s es t) (w : OneWriter s) :
    t.database =
      { s.database with committed := t.database.committed, draft := t.database.draft } := by
  induction run with
  | nil => rfl
  | cons step _ ih =>
      have hstep := step.only_tables w
      have hrest := ih (w.step step)
      rw [hstep] at hrest
      exact hrest

end Handles

end SqlCache
