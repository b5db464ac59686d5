import SqlCache.Proofs.Backend.Clock
import SqlCache.Proofs.Database.Occasion

/-!
A transaction that nobody stands in the way of: no other one is open, the connections share the
database, and it can be written to. Its body has the committed tables for itself (`Store.attend`);
what it has made of them is committed if it succeeds, and nothing is changed if it fails
(`ticking_transaction_alone`). Every operation reads the clock anew.

Where connections share nothing, the body is run on a database without tables instead
(`Apart.ticking_transaction_eq`), whatever the committed tables are, and they stay as they are.
-/

set_option autoImplicit false

namespace SqlCache

/-- The answer of tables that nobody else works on to an operation that reads the clock, and what is
left after it: the tables and the readings still to come. -/
def Store.attend (op : Operation) (t : Store × (Nat → Instant)) :
    op.Reply × (Store × (Nat → Instant)) :=
  match op.refusal? with
  | some e => (.error e, t.1, fun n => t.2 (n + 1))
  | none => ((t.1.apply (t.2 0) op).1, (t.1.apply (t.2 0) op).2, fun n => t.2 (n + 1))

theorem Store.attend_of_accepted {op : Operation} (h : op.refusal? = none) (s : Store)
    (clock : Nat → Instant) :
    Store.attend op (s, clock) =
      ((s.apply (clock 0) op).1, (s.apply (clock 0) op).2, fun n => clock (n + 1)) := by
  rw [attend, h]

namespace Database

variable {d : Database} {α : Type}

/-- While nobody writes to it, a database answers what its committed tables say. -/
theorem apply_of_reading {op : Operation} (hidle : d.draft = none) (hrefusal : op.refusal? = none)
    (hread : op.isWrite = false) (now : Instant) :
    d.apply now op = ((d.committed.apply now op).1, d) := by
  have hkept : { d with committed := (d.committed.apply now op).2 } = d := by
    rw [Store.apply_of_isWrite_eq_false hread]
  have hfree : (d.writeFault? op.isWrite <|> d.conflict? op.isWrite op.table?) = none := by
    rw [hread, conflict?, hidle]
    rfl
  unfold apply direct
  rw [hrefusal, hfree]
  exact congrArg (Prod.mk _) hkept

/-- An operation of a transaction on a database that can be written to has the draft for itself. -/
theorem ticking_within_alone (hwritable : d.isReadOnly = false) (given : Instant) (c : Connection)
    (op : Operation) (draft : Draft) (clock : Nat → Instant) :
    ∃ touched, backend.ticking.within given c op ({ d with draft := some draft }, clock) =
      ((Store.attend op (draft.store, clock)).1,
        { d with draft := some ⟨(Store.attend op (draft.store, clock)).2.1, touched⟩ },
        (Store.attend op (draft.store, clock)).2.2) := by
  have htick : backend.ticking.within given c op ({ d with draft := some draft }, clock) =
      ((applyInside { d with draft := some draft } (clock 0) op).1,
        (applyInside { d with draft := some draft } (clock 0) op).2, fun n => clock (n + 1)) := rfl
  rw [htick]
  cases hrefusal : op.refusal? with
  | some e =>
      refine ⟨draft.touched, ?_⟩
      simp [applyInside, Store.attend, hrefusal]
  | none =>
      obtain ⟨touched, happly⟩ := applyInside_of_writable (d := { d with draft := some draft })
        rfl hrefusal hwritable (clock 0)
      refine ⟨touched, ?_⟩
      rw [happly, Store.attend_of_accepted hrefusal]

/-- A program in a transaction on a database that can be written to has the draft for itself. -/
theorem ticking_run_alone (hwritable : d.isReadOnly = false) (given : Instant) (c : Connection)
    (script : Script α) (draft : Draft) (clock : Nat → Instant) :
    ∃ touched,
      script.run (backend.ticking.within given c) ({ d with draft := some draft }, clock) =
        ((script.run Store.attend (draft.store, clock)).1,
          { d with draft := some ⟨(script.run Store.attend (draft.store, clock)).2.1, touched⟩ },
          (script.run Store.attend (draft.store, clock)).2.2) := by
  induction script generalizing draft clock with
  | done a => exact ⟨draft.touched, rfl⟩
  | ask op next ih =>
      obtain ⟨touched, hwithin⟩ := ticking_within_alone hwritable given c op draft clock
      rw [Dialogue.run_ask, Dialogue.run_ask, hwithin]
      exact ih _ ⟨_, touched⟩ _

/-- A transaction that nobody stands in the way of is its body, run on the committed tables, if the
body succeeds, and nothing but some readings of the clock otherwise. -/
theorem ticking_transaction_alone (hidle : d.draft = none) (hshared : d.sharing ≠ .nothing)
    (hwritable : d.isReadOnly = false) (given : Instant) (body : Body α)
    (clock : Nat → Instant) :
    backend.ticking.transaction given body (d, clock) =
      match body.run.run Store.attend (d.committed, clock) with
      | (.ok a, s, later) => (.ok a, { d with committed := s }, later)
      | (.error e, _, later) => (.error e, d, later) := by
  have hbegin : backend.begin d = (.ok ⟨true⟩, { d with draft := some ⟨d.committed, []⟩ }) :=
    backend_begin_eq (begin_of_draft_eq_none hidle hshared)
  rw [Backend.ticking_transaction, hbegin]
  obtain ⟨touched, hrun⟩ :=
    ticking_run_alone hwritable given ⟨true⟩ body.run ⟨d.committed, []⟩ clock
  simp only [hrun, Backend.ticking_finish]
  rcases body.run.run Store.attend (d.committed, clock) with ⟨r, s, later⟩
  cases r with
  | ok a =>
      show (Except.ok a, commit { d with draft := some ⟨s, touched⟩ }, later) = _
      rw [commit_of_draft hidle]
  | error e =>
      have hback : rollback { d with draft := some ⟨s, touched⟩ } = d :=
        rollback_of_draft_eq_none hidle
      show (Except.error e, rollback { d with draft := some ⟨s, touched⟩ }, later) = _
      rw [hback]

/-- The same with a clock that stands still. -/
theorem transaction_alone (hidle : d.draft = none) (hshared : d.sharing ≠ .nothing)
    (hwritable : d.isReadOnly = false) (now : Instant) (body : Body α) :
    backend.transaction now body d =
      match body.run.run Store.attend (d.committed, fun _ => now) with
      | (.ok a, s, _) => (.ok a, { d with committed := s })
      | (.error e, _, _) => (.error e, d) := by
  have hticking : backend.ticking.transaction now body (d, fun _ => now) =
      ((backend.transaction now body d).1, (backend.transaction now body d).2, fun _ => now) :=
    backend.ticking_perform_const now now (.atomic body) d
  have hconst : backend.transaction now body d =
      ((backend.ticking.transaction now body (d, fun _ => now)).1,
        (backend.ticking.transaction now body (d, fun _ => now)).2.1) := by
    rw [hticking]
  rw [hconst, ticking_transaction_alone hidle hshared hwritable]
  rcases body.run.run Store.attend (d.committed, fun _ => now) with ⟨r, s, later⟩
  cases r with
  | ok a => rfl
  | error e => rfl

/-- The answer of a database without tables to an operation that reads the clock, and the readings
still to come. -/
def attendApart (op : Operation) (clock : Nat → Instant) : op.Reply × (Nat → Instant) :=
  (replyApart (clock 0) op, fun n => clock (n + 1))

/-- A program that runs apart from the database finds no tables, and does nothing here. -/
theorem Apart.ticking_run_eq (apart : d.Apart) (given : Instant) (c : Connection)
    (script : Script α) (clock : Nat → Instant) :
    script.run (backend.ticking.within given c) (d, clock) =
      ((script.run attendApart clock).1, d, (script.run attendApart clock).2) := by
  induction script generalizing clock with
  | done a => rfl
  | ask op next ih =>
      have htick : backend.ticking.within given c op (d, clock) =
          (replyApart (clock 0) op, d, fun n => clock (n + 1)) := by
        show ((d.applyInside (clock 0) op).1, (d.applyInside (clock 0) op).2, _) = _
        rw [apart.applyInside_eq]
      rw [Dialogue.run_ask, htick]
      exact ih (replyApart (clock 0) op) fun n => clock (n + 1)

/-- A transaction that runs apart from the database ends as its body does, which finds no tables. -/
theorem Apart.ticking_transaction_eq (apart : d.Apart) (given : Instant) (body : Body α)
    (clock : Nat → Instant) :
    backend.ticking.transaction given body (d, clock) =
      ((body.run.run attendApart clock).1, d, (body.run.run attendApart clock).2) := by
  have hbegin : backend.begin d = (.ok ⟨true⟩, d) := backend_begin_eq apart.begin_eq
  rw [Backend.ticking_transaction, hbegin]
  simp only [apart.ticking_run_eq, Backend.ticking_finish]
  rcases body.run.run attendApart clock with ⟨r, later⟩
  cases r with
  | ok a =>
      show (Except.ok a, d.commit, later) = _
      rw [apart.commit_eq]
  | error e =>
      show (Except.error e, d.rollback, later) = _
      rw [apart.rollback_eq]

end Database

end SqlCache
