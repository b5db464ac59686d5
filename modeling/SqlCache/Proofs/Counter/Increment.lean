import SqlCache.Proofs.Counter.Stage
import SqlCache.Proofs.Handles.Tables
import SqlCache.Proofs.Store.Dictionary

/-!
What an increment makes of the tables. With the clock held still, an increment that succeeds writes
the row of its key and nothing else: the number in it is replaced, and the expiry that was there is
measured, written back and rounded, and comes out as it was (`Instant.millis_expiry_retained`). An
increment that fails leaves everything as it is.

The main result is `changes_number_only`, which holds in every state that handles bring a database
to: no row in it expires later than `Instant.never`.
-/

set_option autoImplicit false

namespace SqlCache

open Handles (Event Step Run OneWriter)

/-- The database with another row for a scalar key, and everything else as it was. -/
def Database.withRow (d : Database) (key : String) (row : ScalarRow) : Database :=
  { d with committed :=
    { d.committed with scalars := d.committed.scalars.insert key row } }

/-- The database with a transaction that has just begun. -/
def Database.begun (d : Database) : Database :=
  { d with draft := some ⟨d.committed, []⟩ }

/-! ## Rows that expire in time -/

section Reached

variable {τ α : Type} {tasks : τ → Body α} {s : Handles τ α} {events : List (Event τ α)}

/-- Every move leaves timely tables timely. -/
theorem Handles.Event.keeps_timely (e : Event τ α) : e.Keeps Store.Timely := by
  cases e with
  | statement h q reply =>
      cases q with
      | operate now op =>
          intro s _ timely
          exact Store.timely_apply timely op
      | log now call =>
          intro s timely key row hrow
          rw [Store.applyLog_scalars] at hrow
          exact timely key row hrow
      | purge call =>
          intro s timely key row hrow
          cases call with
          | expired now =>
              have hlive : s.live? now.millis key = some row :=
                (Store.purgeExpired_scalars now.millis key).symm.trans hrow
              exact timely key row (Option.filter_eq_some_iff.mp hlive).1
          | messages olderThan => exact timely key row hrow
  | within h task now op reply =>
      intro s _ timely
      exact Store.timely_apply timely op
  | begin | nested | finish => exact trivial

/-- Whatever handles do to a database that is empty at first, its tables are timely. -/
theorem Handles.Run.timely {sharing : Sharing}
    (run : Run tasks (Handles.start (.empty sharing)) events s) :
    s.database.committed.Timely := by
  let overwrites : Event τ α → Bool := fun _ => false
  have hkept : events.foldl (Event.leaves overwrites) .kept = .kept :=
    Handles.foldl_leaves_kept fun _ _ => rfl
  have stands := run.stands (OneWriter.start _)
    (Database.Stands.kept_of_draft_eq_none rfl Store.timely_empty)
    fun e _ (_ : overwrites e = false) => e.keeps_timely
  rw [hkept] at stands
  exact stands.1

end Reached

namespace Counter

open Text.Integer

variable {key : String} {delta : Int} {now : Instant} {d : Database}

/-! ## The transaction of an increment -/

/-- What a transaction comes to that has only read so far, with this left to do while the clock
stands still. -/
def conclude (now : Instant) (d : Database) (script : Script (Result Int)) :
    Result Int × Database :=
  let outcome := script.run (Database.backend.within now ⟨true⟩) d.begun
  Database.backend.finish ⟨true⟩ outcome.1 outcome.2

theorem conclude_read {op : Operation} {next : op.Reply → Script (Result Int)}
    (hop : op.refusal? = none) (hread : op.isWrite = false) :
    conclude now d (.ask op next) = conclude now d (next (d.committed.apply now op).1) := by
  have hanswer : Database.backend.within now ⟨true⟩ op d.begun =
      ((d.committed.apply now op).1, d.begun) :=
    Database.applyInside_of_begun (d := d.begun) rfl hop hread now
  rw [conclude, Dialogue.run_ask, hanswer]
  rfl

theorem conclude_error (hidle : d.draft = none) (e : CacheError) :
    conclude now d (.done (.error e)) = (.error e, d) := by
  have hback : d.begun.rollback = d := Database.rollback_of_draft_eq_none hidle
  show (Except.error e, d.begun.rollback) = _
  rw [hback]

/-- A transaction that ends with the writing of a key has written its row. -/
theorem conclude_set (hidle : d.draft = none) (hwritable : d.isReadOnly = false)
    (value : ByteArray) (ttl : Duration) (next : Int) :
    conclude now d (.ask (.set key value ttl) (ended next)) = (.ok next,
      d.withRow key ⟨value, (now.expiry ttl).millis,
        ((d.committed.scalars[key]?).map ScalarRow.createdAt).getD now.millis, now.millis⟩) := by
  obtain ⟨touched, hset⟩ := Database.applyInside_of_writable (d := d.begun) rfl
    (rfl : (Operation.set key value ttl).refusal? = none) hwritable now
  have hanswer : Database.backend.within now ⟨true⟩ (.set key value ttl) d.begun = (.ok (),
      { d with draft := some ⟨d.committed.set now.millis (now.expiry ttl).millis key value,
        touched⟩ }) := hset
  rw [conclude, Dialogue.run_ask, hanswer]
  exact congrArg (Prod.mk (Except.ok next)) (Database.commit_of_draft hidle ⟨_, touched⟩)

/-- An increment that nothing stands in the way of goes on with what it has found in the committed
tables. -/
theorem perform_increment (hidle : d.draft = none) (hshared : d.sharing ≠ .nothing) :
    Database.backend.perform now (increment key delta) d =
      conclude now d (found key delta (d.committed.apply now (.getBytes key)).1) := by
  have hbody : conclude now d (body key delta).run =
      conclude now d (found key delta (d.committed.apply now (.getBytes key)).1) := by
    rw [body_run, conclude_read rfl rfl]
    exact conclude_read rfl rfl
  rw [← hbody]
  show Database.backend.transaction now (body key delta) d = _
  exact Database.transaction_of_begin_ok (Database.begin_of_draft_eq_none hidle hshared)

/-- An increment of a key that is not live stores the delta, which never expires. -/
theorem perform_of_absent (hidle : d.draft = none) (hshared : d.sharing ≠ .nothing)
    (hwritable : d.isReadOnly = false) (hdelta : fits delta = true)
    (habsent : d.committed.live? now.millis key = none) :
    Database.backend.perform now (increment key delta) d = (.ok delta,
      d.withRow key ⟨(encode delta).toUTF8, Instant.never.millis,
        ((d.committed.scalars[key]?).map ScalarRow.createdAt).getD now.millis, now.millis⟩) := by
  have hbytes : (d.committed.apply now (.getBytes key)).1 = .error .notFound := by
    simp only [Store.apply, habsent]
  have hsum : 0 + delta = delta := Int.zero_add delta
  rw [perform_increment hidle hshared, hbytes, found, adding, hsum, if_pos hdelta,
    conclude_set hidle hwritable]
  rfl

/-- An increment of a live key that holds a number ends with the sum, or fails because the sum does
not fit. -/
theorem perform_of_value (hidle : d.draft = none) (hshared : d.sharing ≠ .nothing)
    {row : ScalarRow} {value : Int} (hlive : d.committed.live? now.millis key = some row)
    (hvalue : valueOf? (some row) = some value) :
    Database.backend.perform now (increment key delta) d =
      conclude now d (adding key delta value (now.remaining (.ofMillis row.expireAt))) := by
  have hbytes : (d.committed.apply now (.getBytes key)).1 = .ok row.value := by
    simp only [Store.apply, hlive]
  have httl : (d.committed.apply now (.ttl key)).1 =
      .ok (now.remaining (.ofMillis row.expireAt)) := by
    simp only [Store.apply, hlive]
  have hcount : countOf? (.ok row.value) = some value := hvalue
  have hfound : found key delta (.ok row.value) = .ask (.ttl key) (measured key delta value) := by
    rcases found_cases key delta (.ok row.value) with ⟨habsent, -⟩ |
      ⟨bytes, other, -, hother, hfound⟩ | ⟨e, -, herror, -⟩ | ⟨hnone, -⟩
    · cases habsent
    · rw [hcount] at hother
      cases hother
      exact hfound
    · cases herror
    · rw [hcount] at hnone
      cases hnone
  rw [perform_increment hidle hshared, hbytes, hfound, conclude_read rfl rfl, httl]
  rfl

/-- An increment of a live key that holds no number fails. -/
theorem perform_of_no_value (hidle : d.draft = none) (hshared : d.sharing ≠ .nothing)
    {row : ScalarRow} (hlive : d.committed.live? now.millis key = some row)
    (hvalue : valueOf? (some row) = none) :
    ∃ fault, Database.backend.perform now (increment key delta) d =
      (.error (.validation fault), d) := by
  have hbytes : (d.committed.apply now (.getBytes key)).1 = .ok row.value := by
    simp only [Store.apply, hlive]
  have hcount : countOf? (.ok row.value) = none := hvalue
  rcases found_cases key delta (.ok row.value) with ⟨habsent, -⟩ | ⟨bytes, other, -, hother, -⟩ |
    ⟨e, -, herror, -⟩ | ⟨-, fault, hfound⟩
  · cases habsent
  · rw [hcount] at hother
    cases hother
  · cases herror
  · refine ⟨fault, ?_⟩
    rw [perform_increment hidle hshared, hbytes, hfound, conclude_error hidle]

/-- In every state that handles bring an empty database to (one that connections share, so that
transactions find its tables), an increment that no other transaction stands in the way of changes
the number that a live key holds and nothing else, or stores its delta, never to expire, under a key
that is not live, or is refused and leaves everything as it is. -/
theorem changes_number_only {τ α : Type} {tasks : τ → Body α} {events : List (Event τ α)}
    {s : Handles τ α} {sharing : Sharing} (hshared : sharing ≠ .nothing)
    (run : Run tasks (Handles.start (.empty sharing)) events s)
    (hidle : s.database.draft = none) (hnow : now.isRepresentable = true)
    (hdelta : fits delta = true) (key : String) :
    let d := s.database
    let outcome := Database.backend.perform now (increment key delta) d
    (∀ row value, d.committed.live? now.millis key = some row →
      valueOf? (some row) = some value → fits (value + delta) = true →
      outcome = (.ok (value + delta),
        d.withRow key { row with
          value := (encode (value + delta)).toUTF8
          updatedAt := now.millis })) ∧
    (d.committed.live? now.millis key = none → outcome = (.ok delta,
      d.withRow key ⟨(encode delta).toUTF8, Instant.never.millis,
        ((d.committed.scalars[key]?).map ScalarRow.createdAt).getD now.millis, now.millis⟩)) ∧
    (∀ row, d.committed.live? now.millis key = some row →
      (∀ value, valueOf? (some row) = some value → fits (value + delta) = false) →
      ∃ fault, outcome = (.error (.validation fault), d)) := by
  intro d outcome
  have htables := run.only_tables (OneWriter.start _)
  have hshared' : d.sharing ≠ .nothing := by
    rw [show d = s.database from rfl, htables]
    exact hshared
  have hwritable : d.isReadOnly = false := by
    rw [show d = s.database from rfl, htables]
    rfl
  refine ⟨?_, ?_, ?_⟩
  · intro row value hlive hvalue hfits
    have hstored := Option.filter_eq_some_iff.mp hlive
    have hahead : now.millis < row.expireAt := of_decide_eq_true hstored.2
    -- what was left of the expiry has been written back, and comes to the same millisecond
    have hexpiry := Instant.millis_expiry_retained hnow hahead (run.timely key row hstored.1)
    show Database.backend.perform now (increment key delta) d = _
    rw [perform_of_value hidle hshared' hlive hvalue, adding, if_pos hfits,
      conclude_set hidle hwritable, hexpiry, hstored.1]
    rfl
  · intro habsent
    exact perform_of_absent hidle hshared' hwritable hdelta habsent
  · intro row hlive hout
    cases hvalue : valueOf? (some row) with
    | none => exact perform_of_no_value hidle hshared' hlive hvalue
    | some value =>
        refine ⟨.overflow key, ?_⟩
        show Database.backend.perform now (increment key delta) d = _
        rw [perform_of_value hidle hshared' hlive hvalue, adding,
          if_neg (by simp [hout value hvalue]), conclude_error hidle]

/-- A counter is written to live into its third millisecond, and counted on with the last nanosecond
before that: it has the same deadline again, and not a millisecond more. -/
theorem changes_number_only_lastNanosecond : ∃ final,
    Run (fun _ : Unit => (pure () : Body Unit)) (Handles.start (.empty .file))
      [.statement 0 (.operate ⟨1500000⟩ (.set "n" "41".toUTF8 ⟨1500000⟩)) (.ok ())] final ∧
    Database.backend.perform ⟨2999999⟩ (increment "n" 1) final.database =
      (.ok 42, final.database.withRow "n" ⟨"42".toUTF8, 3, 1, 2⟩) := by
  let d₀ : Database := .empty .file
  let d₁ := (d₀.execute (.operate ⟨1500000⟩ (.set "n" "41".toUTF8 ⟨1500000⟩))).2
  have run : Run (fun _ : Unit => (pure () : Body Unit)) (Handles.start d₀)
      [.statement 0 (.operate ⟨1500000⟩ (.set "n" "41".toUTF8 ⟨1500000⟩)) (.ok ())]
      (Handles.start d₁) := .single (.statement rfl)
  have hlive : d₁.committed.live? 2 "n" = some ⟨"41".toUTF8, 3, 1, 1⟩ := rfl
  have hvalue : valueOf? (some ⟨"41".toUTF8, 3, 1, 1⟩) = some 41 := by decide +kernel
  have htext : (encode 42).toUTF8 = "42".toUTF8 := by decide +kernel
  have hnow : (⟨2999999⟩ : Instant).isRepresentable = true := by decide
  obtain ⟨hcounts, -, -⟩ := changes_number_only (by decide) run rfl hnow
    (by decide : fits 1 = true) "n"
  refine ⟨Handles.start d₁, run, ?_⟩
  rw [← htext]
  exact hcounts _ 41 hlive hvalue (by decide)

end Counter

end SqlCache
