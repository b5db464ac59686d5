import SqlCache.Proofs.Database.Occasion
import SqlCache.Proofs.Handles.Basic

/-!
The tables as the sum of what was done to them. The history of a run holds the statements that have
changed something, first those that are committed and then those of the open transaction; a rollback
takes its statements out again (`Handles.history`). Carried out one after the other on the tables
that were there at the start, they give the tables that everybody sees (`Handles.Run.replays`).
-/

set_option autoImplicit false

namespace SqlCache

namespace Statement

/-- Does a statement write? -/
def isWrite : Statement → Bool
  | operate _ op => op.isWrite
  | log _ call => call.isWrite
  | purge _ => true

/-- The reading of the clock that a statement is made at. -/
def reading? : Statement → Option Instant
  | operate now _ | log now _ | purge (.expired now) => some now
  | purge (.messages _) => none

/-- What a statement adds to a history, by what it was told. -/
def entry (q : Statement) : q.Reply → List Statement
  | .ok _ => if q.isWrite then [q] else []
  | .error _ => []

variable {q : Statement}

theorem entry_of_isWrite (h : q.isWrite = true) (a : q.Answer) : q.entry (.ok a) = [q] := if_pos h

theorem entry_of_isWrite_eq_false (h : q.isWrite = false) (reply : q.Reply) :
    q.entry reply = [] := by
  cases reply with
  | ok a => exact if_neg (by simp [h])
  | error e => rfl

/-- What a history is given was done at the reading of the statement. -/
theorem readings_entry (q : Statement) (reply : q.Reply) :
    ((q.entry reply).filterMap reading?).Sublist q.reading?.toList := by
  cases reply with
  | error e => exact List.nil_sublist _
  | ok a =>
      cases hwrite : q.isWrite with
      | false =>
          rw [entry_of_isWrite_eq_false hwrite]
          exact List.nil_sublist _
      | true =>
          rw [entry_of_isWrite hwrite]
          cases hreading : q.reading? <;> simp [hreading]

end Statement

/-- What statements make of tables, one after the other. -/
def Store.replay (s : Store) (statements : List Statement) : Store :=
  statements.foldl (fun s q => q.effect s) s

theorem Store.replay_append (s : Store) (first rest : List Statement) :
    s.replay (first ++ rest) = (s.replay first).replay rest :=
  List.foldl_append

/-! ## What a statement adds -/

/-- An operation that writes does not fail once it works on its tables. -/
theorem Store.apply_eq_ok {op : Operation} (hwrite : op.isWrite = true) (s : Store)
    (now : Instant) : ∃ answer, (s.apply now op).1 = .ok answer := by
  cases op with
  | set | delete | setField | deleteField | setNx | expire | publish => exact ⟨_, rfl⟩
  | getBytes | count | getField | getFields | scan | ttl | lock => cases hwrite

namespace Database

/-- Work on the committed tables fails and changes nothing, or only reads, or is done while no
transaction is open. -/
theorem direct_cases {α : Type} (d : Database) {writes : Bool} (table : Option Store.Table)
    {work : Store → Result α × Store} (hread : writes = false → ∀ s, (work s).2 = s)
    (hwrite : writes = true → ∀ s, ∃ a, (work s).1 = .ok a) :
    ((∃ e, (d.direct writes table work).1 = .error e) ∧ (d.direct writes table work).2 = d) ∨
    (writes = false ∧ (d.direct writes table work).2 = d) ∨
    (writes = true ∧ d.draft = none ∧ (∃ a, (d.direct writes table work).1 = .ok a) ∧
      (d.direct writes table work).2 = { d with committed := (work d.committed).2 }) := by
  cases writes with
  | false =>
      refine Or.inr (Or.inl ⟨rfl, ?_⟩)
      unfold direct
      split
      · rfl
      · show { d with committed := (work d.committed).2 } = d
        rw [hread rfl]
  | true =>
      unfold direct
      cases hfault : d.writeFault? true <|> d.conflict? true table with
      | some fault => exact Or.inl ⟨⟨_, rfl⟩, rfl⟩
      | none =>
          exact Or.inr (Or.inr ⟨rfl, draft_eq_none_of_no_fault hfault, hwrite rfl d.committed, rfl⟩)

/-- A statement fails and changes nothing, or only reads, or is carried out on the committed tables
while no transaction is open. -/
theorem execute_cases (d : Database) (q : Statement) :
    ((∃ e, (d.execute q).1 = .error e) ∧ (d.execute q).2 = d) ∨
    (q.isWrite = false ∧ (d.execute q).2 = d) ∨
    (q.isWrite = true ∧ d.draft = none ∧ (∃ a, (d.execute q).1 = .ok a) ∧
      (d.execute q).2 = { d with committed := q.effect d.committed }) := by
  cases q with
  | operate now op =>
      simp only [execute, apply]
      cases op.refusal? with
      | some e => exact Or.inl ⟨⟨e, rfl⟩, rfl⟩
      | none =>
          exact d.direct_cases op.table? (fun hread _ => Store.apply_of_isWrite_eq_false hread)
            fun hwrite s => s.apply_eq_ok hwrite now
  | log now call =>
      refine d.direct_cases (some call.table)
        (fun hread _ => Store.applyLog_of_isWrite_eq_false hread) fun _ s => ?_
      cases call <;> exact ⟨_, rfl⟩
  | purge call =>
      refine d.direct_cases (some call.table) (fun hread => by cases hread) fun _ s => ?_
      cases call <;> exact ⟨_, rfl⟩

/-- A statement does to the committed tables what it adds to a history; one that adds something is
put while no transaction is open. -/
theorem execute_entry {d d' : Database} {q : Statement} {reply : q.Reply}
    (answers : d.execute q = (reply, d')) :
    d' = { d with committed := d.committed.replay (q.entry reply) } ∧
      (q.entry reply ≠ [] → d.draft = none) := by
  have hcases := d.execute_cases q
  rw [answers] at hcases
  rcases hcases with ⟨⟨e, rfl⟩, rfl⟩ | ⟨hread, rfl⟩ | ⟨hwrite, hidle, ⟨a, rfl⟩, rfl⟩
  · exact ⟨rfl, fun hne => absurd rfl hne⟩
  · rw [Statement.entry_of_isWrite_eq_false hread]
    exact ⟨rfl, fun hne => absurd rfl hne⟩
  · rw [Statement.entry_of_isWrite hwrite]
    exact ⟨rfl, fun _ => hidle⟩

/-- An operation of a transaction does to the draft what it adds to a history. -/
theorem applyInside_entry {d d' : Database} {draft : Draft} (hd : d.draft = some draft)
    {now : Instant} {op : Operation} {reply : op.Reply}
    (answers : d.applyInside now op = (reply, d')) :
    ∃ draft', d' = { d with draft := some draft' } ∧
      draft'.store = draft.store.replay (Statement.entry (.operate now op) reply) := by
  rcases applyInside_cases hd now op with ⟨e, hfails⟩ | ⟨touched, hworks⟩
  · cases hfails.symm.trans answers
    exact ⟨draft, by rw [← hd], rfl⟩
  · cases hworks.symm.trans answers
    refine ⟨_, rfl, ?_⟩
    cases hwrite : op.isWrite with
    | false =>
        rw [Statement.entry_of_isWrite_eq_false (q := .operate now op) hwrite]
        exact Store.apply_of_isWrite_eq_false hwrite
    | true =>
        obtain ⟨a, ha⟩ := draft.store.apply_eq_ok hwrite now
        rw [ha, Statement.entry_of_isWrite (q := .operate now op) hwrite]
        rfl

end Database

namespace Handles

variable {τ α : Type}

/-- The statements that have changed something, each list in their order. -/
structure History where
  /-- Outside of transactions, or in one that has been committed. -/
  kept : List Statement
  /-- In the transaction that is open. -/
  pending : List Statement

namespace History

/-- The history after a move. -/
def after (history : History) : Event τ α → History
  | .statement _ q reply => { history with kept := history.kept ++ q.entry reply }
  | .within _ _ now op reply =>
    { history with pending := history.pending ++ Statement.entry (.operate now op) reply }
  | .finish _ _ (.ok _) => ⟨history.kept ++ history.pending, []⟩
  | .finish _ _ (.error _) => ⟨history.kept, []⟩
  | _ => history

/-- The part of the history that shows inside of the open transaction, or outside of it. -/
def seen (history : History) (isInside : Bool) : List Statement :=
  if isInside then history.kept ++ history.pending else history.kept

end History

/-- The history of moves. -/
def history (events : List (Event τ α)) : History := events.foldl History.after ⟨[], []⟩

/-- The tables are what a history makes of those at the start. `past` are the readings of the clock
so far. -/
structure Replays (base : Store) (past : List Instant) (history : History) (s : Handles τ α) :
    Prop where
  oneWriter : OneWriter s
  committed : s.database.committed = base.replay history.kept
  draft : ∀ draft, s.database.draft = some draft →
    draft.store = base.replay (history.kept ++ history.pending)
  idle : s.database.draft = none → history.pending = []
  readings : ((history.kept ++ history.pending).filterMap Statement.reading?).Sublist past

namespace Replays

variable {body : τ → Body α} {base : Store} {past : List Instant} {history : History}
  {s t : Handles τ α}

/-- A run starts without a history. -/
theorem start {d : Database} (hidle : d.draft = none) :
    Replays d.committed [] ⟨[], []⟩ (Handles.start d : Handles τ α) where
  oneWriter := OneWriter.start d
  committed := rfl
  draft draft hd := absurd (hidle.symm.trans hd) (by simp)
  idle _ := rfl
  readings := List.Sublist.refl _

/-- Whoever looks sees what his part of the history makes of the tables. -/
theorem store (replays : Replays base past history s) (now : Instant) (isInside : Bool) :
    (⟨s.database, now, isInside⟩ : Occasion).store = base.replay (history.seen isInside) := by
  cases isInside with
  | false => exact replays.committed
  | true =>
      show (s.database.draft.map Draft.store).getD s.database.committed = _
      cases hd : s.database.draft with
      | none =>
          rw [History.seen, if_pos rfl, replays.idle hd, List.append_nil]
          exact replays.committed
      | some draft => exact replays.draft draft hd

theorem readings_seen (replays : Replays base past history s) (isInside : Bool) :
    ((history.seen isInside).filterMap Statement.reading?).Sublist past := by
  refine List.Sublist.trans (List.Sublist.filterMap _ ?_) replays.readings
  cases isInside with
  | false => exact List.sublist_append_left _ _
  | true => exact List.Sublist.refl _

/-- The readings of what is appended come after those that there were. -/
theorem readings_append (replays : Replays base past history s) {added : List Statement}
    {later : List Instant} (hadded : (added.filterMap Statement.reading?).Sublist later) :
    (((history.kept ++ history.pending) ++ added).filterMap Statement.reading?).Sublist
      (past ++ later) := by
  rw [List.filterMap_append]
  exact replays.readings.append hadded

/-- The clock goes on while the tables stay as they are. -/
theorem later (replays : Replays base past history s) (readings : List Instant) :
    Replays base (past ++ readings) history s where
  oneWriter := replays.oneWriter
  committed := replays.committed
  draft := replays.draft
  idle := replays.idle
  readings := replays.readings.trans (List.sublist_append_left _ _)

theorem statement {h : Nat} {q : Statement} {reply : q.Reply}
    (replays : Replays base past history s) (step : Step body s (.statement h q reply) t) :
    Replays base (past ++ q.reading?.toList) (history.after (.statement h q reply : Event τ α))
      t := by
  have w' := replays.oneWriter.step step
  cases step with
  | statement answers =>
      obtain ⟨rfl, hidle⟩ := Database.execute_entry answers
      by_cases hentry : q.entry reply = []
      · have same := replays.later q.reading?.toList
        simp only [History.after, hentry, List.append_nil]
        exact ⟨same.oneWriter, same.committed, same.draft, same.idle, same.readings⟩
      · have hpending := replays.idle (hidle hentry)
        refine ⟨w', ?_, ?_, fun _ => hpending, ?_⟩
        · rw [History.after, Store.replay_append, ← replays.committed]
        · intro draft hd
          exact absurd ((hidle hentry).symm.trans hd) (by simp)
        · have happended := replays.readings_append (q.readings_entry reply)
          rw [hpending, List.append_nil] at happended
          rw [History.after, hpending, List.append_nil]
          exact happended

theorem begun {h : Nat} {task : τ} (replays : Replays base past history s)
    (step : Step body s (.begin h task (.ok ())) t) : Replays base past history t := by
  obtain ⟨hidle, hdatabase, -⟩ := step.begun_spec
  refine ⟨replays.oneWriter.step step, ?_, ?_, fun _ => replays.idle hidle, replays.readings⟩
  · rw [hdatabase]
    exact replays.committed
  · intro draft hd
    rw [hdatabase] at hd
    obtain rfl := Option.some.inj hd
    rw [replays.idle hidle, List.append_nil]
    exact replays.committed

theorem within {h : Nat} {task : τ} {now : Instant} {op : Operation} {reply : op.Reply}
    (replays : Replays base past history s) (step : Step body s (.within h task now op reply) t) :
    Replays base (past ++ [now]) (history.after (.within h task now op reply : Event τ α)) t := by
  have w' := replays.oneWriter.step step
  cases step with
  | @within _ _ _ _ _ next _ running answers =>
      obtain ⟨draft, hd⟩ := replays.oneWriter.open_of_running running
      obtain ⟨draft', rfl, hstore⟩ := Database.applyInside_entry hd answers
      refine ⟨w', replays.committed, ?_, fun hidle => (by cases hidle), ?_⟩
      · intro other hother
        obtain rfl := Option.some.inj hother
        rw [hstore, replays.draft draft hd, ← Store.replay_append, List.append_assoc]
        rfl
      · rw [History.after, ← List.append_assoc]
        exact replays.readings_append (Statement.readings_entry (.operate now op) reply)

theorem finish {h : Nat} {task : τ} {result : Result α} (replays : Replays base past history s)
    (step : Step body s (.finish h task result) t) :
    Replays base past (history.after (.finish h task result : Event τ α)) t := by
  have w' := replays.oneWriter.step step
  have hidle := step.draft_of_finish replays.oneWriter
  obtain ⟨running, -, hcommit, hrollback⟩ := step.finish_spec replays.oneWriter
  obtain ⟨draft, hd⟩ := replays.oneWriter.open_of_running running
  cases result with
  | ok a =>
      refine ⟨w', ?_, fun _ hopen => absurd (hidle.symm.trans hopen) (by simp), fun _ => rfl, ?_⟩
      · rw [hcommit a rfl, Database.commit_committed hd]
        exact replays.draft draft hd
      · rw [History.after, List.append_nil]
        exact replays.readings
  | error e =>
      refine ⟨w', ?_, fun _ hopen => absurd (hidle.symm.trans hopen) (by simp), fun _ => rfl, ?_⟩
      · rw [hrollback e rfl]
        exact replays.committed
      · rw [History.after, List.append_nil]
        exact ((List.sublist_append_left _ _).filterMap _).trans replays.readings

/-- What one move keeps. -/
theorem step {e : Event τ α} (replays : Replays base past history s) (step : Step body s e t) :
    Replays base (past ++ e.readings) (history.after e) t := by
  cases e with
  | statement h q reply =>
      have hreadings : (Event.statement h q reply : Event τ α).readings = q.reading?.toList := by
        rcases q with _ | _ | ⟨_ | _⟩ <;> rfl
      rw [hreadings]
      exact replays.statement step
  | begin h task result =>
      cases result with
      | error e =>
          rw [step.eq_of_refused]
          exact replays.later _
      | ok u => exact (replays.begun step).later _
  | within h task now op reply => exact replays.within step
  | nested h task result =>
      rw [step.nested_spec.2.1]
      exact replays.later _
  | finish h task result => exact (replays.finish step).later _

/-- What moves keep. -/
theorem run {events : List (Event τ α)} (replays : Replays base past history s)
    (run : Run body s events t) :
    Replays base (past ++ events.flatMap Event.readings) (events.foldl History.after history)
      t := by
  induction run generalizing past history with
  | nil s => simpa using replays
  | cons first rest ih =>
      rw [List.flatMap_cons, ← List.append_assoc]
      exact ih (replays.step first)

end Replays

/-- The history of a run says what has become of the tables that it started with. -/
theorem Run.replays {body : τ → Body α} {d : Database} {events : List (Event τ α)}
    {final : Handles τ α} (hidle : d.draft = none) (run : Run body (Handles.start d) events final) :
    Replays d.committed (events.flatMap Event.readings) (history events) final :=
  (Replays.start hidle).run run

end Handles

end SqlCache
