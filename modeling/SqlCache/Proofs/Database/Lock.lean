import SqlCache.Proofs.Store.Frame

/-!
The writer's lock of a database. A statement is what a connection does by itself: an operation, a
call on the message log or a purge. While a transaction is open, a statement from outside of it
either fails on the lock or answers what it would answer if that transaction were rolled back; in
neither case does it change anything (`execute_while_open`).
-/

set_option autoImplicit false

namespace SqlCache

/-- What a connection does outside of transactions, with the clock it has read. -/
inductive Statement where
  | operate (now : Instant) (op : Operation)
  | log (now : Instant) (call : PubSub.LogCall)
  /-- A purge of a reaper's pass; the instant in it comes from the clock. -/
  | purge (call : Reaper.PurgeCall)

namespace Statement

/-- What a statement answers when it succeeds. -/
abbrev Answer : Statement → Type
  | operate _ op => op.Answer
  | log _ call => call.Answer
  | purge _ => Nat

/-- What a statement answers. -/
abbrev Reply (q : Statement) : Type := Result q.Answer

/-- What a statement makes of the tables it works on. -/
def effect : Statement → Store → Store
  | operate now op, s => (s.apply now op).2
  | log now call, s => (s.applyLog now call).2
  | purge call, s => (s.applyPurge call).2

end Statement

/-- Has somebody been told that the writer's lock is taken? -/
def isLocked {α : Type} : Result α → Bool
  | .error (.store .locked) => true
  | _ => false

@[simp] theorem isLocked_ok {α : Type} (a : α) : isLocked (.ok a : Result α) = false := rfl

@[simp] theorem isLocked_locked {α : Type} :
    isLocked (.error (.store .locked) : Result α) = true := rfl

namespace Database

variable {d : Database} {α : Type}

/-- The answer of a statement, and the database after it. -/
def execute (d : Database) : (q : Statement) → q.Reply × Database
  | .operate now op => d.apply now op
  | .log now call => d.applyLog now call
  | .purge call => d.applyPurge call

/-! ## Rolling back -/

@[simp] theorem rollback_draft : d.rollback.draft = none := rfl

@[simp] theorem rollback_committed : d.rollback.committed = d.committed := rfl

@[simp] theorem rollback_sharing : d.rollback.sharing = d.sharing := rfl

@[simp] theorem rollback_isReadOnly : d.rollback.isReadOnly = d.isReadOnly := rfl

theorem rollback_of_draft_eq_none (h : d.draft = none) : d.rollback = d := by
  cases d
  cases h
  rfl

theorem committed_eq_of_rollback_eq {d' : Database} (h : d'.rollback = d.rollback) :
    d'.committed = d.committed := by
  have hcommitted : d'.rollback.committed = d.rollback.committed := by rw [h]
  exact hcommitted

/-! ## Statements and the lock -/

/-- A statement on a file while a transaction is open: it fails on the lock, or does what it would
do after a rollback, which leaves the database alone. -/
theorem direct_while_open (hfile : d.sharing = .file) {draft : Draft} (hd : d.draft = some draft)
    {writes : Bool} (table : Option Store.Table) {work : Store → Result α × Store}
    (hread : writes = false → ∀ s, (work s).2 = s) :
    d.direct writes table work = (.error (.store .locked), d) ∨
    (d.direct writes table work = ((d.rollback.direct writes table work).1, d) ∧
      (d.rollback.direct writes table work).2 = d.rollback) := by
  cases writes with
  | true =>
      cases hro : d.isReadOnly with
      | true =>
          right
          simp [direct, writeFault?, conflict?, hro]
      | false =>
          left
          simp [direct, writeFault?, conflict?, hro, hd, lockFault, sharesPages, hfile]
  | false =>
      right
      have hkeep : { d with committed := (work d.committed).2 } = d := by
        rw [hread rfl]
      have hkeep' : { d.rollback with committed := (work d.committed).2 } = d.rollback := by
        rw [hread rfl]
        rfl
      have hfree : d.conflict? false table = none := by
        simp [conflict?, hd, sharesPages, hfile]
      have hfree' : d.rollback.conflict? false table = none := rfl
      simp only [direct, writeFault?, Bool.false_and, Bool.false_eq_true, if_false, hfree, hfree',
        Option.orElse_eq_orElse, Option.orElse_none, rollback_committed, hkeep, hkeep', and_self]

/-- A statement on a file while a transaction is open fails on the lock, or answers what it would
answer after a rollback; it changes nothing then. -/
theorem execute_while_open (hfile : d.sharing = .file) {draft : Draft} (hd : d.draft = some draft)
    (q : Statement) :
    (isLocked (d.execute q).1 = true ∧ (d.execute q).2 = d) ∨
    (d.execute q = ((d.rollback.execute q).1, d) ∧ (d.rollback.execute q).2 = d.rollback) := by
  cases q with
  | operate now op =>
      simp only [execute, apply]
      cases op.refusal? with
      | some e => exact Or.inr ⟨rfl, rfl⟩
      | none =>
          have hread : op.isWrite = false → ∀ s : Store, (s.apply now op).2 = s :=
            fun h _ => Store.apply_of_isWrite_eq_false h
          rcases direct_while_open hfile hd op.table? hread with h | h
          · exact Or.inl (by simp [h])
          · exact Or.inr h
  | log now call =>
      have hread : call.isWrite = false → ∀ s : Store, (s.applyLog now call).2 = s :=
        fun h _ => Store.applyLog_of_isWrite_eq_false h
      rcases direct_while_open hfile hd (some call.table) hread with h | h
      · exact Or.inl (by simp [execute, applyLog, h])
      · exact Or.inr h
  | purge call =>
      have hread : true = false → ∀ s : Store, (s.applyPurge call).2 = s := by
        intro h
        simp at h
      rcases direct_while_open hfile hd (some call.table) hread with h | h
      · exact Or.inl (by simp [execute, applyPurge, h])
      · exact Or.inr h

/-- While a transaction is open nothing that is put from outside of it changes the database. -/
theorem direct_snd_while_open {draft : Draft} (hd : d.draft = some draft) {writes : Bool}
    (table : Option Store.Table) {work : Store → Result α × Store}
    (hread : writes = false → ∀ s, (work s).2 = s) : (d.direct writes table work).2 = d := by
  unfold direct
  cases hfault : d.writeFault? writes <|> d.conflict? writes table with
  | some fault => rfl
  | none =>
      cases writes with
      | true =>
          have hconflict : d.conflict? true table = some d.lockFault := by
            rw [conflict?, hd]
            rfl
          rw [hconflict] at hfault
          cases hwrite : d.writeFault? true with
          | none =>
              rw [hwrite] at hfault
              cases hfault
          | some fault =>
              rw [hwrite] at hfault
              cases hfault
      | false =>
          show { d with committed := (work d.committed).2 } = d
          rw [hread rfl]

/-- A statement changes nothing while a transaction is open. -/
theorem execute_snd_while_open {draft : Draft} (hd : d.draft = some draft) (q : Statement) :
    (d.execute q).2 = d := by
  cases q with
  | operate now op =>
      simp only [execute, apply]
      cases op.refusal? with
      | some e => rfl
      | none =>
          exact direct_snd_while_open hd op.table? fun h _ => Store.apply_of_isWrite_eq_false h
  | log now call =>
      exact direct_snd_while_open hd (some call.table) fun h _ =>
        Store.applyLog_of_isWrite_eq_false h
  | purge call =>
      exact direct_snd_while_open hd (some call.table) fun h => by cases h

/-- Without an open transaction nobody is told that a database is locked, unless the work says
so. -/
theorem isLocked_direct_of_draft_eq_none (hd : d.draft = none)
    {writes : Bool} {table : Option Store.Table} {work : Store → Result α × Store}
    (hwork : ∀ s, isLocked (work s).1 = false) :
    isLocked (d.direct writes table work).1 = false := by
  simp only [direct, conflict?, hd]
  cases hw : d.writeFault? writes with
  | none => simpa using hwork d.committed
  | some fault =>
      have hro : fault = .readOnly := by
        simp only [writeFault?] at hw
        split at hw
        · exact (Option.some.inj hw).symm
        · exact absurd hw (by simp)
      subst hro
      rfl

end Database

/-- No operation finds its tables locked once it works on them. -/
theorem Store.isLocked_apply (s : Store) (now : Instant) (op : Operation) :
    isLocked (s.apply now op).1 = false := by
  cases op with
  | getBytes key | getField key field | getFields key | ttl key =>
      simp only [apply]
      split <;> rfl
  | scan key cursor pattern count =>
      simp only [apply, scan]
      split <;> rfl
  | set | delete | count | setField | deleteField | setNx | expire | lock | publish => rfl

/-- No call finds the message log locked once it works on it. -/
theorem Store.isLocked_applyLog (s : Store) (now : Instant) (call : PubSub.LogCall) :
    isLocked (s.applyLog now call).1 = false := by
  cases call <;> rfl

/-- No purge finds its table locked once it works on it. -/
theorem Store.isLocked_applyPurge (s : Store) (call : Reaper.PurgeCall) :
    isLocked (s.applyPurge call).1 = false := by
  cases call <;> rfl

/-- An operation that is refused by its arguments is not refused for the lock. -/
theorem Operation.isLocked_refusal {op : Operation} {e : CacheError} (h : op.refusal? = some e) :
    isLocked (.error e : op.Reply) = false := by
  cases op with
  | scan key cursor pattern count =>
      obtain ⟨fault, _, rfl⟩ := Option.map_eq_some_iff.mp h
      rfl
  | count keys =>
      simp only [refusal?] at h
      split at h
      · cases h
        rfl
      · exact absurd h (by simp)
  | set | getBytes | delete | setField | getField | deleteField | getFields | setNx | expire | ttl
  | lock | publish => exact absurd h (by simp [refusal?])

namespace Database

variable {d : Database}

/-- Without an open transaction no statement fails on the lock. -/
theorem isLocked_execute_of_draft_eq_none (hd : d.draft = none) (q : Statement) :
    isLocked (d.execute q).1 = false := by
  cases q with
  | operate now op =>
      simp only [execute, apply]
      split
      · next h => exact Operation.isLocked_refusal h
      · exact isLocked_direct_of_draft_eq_none hd fun s => s.isLocked_apply now op
  | log now call =>
      exact isLocked_direct_of_draft_eq_none hd fun s => s.isLocked_applyLog now call
  | purge call =>
      exact isLocked_direct_of_draft_eq_none hd fun s => s.isLocked_applyPurge call

/-- A statement changes nothing but the committed tables, and these as it does by itself. -/
theorem execute_eq_committed (d : Database) (q : Statement) :
    ∃ s, (d.execute q).2 = { d with committed := s } ∧
      (s = d.committed ∨ s = q.effect d.committed) := by
  have hdirect : ∀ {α : Type} (writes : Bool) (table : Option Store.Table)
      (work : Store → Result α × Store),
      ∃ s, (d.direct writes table work).2 = { d with committed := s } ∧
        (s = d.committed ∨ s = (work d.committed).2) := by
    intro α writes table work
    simp only [direct]
    split
    · exact ⟨d.committed, rfl, Or.inl rfl⟩
    · exact ⟨_, rfl, Or.inr rfl⟩
  cases q with
  | operate now op =>
      simp only [execute, apply]
      split
      · exact ⟨d.committed, rfl, Or.inl rfl⟩
      · exact hdirect _ _ _
  | log now call => exact hdirect _ _ _
  | purge call => exact hdirect _ _ _

theorem execute_draft (d : Database) (q : Statement) : (d.execute q).2.draft = d.draft := by
  obtain ⟨s, hs, -⟩ := execute_eq_committed d q
  rw [hs]

/-! ## Transactions -/

/-- The database is one of which each connection has its own, so that transactions run apart from
it. -/
structure Apart (d : Database) : Prop where
  idle : d.draft = none
  sharing_eq : d.sharing = .nothing

/-- A transaction that begins finds no other one open. It starts from the committed tables, or runs
apart from the database. -/
theorem of_begin_ok {d' : Database} (h : d.begin = (.ok (), d')) :
    (d.draft = none ∧ d.sharing ≠ .nothing ∧ d' = { d with draft := some ⟨d.committed, []⟩ }) ∨
      (d.Apart ∧ d' = d) := by
  unfold begin at h
  split at h
  · cases h
  · next hd hsharing =>
      cases h
      exact Or.inr ⟨⟨hd, hsharing⟩, rfl⟩
  · next hd hshared =>
      cases h
      exact Or.inl ⟨hd, hshared, rfl⟩

/-- On a database that connections share a transaction starts from the committed tables. -/
theorem of_begin_ok_of_shared {d' : Database} (hshared : d.sharing ≠ .nothing)
    (h : d.begin = (.ok (), d')) :
    d.draft = none ∧ d' = { d with draft := some ⟨d.committed, []⟩ } := by
  rcases of_begin_ok h with ⟨hd, -, hbegun⟩ | ⟨apart, -⟩
  · exact ⟨hd, hbegun⟩
  · exact absurd apart.sharing_eq hshared

/-- A transaction begins when no other one is open, on a database that connections share. -/
theorem begin_of_draft_eq_none (hd : d.draft = none) (hshared : d.sharing ≠ .nothing) :
    d.begin = (.ok (), { d with draft := some ⟨d.committed, []⟩ }) := by
  unfold begin
  rw [hd]
  cases hs : d.sharing with
  | file | pages => rfl
  | nothing => exact absurd hs hshared

theorem backend_begin_eq {result : Result Unit} {d' : Database} (h : d.begin = (result, d')) :
    backend.begin d = (result.map fun _ => ⟨true⟩, d') := by
  show (d.begin.1.map fun _ => (⟨true⟩ : Connection), d.begin.2) = _
  rw [h]

/-- A transaction that begins runs its body and ends with its result. -/
theorem transaction_of_begin_ok {α : Type} {now : Instant} {body : Body α} {d' : Database}
    (h : d.begin = (.ok (), d')) :
    backend.transaction now body d =
      backend.finish ⟨true⟩ (body.run.run (backend.within now ⟨true⟩) d').1
        (body.run.run (backend.within now ⟨true⟩) d').2 := by
  have hbegin : backend.begin d = (.ok ⟨true⟩, d') := backend_begin_eq h
  rw [Backend.transaction, hbegin]

/-- A transaction that cannot begin changes nothing. -/
theorem of_begin_error {d' : Database} {e : CacheError} (h : d.begin = (.error e, d')) :
    d' = d := by
  unfold begin at h
  split at h
  · cases h
    rfl
  · cases h
  · cases h

/-- A transaction that cannot begin is told of the lock. -/
theorem eq_lockFault_of_begin_error {d' : Database} {e : CacheError}
    (h : d.begin = (.error e, d')) : e = .store d.lockFault := by
  unfold begin at h
  split at h
  · cases h
    rfl
  · cases h
  · cases h

/-- On a file a transaction cannot begin only because another one is open. -/
theorem eq_locked_of_begin_error (hfile : d.sharing = .file) {d' : Database} {e : CacheError}
    (h : d.begin = (.error e, d')) : e = .store .locked := by
  rw [eq_lockFault_of_begin_error h]
  simp [lockFault, sharesPages, hfile]

theorem not_apart_of_draft {draft : Draft} (hd : d.draft = some draft) : ¬ d.Apart := by
  intro apart
  rw [apart.idle] at hd
  cases hd

/-- A transaction that does not run apart finds all tables. -/
theorem absence?_of_not_apart (h : ¬ d.Apart) (table : Option Store.Table) :
    d.absence? table = none := by
  unfold absence?
  split
  · next hd hsharing => exact absurd ⟨hd, hsharing⟩ h
  · rfl

/-- An operation of a transaction that is open on the database is refused, or works on the draft. -/
theorem applyInside_of_draft {draft : Draft} (hd : d.draft = some draft) (now : Instant)
    (op : Operation) :
    d.applyInside now op = match op.refusal? <|> (d.writeFault? op.isWrite).map .store with
      | some e => (.error e, d)
      | none => ((draft.store.apply now op).1,
          { d with draft := some ⟨(draft.store.apply now op).2,
              if op.isWrite then op.table?.toList ++ draft.touched else draft.touched⟩ }) := by
  have hfault : (d.absence? op.table? <|> d.writeFault? op.isWrite) = d.writeFault? op.isWrite := by
    rw [absence?_of_not_apart (not_apart_of_draft hd)]
    rfl
  unfold applyInside
  rw [hd, hfault]
  cases op.refusal? <|> (d.writeFault? op.isWrite).map .store <;> rfl

/-- An operation of a transaction changes nothing but the draft, and this as it does by itself. -/
theorem applyInside_eq_draft {draft : Draft} (hd : d.draft = some draft) (now : Instant)
    (op : Operation) : ∃ draft', (d.applyInside now op).2 = { d with draft := some draft' } ∧
      (draft'.store = draft.store ∨ draft'.store = (draft.store.apply now op).2) := by
  have hkeep : d = { d with draft := some draft } := by
    rw [← hd]
  rw [applyInside_of_draft hd]
  cases op.refusal? <|> (d.writeFault? op.isWrite).map .store with
  | some e => exact ⟨draft, hkeep, Or.inl rfl⟩
  | none => exact ⟨_, rfl, Or.inr rfl⟩

/-- An operation of a transaction that its arguments do not rule out works on the draft, unless it
writes and the database can only be read. -/
theorem applyInside_of_refusal_eq_none {draft : Draft} (hd : d.draft = some draft) {op : Operation}
    (hop : op.refusal? = none) (now : Instant) :
    (op.isWrite = true ∧ d.applyInside now op = (.error (.store .readOnly), d)) ∨
    ∃ touched, d.applyInside now op = ((draft.store.apply now op).1,
      { d with draft := some ⟨(draft.store.apply now op).2, touched⟩ }) := by
  rw [applyInside_of_draft hd, writeFault?, hop]
  cases op.isWrite with
  | true =>
      cases d.isReadOnly with
      | true => exact Or.inl ⟨rfl, rfl⟩
      | false => exact Or.inr ⟨_, rfl⟩
  | false => exact Or.inr ⟨_, rfl⟩

/-- A transaction that has just begun reads the committed tables. -/
theorem applyInside_of_begun (hd : d.draft = some ⟨d.committed, []⟩) {op : Operation}
    (hop : op.refusal? = none) (hread : op.isWrite = false) (now : Instant) :
    d.applyInside now op = ((d.committed.apply now op).1, d) := by
  have hfault : d.writeFault? op.isWrite = none := by rw [hread]; rfl
  have hkept : (d.committed.apply now op).2 = d.committed := Store.apply_of_isWrite_eq_false hread
  have hsame : { d with draft := some ⟨d.committed, []⟩ } = d := by rw [← hd]
  rw [applyInside_of_draft hd, hop, hfault]
  simp only [Option.map_none, Option.orElse_eq_orElse, Option.orElse_none, hread, hkept,
    Bool.false_eq_true, if_false, hsame]

/-- An operation of a transaction works on the draft, if its arguments do not rule it out and the
database can be written to. -/
theorem applyInside_of_writable {draft : Draft} (hd : d.draft = some draft) {op : Operation}
    (hop : op.refusal? = none) (hwritable : d.isReadOnly = false) (now : Instant) :
    ∃ touched, d.applyInside now op = ((draft.store.apply now op).1,
      { d with draft := some ⟨(draft.store.apply now op).2, touched⟩ }) := by
  rw [applyInside_of_draft hd, writeFault?, hop, hwritable, Bool.and_false]
  exact ⟨_, rfl⟩

theorem commit_committed {draft : Draft} (hd : d.draft = some draft) :
    d.commit.committed = draft.store := by
  rw [commit, hd]
  rfl

/-- To commit what a transaction has come to makes its draft the committed tables, if it has one. -/
theorem commit_of_idle (hd : d.draft = none) (open? : Option Draft) :
    ({ d with draft := open? } : Database).commit =
      { d with committed := (open?.map Draft.store).getD d.committed } := by
  cases d
  cases hd
  rfl

/-- A draft that is committed is the committed tables from then on. -/
theorem commit_of_draft (hd : d.draft = none) (draft : Draft) :
    ({ d with draft := some draft } : Database).commit = { d with committed := draft.store } :=
  commit_of_idle hd (some draft)

/-- An operation does to the draft what it would do to the same tables if they were committed, with
the same answer. -/
theorem applyInside_eq_apply (hd : d.draft = none) (store : Store) (touched : List Store.Table)
    (now : Instant) (op : Operation) :
    ∃ reply store' touched',
      ({ d with draft := some ⟨store, touched⟩ } : Database).applyInside now op =
        (reply, { d with draft := some ⟨store', touched'⟩ }) ∧
      ({ d with committed := store } : Database).apply now op =
        (reply, { d with committed := store' }) := by
  have hopen : ({ d with draft := some ⟨store, touched⟩ } : Database).draft =
      some ⟨store, touched⟩ := rfl
  cases href : op.refusal? with
  | some e =>
      refine ⟨.error e, store, touched, ?_, ?_⟩
      · simp [applyInside_of_draft hopen, href]
      · simp [apply, href]
  | none =>
      cases hfault : d.writeFault? op.isWrite with
      | some fault =>
          have hinside : ({ d with draft := some ⟨store, touched⟩ } : Database).writeFault?
              op.isWrite = some fault := hfault
          have houtside : ({ d with committed := store } : Database).writeFault? op.isWrite =
              some fault := hfault
          refine ⟨.error (.store fault), store, touched, ?_, ?_⟩
          · simp [applyInside_of_draft hopen, href, hinside]
          · simp [apply, href, direct, houtside]
      | none =>
          have hinside : ({ d with draft := some ⟨store, touched⟩ } : Database).writeFault?
              op.isWrite = none := hfault
          have houtside : ({ d with committed := store } : Database).writeFault? op.isWrite =
              none := hfault
          have hfree : ({ d with committed := store } : Database).conflict? op.isWrite op.table? =
              none := by
            simp [conflict?, hd]
          refine ⟨(store.apply now op).1, (store.apply now op).2,
            if op.isWrite then op.table?.toList ++ touched else touched, ?_, ?_⟩
          · simp only [applyInside_of_draft hopen, href, hinside, Option.map_none,
              Option.orElse_eq_orElse, Option.orElse_none]
          · simp only [apply, href, direct, houtside, hfree, Option.orElse_eq_orElse,
              Option.orElse_none]

/-! ## Transactions that run apart -/

/-- What an operation answers on a database that has no tables. -/
def replyApart (now : Instant) (op : Operation) : op.Reply :=
  match op.refusal?, op.table? with
  | some e, _ => .error e
  | none, some table => .error (.store (.noTable table.name))
  | none, none => (Store.empty.apply now op).1

namespace Apart

theorem begin_eq (apart : d.Apart) : d.begin = (.ok (), d) := by
  unfold begin
  rw [apart.idle, apart.sharing_eq]

theorem rollback_eq (apart : d.Apart) : d.rollback = d :=
  rollback_of_draft_eq_none apart.idle

theorem commit_eq (apart : d.Apart) : d.commit = d := by
  have hcommit := commit_of_idle apart.idle none
  rwa [show ({ d with draft := none } : Database) = d from apart.rollback_eq] at hcommit

/-- An operation of a transaction that runs apart finds no tables, and does nothing here. -/
theorem applyInside_eq (apart : d.Apart) (now : Instant) (op : Operation) :
    d.applyInside now op = (replyApart now op, d) := by
  have habsence : d.absence? op.table? = op.table?.map fun t => .noTable t.name := by
    rw [absence?, apart.idle, apart.sharing_eq]
  unfold applyInside replyApart
  rw [apart.idle, habsence]
  cases hrefusal : op.refusal? with
  | some e => rfl
  | none =>
      cases htable : op.table? with
      | some table => rfl
      | none =>
          cases op with
          | lock key =>
              have hkeep : ({ d with draft := none } : Database) = d := apart.rollback_eq
              simpa [Operation.isWrite, writeFault?, apply, hrefusal, direct, conflict?,
                apart.idle, Store.apply] using hkeep
          | set | getBytes | delete | count | setField | getField | deleteField | getFields | scan
          | setNx | expire | ttl | publish => cases htable

end Apart

/-! ## Answers and effects -/

/-- Nothing keeps a writer from the committed tables only while no transaction is open. -/
theorem draft_eq_none_of_no_fault {table : Option Store.Table}
    (h : (d.writeFault? true <|> d.conflict? true table) = none) : d.draft = none := by
  cases hd : d.draft with
  | none => rfl
  | some draft =>
      rw [conflict?, hd] at h
      cases hro : d.writeFault? true <;> simp [hro] at h

/-- An operation fails and changes nothing, or it answers what the committed tables say and does to
them what it does to any; if it writes, no transaction is open then. -/
theorem apply_cases (d : Database) (now : Instant) (op : Operation) :
    (∃ e, d.apply now op = (.error e, d)) ∨
    ((op.isWrite = true → d.draft = none) ∧ d.apply now op =
      ((d.committed.apply now op).1, { d with committed := (d.committed.apply now op).2 })) := by
  unfold apply
  cases op.refusal? with
  | some e => exact Or.inl ⟨e, rfl⟩
  | none =>
      unfold direct
      cases hfault : d.writeFault? op.isWrite <|> d.conflict? op.isWrite op.table? with
      | some fault => exact Or.inl ⟨.store fault, rfl⟩
      | none =>
          refine Or.inr ⟨fun hwrite => ?_, rfl⟩
          rw [hwrite] at hfault
          exact draft_eq_none_of_no_fault hfault

/-- An operation of a transaction fails and changes nothing, or it answers what the draft says and
does to it what it does to any tables. -/
theorem applyInside_cases {draft : Draft} (hd : d.draft = some draft) (now : Instant)
    (op : Operation) :
    (∃ e, d.applyInside now op = (.error e, d)) ∨
    ∃ touched, d.applyInside now op = ((draft.store.apply now op).1,
      { d with draft := some ⟨(draft.store.apply now op).2, touched⟩ }) := by
  rw [applyInside_of_draft hd]
  cases op.refusal? <|> (d.writeFault? op.isWrite).map .store with
  | some e => exact Or.inl ⟨e, rfl⟩
  | none => exact Or.inr ⟨_, rfl⟩

end Database

end SqlCache
