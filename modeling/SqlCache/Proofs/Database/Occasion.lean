import SqlCache.Proofs.Database.Lock

/-!
A connection and what it sees. A connection asks a database by itself or inside the open
transaction; by itself it sees the committed tables, inside of a transaction its draft
(`Occasion.store`). Where nothing keeps it from reading a table it is told what the tables it sees
say (`ask_of_reads`). One that has been let to write has the database for itself, so that whatever
it asks next is answered from what it has written (`owns_spec`).
-/

set_option autoImplicit false

namespace SqlCache

/-- A moment at which a connection asks a database, by itself or inside the open transaction. -/
structure Occasion where
  database : Database
  now : Instant
  isInside : Bool

/-- Inside of a transaction that is not open an operation is refused, or does what it does by
itself. -/
theorem Database.applyInside_of_idle {d : Database} (hidle : d.draft = none) (now : Instant)
    (op : Operation) :
    (∃ e, d.applyInside now op = (.error e, d)) ∨ d.applyInside now op = d.apply now op := by
  unfold applyInside
  rw [hidle]
  cases op.refusal? <|> (d.absence? op.table? <|> d.writeFault? op.isWrite).map .store with
  | some e => exact Or.inl ⟨e, rfl⟩
  | none => exact Or.inr rfl

/-- It does what it does by itself, if nothing is wrong with it and the transaction would not run
apart from the database. -/
theorem Database.applyInside_eq_apply_of_idle {d : Database} {op : Operation}
    (hidle : d.draft = none) (together : ¬ d.Apart) (hrefusal : op.refusal? = none)
    (hfault : d.writeFault? op.isWrite = none) (now : Instant) :
    d.applyInside now op = d.apply now op := by
  have hfound := Database.absence?_of_not_apart together op.table?
  simp [applyInside, hidle, hrefusal, hfound, hfault]

namespace Occasion

variable {o : Occasion} {op : Operation}

/-- What the connection is told. -/
def ask (o : Occasion) (op : Operation) : op.Reply :=
  if o.isInside then (o.database.applyInside o.now op).1 else (o.database.apply o.now op).1

/-- The tables that the connection reads. -/
def store (o : Occasion) : Store :=
  if o.isInside then (o.database.draft.map Draft.store).getD o.database.committed
  else o.database.committed

/-- The moment after a call, which is made at a reading of the clock. -/
def call (o : Occasion) (now : Instant) (op : Operation) : Occasion where
  database := if o.isInside then (o.database.applyInside now op).2 else (o.database.apply now op).2
  now
  isInside := o.isInside

/-- The moment after calls, each made at its reading of the clock. -/
def calls (o : Occasion) (made : List (Instant × Operation)) : Occasion :=
  made.foldl (fun o c => o.call c.1 c.2) o

theorem calls_concat (o : Occasion) (made : List (Instant × Operation))
    (c : Instant × Operation) : o.calls (made ++ [c]) = (o.calls made).call c.1 c.2 := by
  rw [calls, List.foldl_append]
  rfl

/-- What every call keeps holds after all of them. -/
theorem calls_induction {P : Occasion → Prop} {made : List (Instant × Operation)} (start : P o)
    (keeps : ∀ before c after, made = before ++ c :: after → P (o.calls before) →
      P (o.calls (before ++ [c]))) : P (o.calls made) := by
  induction made generalizing o with
  | nil => exact start
  | cons c rest ih =>
      refine ih (keeps [] c rest rfl start) ?_
      intro before d after hrest
      exact keeps (c :: before) d after (by rw [hrest, List.cons_append])

/-- Does nothing keep the connection from reading a table? By itself it must not meet a lock; a
transaction must not run apart from the database. -/
def Reads (o : Occasion) (table : Store.Table) : Prop :=
  if o.isInside then ¬ o.database.Apart else o.database.conflict? false (some table) = none

/-- Does the connection have a database for itself that it can write to? -/
structure Owns (o : Occasion) : Prop where
  writable : o.database.isReadOnly = false
  alone : o.isInside = true ∨ o.database.draft = none
  together : o.isInside = true → ¬ o.database.Apart

/-- Where nothing keeps a connection from reading, it is told what its tables say. -/
theorem ask_of_reads {table : Store.Table} (h : o.Reads table) (hrefusal : op.refusal? = none)
    (hread : op.isWrite = false) (htable : op.table? = some table) :
    o.ask op = (o.store.apply o.now op).1 := by
  obtain ⟨d, now, isInside⟩ := o
  have hfault : d.writeFault? false = none := rfl
  have hdirect (hfree : d.conflict? false (some table) = none) :
      (d.apply now op).1 = (d.committed.apply now op).1 := by
    simp only [Database.apply, hrefusal, Database.direct, hread, htable, hfault, hfree,
      Option.orElse_eq_orElse, Option.orElse_none]
  cases isInside with
  | true =>
      cases hd : d.draft with
      | none =>
          have hfree : d.conflict? false (some table) = none := by rw [Database.conflict?, hd]
          have hinside := Database.applyInside_eq_apply_of_idle hd h hrefusal (hread ▸ hfault) now
          simpa [ask, store, hinside, hd] using hdirect hfree
      | some draft =>
          simp [ask, store, Database.applyInside_of_draft hd, hd, hrefusal, hread, hfault]
  | false => exact hdirect h

/-- A call fails and changes nothing, or its arguments are in order, it is told what the tables
say that the connection sees, and does to them what it does to any. -/
theorem ask_cases (o : Occasion) (op : Operation) :
    ((∃ e, o.ask op = .error e) ∧ (o.call o.now op).store = o.store) ∨
    (op.refusal? = none ∧ o.ask op = (o.store.apply o.now op).1 ∧
      (o.call o.now op).store = (o.store.apply o.now op).2) := by
  obtain ⟨d, now, isInside⟩ := o
  cases hrefusal : op.refusal? with
  | some e =>
      left
      cases isInside with
      | false => simp [ask, call, store, Database.apply, hrefusal]
      | true =>
          cases hd : d.draft <;> simp [ask, call, store, Database.applyInside, hrefusal, hd]
  | none =>
      cases isInside with
      | false =>
          rcases d.apply_cases now op with ⟨e, hsame⟩ | ⟨-, happlied⟩
          · simp [ask, call, store, hsame]
          · simp [ask, call, store, happlied]
      | true =>
          cases hd : d.draft with
          | none =>
              rcases Database.applyInside_of_idle hd now op with ⟨e, hsame⟩ | halone
              · simp [ask, call, store, hsame]
              · rcases d.apply_cases now op with ⟨e, hsame⟩ | ⟨-, happlied⟩
                · simp [ask, call, store, halone, hsame]
                · simp [ask, call, store, halone, happlied, hd]
          | some draft =>
              rcases Database.applyInside_cases hd now op with ⟨e, hsame⟩ | ⟨touched, happlied⟩
              · simp [ask, call, store, hsame]
              · simp [ask, call, store, happlied, hd]

/-- Whoever is told an answer is told what the tables say that he sees. -/
theorem of_ask_eq_ok {answer : op.Answer} (told : o.ask op = .ok answer) :
    op.refusal? = none ∧ (o.store.apply o.now op).1 = .ok answer := by
  rcases o.ask_cases op with ⟨⟨e, herror⟩, -⟩ | ⟨hrefusal, hanswer, -⟩
  · rw [herror] at told
    cases told
  · exact ⟨hrefusal, hanswer.symm.trans told⟩

/-- A call leaves what the connection sees as it is, or does to it what it does to any tables. -/
theorem store_call (o : Occasion) (now : Instant) (op : Operation) :
    (o.call now op).store = o.store ∨ (o.call now op).store = (o.store.apply now op).2 := by
  rcases ask_cases { o with now } op with ⟨-, hsame⟩ | ⟨-, -, happlied⟩
  · exact Or.inl hsame
  · exact Or.inr happlied

/-- On a file nothing keeps anybody from reading. -/
theorem reads_of_file (hfile : o.database.sharing = .file) (table : Store.Table) :
    o.Reads table := by
  unfold Reads
  split
  · intro apart
    rw [apart.sharing_eq] at hfile
    cases hfile
  · cases hd : o.database.draft with
    | none => rw [Database.conflict?, hd]
    | some draft => simp [Database.conflict?, hd, Database.sharesPages, hfile]

end Occasion

/-! ## Writing -/

/-- Whatever writes works on a table. -/
theorem Operation.exists_table_of_isWrite (op : Operation) (hwrite : op.isWrite = true) :
    ∃ table, op.table? = some table := by
  cases op with
  | set | delete | setField | deleteField | setNx | expire | publish => exact ⟨_, rfl⟩
  | getBytes | count | getField | getFields | scan | ttl | lock => cases hwrite

namespace Database

variable {d : Database} {op : Operation}

/-- An operation on a database that nobody else writes to does to the tables what it does to any. -/
theorem apply_of_idle (hidle : d.draft = none) (hwritable : d.isReadOnly = false)
    (hrefusal : op.refusal? = none) (now : Instant) :
    d.apply now op =
      ((d.committed.apply now op).1, { d with committed := (d.committed.apply now op).2 }) := by
  simp [apply, hrefusal, direct, writeFault?, hwritable, conflict?, hidle]

theorem writeFault?_of_writable (hwritable : d.isReadOnly = false) (writes : Bool) :
    d.writeFault? writes = none := by
  simp [writeFault?, hwritable]

/-- What writes is let to only where there is no lock and the database can be written to. -/
theorem of_apply_eq_ok (hwrite : op.isWrite = true) {now : Instant} {answer : op.Answer}
    (told : (d.apply now op).1 = .ok answer) :
    op.refusal? = none ∧ d.draft = none ∧ d.isReadOnly = false := by
  cases hrefusal : op.refusal? with
  | some e => simp [apply, hrefusal] at told
  | none =>
      cases hro : d.isReadOnly with
      | true => simp [apply, hrefusal, direct, writeFault?, hwrite, hro] at told
      | false =>
          cases hd : d.draft with
          | none => exact ⟨rfl, rfl, rfl⟩
          | some draft =>
              simp [apply, hrefusal, direct, writeFault?, hwrite, hro, conflict?, hd] at told

/-- What writes in a transaction is let to only where the database can be written to, and in no
transaction that runs apart from it. -/
theorem of_applyInside_eq_ok (hwrite : op.isWrite = true) {now : Instant} {answer : op.Answer}
    (told : (d.applyInside now op).1 = .ok answer) :
    op.refusal? = none ∧ d.isReadOnly = false ∧ ¬ d.Apart := by
  cases hrefusal : op.refusal? with
  | some e =>
      cases hd : d.draft <;> simp [applyInside, hrefusal, hd] at told
  | none =>
      have together : ¬ d.Apart := by
        intro apart
        obtain ⟨table, htable⟩ := op.exists_table_of_isWrite hwrite
        simp [apart.applyInside_eq, replyApart, hrefusal, htable] at told
      have hfound := absence?_of_not_apart together op.table?
      cases hro : d.isReadOnly with
      | true =>
          cases hd : d.draft <;>
            simp [applyInside, hrefusal, hfound, writeFault?, hwrite, hro, hd] at told
      | false => exact ⟨rfl, rfl, together⟩

end Database

namespace Occasion

variable {o : Occasion} {op : Operation}

/-- While no transaction is open everybody sees the committed tables. -/
theorem store_of_idle (hidle : o.database.draft = none) : o.store = o.database.committed := by
  simp [store, hidle]

/-- A connection that has a database for itself is told what its tables say, and does to them what
it asks for. -/
theorem owns_spec (owns : o.Owns) (hrefusal : op.refusal? = none) :
    o.ask op = (o.store.apply o.now op).1 ∧
      (o.call o.now op).store = (o.store.apply o.now op).2 ∧ (o.call o.now op).Owns := by
  have hfault := Database.writeFault?_of_writable owns.writable op.isWrite
  cases hd : o.database.draft with
  | none =>
      have happly := Database.apply_of_idle hd owns.writable hrefusal o.now
      have hinside (hin : o.isInside = true) :
          o.database.applyInside o.now op = o.database.apply o.now op :=
        Database.applyInside_eq_apply_of_idle hd (owns.together hin) hrefusal hfault o.now
      have hcall : o.call o.now op =
          { o with database := { o.database with
              committed := (o.database.committed.apply o.now op).2 } } := by
        unfold call
        split
        · next hin => rw [hinside hin, happly]
        · rw [happly]
      have hafter : (o.call o.now op).database.draft = none := by
        rw [hcall]
        exact hd
      refine ⟨?_, ?_, ?_⟩
      · rw [store_of_idle hd, ask]
        split
        · next hin => rw [hinside hin, happly]
        · rw [happly]
      · rw [store_of_idle hafter, store_of_idle hd, hcall]
      · rw [hcall]
        refine ⟨owns.writable, Or.inr hd, fun hin apart => owns.together hin ?_⟩
        exact ⟨hd, apart.sharing_eq⟩
  | some draft =>
      have hin : o.isInside = true := by simpa [hd] using owns.alone
      refine ⟨?_, ?_, ?_, Or.inl hin, fun _ => ?_⟩
      · simp [ask, store, Database.applyInside_of_draft hd, hin, hd, hrefusal, hfault]
      · simp [call, store, Database.applyInside_of_draft hd, hin, hd, hrefusal, hfault]
      · simp [call, Database.applyInside_of_draft hd, hin, hrefusal, hfault, owns.writable]
      · have hopen : (o.call o.now op).database.draft = some ⟨(draft.store.apply o.now op).2,
            if op.isWrite then op.table?.toList ++ draft.touched else draft.touched⟩ := by
          simp [call, Database.applyInside_of_draft hd, hin, hrefusal, hfault]
        exact Database.not_apart_of_draft hopen

theorem Owns.reads (owns : o.Owns) (table : Store.Table) : o.Reads table := by
  unfold Reads
  split
  · next hin => exact owns.together hin
  · next hout =>
      have hidle : o.database.draft = none := by simpa [hout] using owns.alone
      rw [Database.conflict?, hidle]

/-- Whoever has been let to write has the database for himself, and his arguments are in order. -/
theorem owns_of_write (hwrite : op.isWrite = true) {answer : op.Answer}
    (told : o.ask op = .ok answer) : o.Owns ∧ op.refusal? = none := by
  cases hin : o.isInside with
  | true =>
      rw [ask, if_pos hin] at told
      obtain ⟨hrefusal, hwritable, together⟩ := Database.of_applyInside_eq_ok hwrite told
      exact ⟨⟨hwritable, Or.inl hin, fun _ => together⟩, hrefusal⟩
  | false =>
      rw [ask, if_neg (by simp [hin])] at told
      obtain ⟨hrefusal, hidle, hwritable⟩ := Database.of_apply_eq_ok hwrite told
      exact ⟨⟨hwritable, Or.inr hidle, by simp [hin]⟩, hrefusal⟩

end Occasion

end SqlCache
