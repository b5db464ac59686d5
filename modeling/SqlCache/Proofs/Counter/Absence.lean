import SqlCache.Proofs.Counter.Stage
import SqlCache.Proofs.Postgres.Queries
import SqlCache.Proofs.Postgres.Transaction

/-!
Counters that are absent. An increment reads a counter by two requests, one for its bytes and one
for its time to live, each at its own reading of the clock. A key that is absent at the first one
counts as 0. A key that expires between the two is reported as not found, although it has been read
(`Lapses`). Main result: `notFound_iff_lapses`, that an increment fails in this way exactly then, on
a database whatever its clock shows and on a server whatever it answers; and that otherwise it
counts on from what the first request has found, or the store fails, or the increment is refused.
-/

set_option autoImplicit false

namespace SqlCache.Counter

open Text.Integer

/-- The error is a failure of the store. -/
def Failed (e : CacheError) : Prop := ∃ fault, e = .store fault

/-- The outcomes of an increment of a key that is treated as a counter. -/
inductive Outcome (count? : Option Int) (delta : Int) : Result Int → Prop where
  | counted {value : Int} (known : count? = some value) : Outcome count? delta (.ok (value + delta))
  | failed {e : CacheError} (fault : Failed e) : Outcome count? delta (.error e)
  | refused (fault : ArgumentFault) : Outcome count? delta (.error (.validation fault))

theorem Outcome.ne_notFound {count? : Option Int} {delta : Int} {r : Result Int}
    (h : Outcome count? delta r) : r ≠ .error .notFound := by
  cases h with
  | counted known => simp
  | failed fault =>
      obtain ⟨fault, rfl⟩ := fault
      simp
  | refused fault => simp

/-! ## The body of an increment -/

section Body

variable {σ : Type} {handle : (op : Operation) → σ → op.Reply × σ} {key : String} {delta : Int}
  {s : σ}

/-- How the requests of an increment can fail: a key may be absent where it is read. -/
structure Answering (handle : (op : Operation) → σ → op.Reply × σ) (key : String) : Prop where
  lock : ∀ s e, (handle (.lock key) s).1 = .error e → Failed e
  getBytes : ∀ s e, (handle (.getBytes key) s).1 = .error e → e = .notFound ∨ Failed e
  ttl : ∀ s e, (handle (.ttl key) s).1 = .error e → e = .notFound ∨ Failed e
  set : ∀ value ttl s e, (handle (.set key value ttl) s).1 = .error e → Failed e

/-- The answer to an increment's request for the bytes of its key, and the state after it. -/
def firstRead (handle : (op : Operation) → σ → op.Reply × σ) (key : String) (s : σ) :
    Result ByteArray × σ :=
  handle (.getBytes key) (handle (.lock key) s).2

/-- The key is read as a counter, and is gone when its time to live is asked for. -/
structure Lapses (handle : (op : Operation) → σ → op.Reply × σ) (key : String) (s : σ) : Prop where
  locked : (handle (.lock key) s).1 = .ok ()
  counted : ∃ bytes value, (firstRead handle key s).1 = .ok bytes ∧
    countOf? (.ok bytes) = some value
  gone : (handle (.ttl key) (firstRead handle key s).2).1 = .error .notFound

theorem run_adding (h : Answering handle key) (count? : Option Int) {value : Int}
    (known : count? = some value) (remaining : Option Duration) :
    Outcome count? delta ((adding key delta value remaining).run handle s).1 := by
  unfold adding
  split
  · rw [Dialogue.run_ask]
    cases hset : (handle (.set key (encode (value + delta)).toUTF8 (Duration.retained remaining))
      s).1 with
    | ok u => exact .counted known
    | error e => exact .failed (h.set _ _ _ _ hset)
  · exact .refused _

/-- An increment does not find its key exactly if the key lapses. -/
theorem run_body_cases (h : Answering handle key) (delta : Int) (s : σ) :
    (Lapses handle key s ∧ ((body key delta).run.run handle s).1 = .error .notFound) ∨
      (¬ Lapses handle key s ∧
        Outcome (countOf? (firstRead handle key s).1) delta
          ((body key delta).run.run handle s).1) := by
  rw [body_run, Dialogue.run_ask]
  cases hlock : (handle (.lock key) s).1 with
  | error e =>
      refine Or.inr ⟨?_, .failed (h.lock _ _ hlock)⟩
      intro lapses
      rw [lapses.locked] at hlock
      cases hlock
  | ok u =>
      show (_ ∧ ((found key delta (firstRead handle key s).1).run handle
        (firstRead handle key s).2).1 = _) ∨ (_ ∧ Outcome _ delta
          ((found key delta (firstRead handle key s).1).run handle (firstRead handle key s).2).1)
      -- Whatever ends the increment here has not been read as a counter.
      have unread : (∀ bytes value, (firstRead handle key s).1 = .ok bytes →
          countOf? (.ok bytes) ≠ some value) → ¬ Lapses handle key s := by
        intro hnot lapses
        obtain ⟨bytes, value, hbytes, hvalue⟩ := lapses.counted
        exact hnot bytes value hbytes hvalue
      rcases found_cases key delta (firstRead handle key s).1 with ⟨habsent, hfound⟩ |
        ⟨bytes, value, hbytes, hvalue, hfound⟩ | ⟨e, hne, herror, hfound⟩ | ⟨hnone, fault, hfound⟩
      · rw [hfound, habsent]
        exact Or.inr ⟨unread (by simp [habsent]), run_adding h _ rfl none⟩
      · rw [hfound, hvalue, Dialogue.run_ask]
        rw [hbytes] at hvalue
        cases hgone : (handle (.ttl key) (firstRead handle key s).2).1 with
        | ok remaining =>
            refine Or.inr ⟨?_, run_adding h _ rfl remaining⟩
            intro lapses
            rw [lapses.gone] at hgone
            cases hgone
        | error e =>
            rcases h.ttl _ _ hgone with rfl | hfault
            · exact Or.inl ⟨⟨hlock, ⟨bytes, value, hbytes, hvalue⟩, hgone⟩, rfl⟩
            · refine Or.inr ⟨?_, .failed hfault⟩
              intro lapses
              rw [lapses.gone] at hgone
              obtain ⟨fault, rfl⟩ := hfault
              cases hgone
      · rw [hfound]
        refine Or.inr ⟨unread (by simp [herror]), .failed ?_⟩
        exact (h.getBytes _ _ herror).resolve_left hne
      · rw [hfound]
        refine Or.inr ⟨unread ?_, .refused fault⟩
        intro bytes value hbytes
        rw [hbytes] at hnone
        simp [hnone]

end Body

/-! ## The transaction of an increment -/

section Transaction

variable {σ : Type} {b : Backend σ} {given : Instant} {key : String}

/-- A kind of store of which transactions fail to begin and to end with failures of the store. -/
structure Reliable (b : Backend σ) (given : Instant) (key : String) : Prop where
  begin : ∀ s e, (b.begin s).1 = .error e → Failed e
  within : ∀ c, Answering (b.within given c) key
  commit : ∀ c s e, (b.commit c s).1 = .error e → Failed e

/-- The end of a transaction leaves an outcome as it is, or fails itself. -/
theorem Outcome.finish (reliable : Reliable b given key) {count? : Option Int} {delta : Int}
    {r : Result Int} (h : Outcome count? delta r) (c : Connection) (s : σ) :
    Outcome count? delta (b.finish c r s).1 := by
  cases h with
  | counted known =>
      unfold Backend.finish
      cases hcommit : b.commit c s with
      | mk ended s' =>
          cases ended with
          | ok u => exact .counted known
          | error e => exact .failed (reliable.commit c s e (by rw [hcommit]))
  | failed fault => exact .failed fault
  | refused fault => exact .refused fault

/-- An increment does not find its key exactly if its transaction begins and the key lapses. -/
theorem perform_cases (reliable : Reliable b given key) (delta : Int) (s : σ) :
    (∃ e s', b.begin s = (.error e, s') ∧ Failed e ∧
      (b.perform given (increment key delta) s).1 = .error e) ∨
    ∃ c s', b.begin s = (.ok c, s') ∧
      ((Lapses (b.within given c) key s' ∧
          (b.perform given (increment key delta) s).1 = .error .notFound) ∨
        (¬ Lapses (b.within given c) key s' ∧
          Outcome (countOf? (firstRead (b.within given c) key s').1) delta
            (b.perform given (increment key delta) s).1)) := by
  show (∃ e s', _ ∧ _ ∧ (b.transaction given (body key delta) s).1 = _) ∨
    ∃ c s', _ ∧ ((_ ∧ (b.transaction given (body key delta) s).1 = _) ∨
      (_ ∧ Outcome _ _ (b.transaction given (body key delta) s).1))
  unfold Backend.transaction
  cases hbegin : b.begin s with
  | mk begun s' =>
      cases begun with
      | error e => exact Or.inl ⟨e, s', rfl, reliable.begin s e (by rw [hbegin]), rfl⟩
      | ok c =>
          refine Or.inr ⟨c, s', rfl, ?_⟩
          rcases run_body_cases (reliable.within c) delta s' with ⟨lapses, hrun⟩ | ⟨hnot, outcome⟩
          · refine Or.inl ⟨lapses, ?_⟩
            simp only [hrun]
            rfl
          · exact Or.inr ⟨hnot, outcome.finish reliable c _⟩

/-- When a key lapses, and what it counts as, is known of the states in which a transaction
begins. -/
theorem perform_iff (reliable : Reliable b given key) (delta : Int) {s : σ} {lapses : Prop}
    {count? : Option Int}
    (hlapses : ∀ c s', b.begin s = (.ok c, s') → (Lapses (b.within given c) key s' ↔ lapses))
    (hcount : ∀ c s', b.begin s = (.ok c, s') →
      countOf? (firstRead (b.within given c) key s').1 = count?) :
    ((b.perform given (increment key delta) s).1 = .error .notFound ↔
      (∃ c, (b.begin s).1 = .ok c) ∧ lapses) ∧
    ((b.perform given (increment key delta) s).1 ≠ .error .notFound →
      Outcome count? delta (b.perform given (increment key delta) s).1) := by
  rcases perform_cases reliable delta s with ⟨e, s', hbegin, ⟨fault, rfl⟩, hresult⟩ |
    ⟨c, s', hbegin, hcases⟩
  · rw [hresult, hbegin]
    refine ⟨?_, fun _ => .failed ⟨fault, rfl⟩⟩
    simp
  · rw [hlapses c s' hbegin, hcount c s' hbegin] at hcases
    rcases hcases with ⟨hlapses, hresult⟩ | ⟨hnot, outcome⟩
    · rw [hresult, hbegin]
      exact ⟨iff_of_true rfl ⟨⟨c, rfl⟩, hlapses⟩, fun hne => absurd rfl hne⟩
    · exact ⟨iff_of_false outcome.ne_notFound fun h => hnot h.2, fun _ => outcome⟩

end Transaction

/-! ## On a database -/

section Database

variable {d : Database} {clock : Nat → Instant} {given : Instant} {key : String}

/-- An operation with arguments in order fails as it does on some tables, or the store fails. -/
theorem applyInside_error {now : Instant} {op : Operation} (hop : op.refusal? = none)
    {e : CacheError} (h : (d.applyInside now op).1 = .error e) :
    Failed e ∨ ∃ s : Store, (s.apply now op).1 = .error e := by
  unfold Database.applyInside at h
  rw [hop] at h
  cases hfault : d.absence? op.table? <|> d.writeFault? op.isWrite with
  | some fault =>
      rw [hfault] at h
      exact Or.inl ⟨fault, (Except.error.inj h).symm⟩
  | none =>
      rw [hfault] at h
      cases hdraft : d.draft with
      | some draft =>
          rw [hdraft] at h
          exact Or.inr ⟨draft.store, h⟩
      | none =>
          simp only [hdraft, Option.map_none, Option.orElse_eq_orElse, Option.orElse_none,
            Database.apply, hop, Database.direct] at h
          split at h
          · next fault _ => exact Or.inl ⟨fault, (Except.error.inj h).symm⟩
          · exact Or.inr ⟨d.committed, h⟩

theorem reliable_database (given : Instant) (key : String) :
    Reliable Database.backend.ticking given key where
  begin := by
    rintro ⟨d, clock⟩ e h
    cases hbegin : d.begin with
    | mk begun d' =>
        have hresult : (Database.backend.ticking.begin (d, clock)).1 =
            (d.begin.1).map fun _ => ⟨true⟩ := rfl
        rw [hresult, hbegin] at h
        cases begun with
        | ok u => cases h
        | error e' =>
            obtain rfl := Except.error.inj h
            exact ⟨d.lockFault, Database.eq_lockFault_of_begin_error hbegin⟩
  within c :=
    { lock := by
        intro s e h
        rcases applyInside_error rfl h with hfault | ⟨t, ht⟩
        · exact hfault
        · cases ht
      getBytes := by
        intro s e h
        rcases applyInside_error rfl h with hfault | ⟨t, ht⟩
        · exact Or.inr hfault
        · simp only [Store.apply] at ht
          split at ht
          · cases ht
          · exact Or.inl (Except.error.inj ht).symm
      ttl := by
        intro s e h
        rcases applyInside_error rfl h with hfault | ⟨t, ht⟩
        · exact Or.inr hfault
        · simp only [Store.apply] at ht
          split at ht
          · cases ht
          · exact Or.inl (Except.error.inj ht).symm
      set := by
        intro value ttl s e h
        rcases applyInside_error rfl h with hfault | ⟨t, ht⟩
        · exact hfault
        · cases ht }
  commit := by
    intro c s e h
    cases h

/-- The first request of an increment finds what is live at the second reading of its clock. -/
theorem firstRead_database (c : Connection) (given : Instant) (key : String)
    (clock : Nat → Instant) (hd : d.draft = some ⟨d.committed, []⟩) :
    firstRead (Database.backend.ticking.within given c) key (d, clock) =
      ((d.committed.apply (clock 1) (.getBytes key)).1, d, fun n => clock (n + 2)) := by
  have hlock : Database.backend.ticking.within given c (.lock key) (d, clock) =
      (.ok (), d, fun n => clock (n + 1)) := by
    show ((d.applyInside (clock 0) (.lock key)).1, (d.applyInside (clock 0) (.lock key)).2, _) = _
    rw [Database.applyInside_of_begun hd rfl rfl]
    rfl
  rw [firstRead, hlock]
  show ((d.applyInside (clock 1) (.getBytes key)).1, (d.applyInside (clock 1) (.getBytes key)).2,
    _) = _
  rw [Database.applyInside_of_begun hd rfl rfl]

/-- Where connections share nothing an increment fails: a transaction is open, or it does not find
the table that its key would be in. -/
theorem failed_of_sharing_eq_nothing (hnothing : d.sharing = .nothing) (delta : Int) :
    ∃ fault, (Database.backend.ticking.perform given (increment key delta) (d, clock)).1 =
      .error (.store fault) := by
  have hperform : Database.backend.ticking.perform given (increment key delta) (d, clock) =
      Database.backend.ticking.transaction given (body key delta) (d, clock) := rfl
  rw [hperform]
  cases hd : d.draft with
  | some draft =>
      have hlocked : d.begin = (.error (.store d.lockFault), d) := by rw [Database.begin, hd]
      refine ⟨d.lockFault, ?_⟩
      rw [Backend.ticking_transaction, Database.backend_begin_eq hlocked]
      rfl
  | none =>
      have apart : d.Apart := ⟨hd, hnothing⟩
      refine ⟨.noTable Store.Table.scalars.name, ?_⟩
      rw [apart.ticking_transaction_eq]
      exact run_body_attendApart key delta clock

theorem countOf?_getBytes (s : Store) (now : Instant) (key : String) :
    countOf? (s.apply now (.getBytes key)).1 = valueOf? (s.live? now.millis key) := by
  simp only [Store.apply]
  cases s.live? now.millis key with
  | none => rfl
  | some row => rfl

/-- A key lapses in a database if it is live when it is read and not when it is asked for again. -/
theorem lapses_database_iff (c : Connection) (given : Instant) (key : String)
    (clock : Nat → Instant) (hd : d.draft = some ⟨d.committed, []⟩) :
    Lapses (Database.backend.ticking.within given c) key (d, clock) ↔
      ∃ row value, d.committed.live? (clock 1).millis key = some row ∧
        valueOf? (some row) = some value ∧ d.committed.live? (clock 2).millis key = none := by
  have hfirst := firstRead_database c given key clock hd
  have hsecond : (Database.backend.ticking.within given c (.ttl key)
      (d, fun n => clock (n + 2))).1 = (d.committed.apply (clock 2) (.ttl key)).1 := by
    show (d.applyInside (clock 2) (.ttl key)).1 = _
    rw [Database.applyInside_of_begun hd rfl rfl]
  constructor
  · intro lapses
    obtain ⟨bytes, value, hbytes, hvalue⟩ := lapses.counted
    have hgone := lapses.gone
    rw [hfirst] at hbytes hgone
    rw [hsecond] at hgone
    simp only [Store.apply] at hbytes hgone
    cases hrow : d.committed.live? (clock 1).millis key with
    | none =>
        rw [hrow] at hbytes
        cases hbytes
    | some row =>
        rw [hrow] at hbytes
        obtain rfl := Except.ok.inj hbytes
        refine ⟨row, value, rfl, hvalue, ?_⟩
        cases hlater : d.committed.live? (clock 2).millis key with
        | none => rfl
        | some row' =>
            rw [hlater] at hgone
            cases hgone
  · rintro ⟨row, value, hrow, hvalue, hgone⟩
    refine ⟨?_, ⟨row.value, value, ?_, hvalue⟩, ?_⟩
    · show (d.applyInside (clock 0) (.lock key)).1 = _
      rw [Database.applyInside_of_begun hd rfl rfl]
      rfl
    · rw [hfirst]
      simp only [Store.apply, hrow]
    · rw [hfirst, hsecond]
      simp only [Store.apply, hgone]

end Database

/-! ## On a server -/

section Server

open Postgres Exchange

variable {l : Link} {clock : Nat → Instant} {given : Instant} {c : Connection} {key : String}

/-- The answer of a script to a statement with placeholders, counted from 0. -/
def scripted (replies : List Scripted) (n : Nat) : Result Rows :=
  match replies[n]? with
  | none => .ok ⟨[], 0⟩
  | some (.rows rows affected) => .ok ⟨rows, affected.getD rows.length⟩
  | some .failure => .error (.store .statementFailed)

theorem scripted_tail (replies : List Scripted) (n : Nat) :
    scripted replies.tail n = scripted replies (n + 1) := by
  rw [scripted, scripted, List.getElem?_tail]

theorem failed_of_scripted_eq_error {replies : List Scripted} {n : Nat} {e : CacheError}
    (h : scripted replies n = .error e) : Failed e := by
  unfold scripted at h
  split at h
  · cases h
  · cases h
  · exact ⟨.statementFailed, (Except.error.inj h).symm⟩

theorem answer_eq (s : Server) (c : Connection) (st : Postgres.Statement) :
    s.answer c st = (scripted s.replies 0, { s.note c st with replies := s.replies.tail }) := by
  cases hreplies : s.replies with
  | nil => simp only [Server.answer, Server.note, hreplies, scripted, List.tail_nil,
      List.getElem?_nil]
  | cons first rest =>
      cases first <;> simp only [Server.answer, Server.note, hreplies, scripted, List.tail_cons,
        List.getElem?_cons_zero]

/-- An operation of one statement is answered by the next answer of the script. -/
theorem within_of_run (l : Link) (c : Connection) (given : Instant) (clock : Nat → Instant)
    {op : Operation} {st : Postgres.Statement} {f : Result Rows → op.Reply}
    (hrun : (ofOperation (clock 0) op).run = .ask st fun r => .done (f r)) :
    ∃ l', Link.backend.ticking.within given c op (l, clock) =
        (f (scripted l.server.replies 0), l', fun n => clock (n + 1)) ∧
      l'.server.replies = l.server.replies.tail := by
  refine ⟨{ l with server := { l.server.note c st with replies := l.server.replies.tail } },
    ?_, rfl⟩
  show ((l.exchange c (ofOperation (clock 0) op)).1, (l.exchange c (ofOperation (clock 0) op)).2,
    _) = _
  rw [Link.exchange, hrun, Dialogue.run_ask, answer_eq]
  rfl

theorem failed_of_map_eq_error {r : Result Rows} {e : CacheError}
    (hr : ∀ e, r = .error e → Failed e) (h : r.map (fun _ => ()) = .error e) : Failed e := by
  cases r with
  | ok rows => cases h
  | error e' => exact Except.error.inj h ▸ hr e' rfl

theorem optionalRow_error {α : Type} {read : Row → α} {r : Result Rows} {e : CacheError}
    (hr : ∀ e, r = .error e → Failed e) (h : optionalRow read r = .error e) :
    e = .notFound ∨ Failed e := by
  unfold optionalRow at h
  split at h
  · exact Or.inl (Except.error.inj h).symm
  · cases h
  · exact Or.inr ⟨.unexpectedRowCount, (Except.error.inj h).symm⟩
  · next e' => exact Or.inr (Except.error.inj h ▸ hr e' rfl)

theorem control_error {s : Server} {sql : String} {e : CacheError}
    (h : (s.control c sql).1 = .error e) : Failed e := by
  simp only [Server.control] at h
  split at h
  · exact ⟨.statementFailed, (Except.error.inj h).symm⟩
  · cases h

/-- A transaction is not begun on a closed pool, or if its start is refused. -/
theorem failed_of_begin_eq_error {l' : Link} {e : CacheError} (h : l.begin = (.error e, l')) :
    Failed e := by
  unfold Link.begin at h
  split at h
  · next e' pool htake =>
      cases h
      unfold Pool.take at htake
      split at htake
      · exact ⟨.poolClosed, (Except.error.inj (Prod.mk.inj htake).1).symm⟩
      · split at htake <;> cases htake
  · next c pool _ =>
      split at h
      · cases h
      · next e' server hrefused =>
          have hfault : Failed e' := control_error (congrArg Prod.fst hrefused)
          split at h
          · cases h
            exact hfault
          · cases h
            exact hfault

theorem reliable_link (given : Instant) (key : String) :
    Reliable Link.backend.ticking given key where
  begin := by
    rintro ⟨l, clock⟩ e h
    have hbegin : l.begin.1 = .error e := h
    exact failed_of_begin_eq_error (Prod.ext hbegin rfl)
  within c :=
    { lock := by
        rintro ⟨l, clock⟩ e h
        obtain ⟨l', hwithin, -⟩ := within_of_run l c given clock
          (run_lock (clock 0) key)
        rw [hwithin] at h
        exact failed_of_map_eq_error (fun _ => failed_of_scripted_eq_error) h
      getBytes := by
        rintro ⟨l, clock⟩ e h
        obtain ⟨l', hwithin, -⟩ := within_of_run l c given clock
          (run_getBytes (clock 0) key)
        rw [hwithin] at h
        exact optionalRow_error (fun _ => failed_of_scripted_eq_error) h
      ttl := by
        rintro ⟨l, clock⟩ e h
        obtain ⟨l', hwithin, -⟩ := within_of_run l c given clock
          (run_ttl (clock 0) key)
        rw [hwithin] at h
        exact optionalRow_error (fun _ => failed_of_scripted_eq_error) h
      set := by
        rintro value ttl ⟨l, clock⟩ e h
        obtain ⟨l', hwithin, -⟩ := within_of_run l c given clock
          (run_set (clock 0) key value ttl)
        rw [hwithin] at h
        exact failed_of_map_eq_error (fun _ => failed_of_scripted_eq_error) h }
  commit := by
    rintro c ⟨l, clock⟩ e h
    have hcommit : (Link.backend.ticking.commit c (l, clock)).1 = (l.finish "COMMIT" c).1 := rfl
    rw [hcommit, (finish_server "COMMIT" c l).1] at h
    exact control_error h

theorem begin_replies {l' : Link} (h : l.begin = (.ok c, l')) :
    l'.server.replies = l.server.replies := by
  have hcontrol (s : Server) (c : Connection) (sql : String) :
      (s.control c sql).2.replies = s.replies := by
    simp only [Server.control]
    split <;> rfl
  unfold Link.begin at h
  split at h
  · cases h
  · next c' pool _ =>
      have hstart := hcontrol l.server c' startTransaction
      split at h
      · next server haccepted =>
          cases h
          rw [haccepted] at hstart
          exact hstart
      · split at h <;> cases h

/-- The first request of an increment is answered by the second answer of the script. -/
theorem firstRead_link (l : Link) (c : Connection) (given : Instant) (key : String)
    (clock : Nat → Instant) : ∃ l',
    firstRead (Link.backend.ticking.within given c) key (l, clock) =
      (optionalRow (fun row => (row.column 0).toBytes) (scripted l.server.replies 1), l',
        fun n => clock (n + 2)) ∧
      l'.server.replies = l.server.replies.tail.tail := by
  obtain ⟨l₁, hlock, hrest⟩ := within_of_run l c given clock (run_lock (clock 0) key)
  obtain ⟨l₂, hread, hrest'⟩ := within_of_run l₁ c given (fun n => clock (n + 1))
    (run_getBytes (clock 1) key)
  refine ⟨l₂, ?_, by rw [hrest', hrest]⟩
  rw [firstRead, hlock, hread, hrest, scripted_tail]

/-- A script has a key lapse that lets it be locked, answers a row with a counter when it is read,
and no row when its time to live is asked for. -/
theorem lapses_link_iff : Lapses (Link.backend.ticking.within given c) key (l, clock) ↔
    (∃ rows, scripted l.server.replies 0 = .ok rows) ∧
    (∃ row affected value, scripted l.server.replies 1 = .ok ⟨[row], affected⟩ ∧
      countOf? (.ok (row.column 0).toBytes) = some value) ∧
    ∃ affected, scripted l.server.replies 2 = .ok ⟨[], affected⟩ := by
  obtain ⟨l₁, hlock, -⟩ := within_of_run l c given clock (run_lock (clock 0) key)
  obtain ⟨l₂, hread, hrest⟩ := firstRead_link l c given key clock
  obtain ⟨l₃, hgone, -⟩ := within_of_run l₂ c given (fun n => clock (n + 2))
    (run_ttl (clock 2) key)
  rw [hrest, scripted_tail, scripted_tail] at hgone
  constructor
  · intro lapses
    have hlocked := lapses.locked
    obtain ⟨bytes, value, hbytes, hvalue⟩ := lapses.counted
    have hlapsed := lapses.gone
    rw [hlock] at hlocked
    rw [hread] at hbytes hlapsed
    rw [hgone] at hlapsed
    refine ⟨?_, ?_, ?_⟩
    · cases hfirst : scripted l.server.replies 0 with
      | ok rows => exact ⟨rows, rfl⟩
      | error e =>
          rw [hfirst] at hlocked
          cases hlocked
    · simp only [optionalRow] at hbytes
      split at hbytes
      · cases hbytes
      · next row affected hrow =>
          obtain rfl := Except.ok.inj hbytes
          exact ⟨row, affected, value, hrow, hvalue⟩
      · cases hbytes
      · cases hbytes
    · simp only [optionalRow] at hlapsed
      split at hlapsed
      · next affected hrows => exact ⟨affected, hrows⟩
      · cases hlapsed
      · cases hlapsed
      · next e he =>
          obtain ⟨fault, rfl⟩ := failed_of_scripted_eq_error he
          cases hlapsed
  · rintro ⟨⟨rows, hfirst⟩, ⟨row, affected, value, hrow, hvalue⟩, ⟨_, hrows⟩⟩
    refine ⟨?_, ⟨(row.column 0).toBytes, value, ?_, hvalue⟩, ?_⟩
    · rw [hlock, hfirst]
      rfl
    · rw [hread, hrow]
      rfl
    · rw [hread, hgone, hrows]
      rfl

end Server

/-! ## When a key is not found -/

/-- An increment fails as if its key did not exist exactly if the key is read as a counter and gone
when its time to live is asked for: on a database that connections share if it expires between two
readings of the clock, on a server if the answers say so. Otherwise it answers the sum of what was
read and its delta, or the store fails, or it is refused. -/
theorem notFound_iff_lapses (key : String) (delta : Int) (given : Instant)
    (clock : Nat → Instant) :
    (∀ d : Database,
      let result := (Database.backend.ticking.perform given (increment key delta) (d, clock)).1
      (result = .error .notFound ↔ d.begin.1 = .ok () ∧ d.sharing ≠ .nothing ∧
        ∃ row value, d.committed.live? (clock 1).millis key = some row ∧
          valueOf? (some row) = some value ∧ d.committed.live? (clock 2).millis key = none) ∧
      (result ≠ .error .notFound →
        Outcome (valueOf? (d.committed.live? (clock 1).millis key)) delta result)) ∧
    ∀ l : Postgres.Link,
      let result := (Postgres.Link.backend.ticking.perform given (increment key delta)
        (l, clock)).1
      (result = .error .notFound ↔ (∃ c, l.begin.1 = .ok c) ∧
        (∃ rows, scripted l.server.replies 0 = .ok rows) ∧
        (∃ row affected value, scripted l.server.replies 1 = .ok ⟨[row], affected⟩ ∧
          countOf? (.ok (row.column 0).toBytes) = some value) ∧
        ∃ affected, scripted l.server.replies 2 = .ok ⟨[], affected⟩) ∧
      (result ≠ .error .notFound →
        Outcome (countOf? (Postgres.Exchange.optionalRow (fun row => (row.column 0).toBytes)
          (scripted l.server.replies 1))) delta result) := by
  refine ⟨fun d => ?_, fun l => ?_⟩
  · by_cases hshared : d.sharing = .nothing
    · obtain ⟨fault, hresult⟩ := failed_of_sharing_eq_nothing hshared delta
      intro result
      rw [show result = .error (.store fault) from hresult]
      exact ⟨by simp [hshared], fun _ => .failed ⟨fault, rfl⟩⟩
    have hbegun : ∀ c s', Database.backend.ticking.begin (d, clock) = (.ok c, s') →
        s' = ({ d with draft := some ⟨d.committed, []⟩ }, clock) := by
      intro c s' hbegin
      have hbegin' : (d.begin.1.map (fun _ => (⟨true⟩ : Connection)), d.begin.2, clock) =
          (.ok c, s') := hbegin
      obtain ⟨hresult, rfl⟩ := Prod.mk.inj hbegin'
      cases hd : d.begin with
      | mk begun d' =>
          rw [hd] at hresult
          cases begun with
          | error e => cases hresult
          | ok u => rw [(Database.of_begin_ok_of_shared hshared hd).2]
    have hok : (∃ c, (Database.backend.ticking.begin (d, clock)).1 = .ok c) ↔
        d.begin.1 = .ok () := by
      show (∃ c, d.begin.1.map (fun _ => (⟨true⟩ : Connection)) = .ok c) ↔ _
      cases d.begin.1 with
      | ok u => exact iff_of_true ⟨_, rfl⟩ rfl
      | error e => exact iff_of_false (by rintro ⟨c, hc⟩; cases hc) (by simp)
    rw [← hok, and_iff_right hshared]
    refine perform_iff (reliable_database given key) delta (fun c s' hbegin => ?_)
      fun c s' hbegin => ?_
    · rw [hbegun c s' hbegin]
      exact lapses_database_iff c given key clock rfl
    · rw [hbegun c s' hbegin, firstRead_database c given key clock rfl]
      exact countOf?_getBytes _ _ _
  · have hbegun : ∀ c s', Postgres.Link.backend.ticking.begin (l, clock) = (.ok c, s') →
        ∃ l', s' = (l', clock) ∧ l'.server.replies = l.server.replies := by
      intro c s' hbegin
      have hbegin' : (l.begin.1, l.begin.2, clock) = (.ok c, s') := hbegin
      obtain ⟨hresult, rfl⟩ := Prod.mk.inj hbegin'
      exact ⟨l.begin.2, rfl, begin_replies (Prod.ext hresult rfl)⟩
    refine perform_iff (reliable_link given key) delta (fun c s' hbegin => ?_)
      fun c s' hbegin => ?_
    · obtain ⟨l', rfl, hreplies⟩ := hbegun c s' hbegin
      rw [lapses_link_iff, hreplies]
    · obtain ⟨l', rfl, hreplies⟩ := hbegun c s' hbegin
      obtain ⟨l₂, hread, -⟩ := firstRead_link l' c given key clock
      rw [hread, hreplies]

/-- A counter that is about to expire. -/
def expiring : Database :=
  { Database.empty .file with committed := Store.empty.set 0 1 "n" "0".toUTF8 }

/-- A clock by which it expires when its time to live is asked for. -/
def meanwhile (i : Nat) : Instant := if i < 2 then ⟨0⟩ else ⟨1000000⟩

/-- A server by whose answers it does. -/
def forgetful : Postgres.Link :=
  { server := { replies := [.rows [] none, .rows [[.bytes "0".toUTF8]] none] } }

theorem notFound_expiring :
    (Database.backend.ticking.perform ⟨0⟩ (increment "n" 1) (expiring, meanwhile)).1 =
        .error .notFound ∧
      (Postgres.Link.backend.ticking.perform ⟨0⟩ (increment "n" 1)
        (forgetful, fun _ => ⟨0⟩)).1 = .error .notFound := by
  refine ⟨?_, ?_⟩
  · rfl
  · rfl

end SqlCache.Counter
