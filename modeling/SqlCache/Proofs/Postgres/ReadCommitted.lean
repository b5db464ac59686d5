import Mathlib.Logic.Function.Basic
import SqlCache.Counter
import SqlCache.Proofs.Postgres.Queries
import SqlCache.Proofs.Postgres.Statements

/-!
Increments of one key on a server that keeps data, each on a connection of its own. Transactions are
at the level READ COMMITTED: a statement sees what was committed when it began and what its own
transaction has written, and a lock that a transaction has been granted is held until that
transaction ends. Between any two moves of a call others can make theirs. What is done to other keys
is left open; the key itself is written by increments alone, and purged once it has expired.
-/

set_option autoImplicit false

namespace SqlCache.Postgres

/-- The rows of keys, with times in microseconds. -/
abbrev Keys := String → Option ScalarRow

/-- Rows of a transaction's own before those of others. -/
def overlay (own others : Keys) : Keys := fun key => (own key).or (others key)

theorem overlay_of_none {own others : Keys} {key : String} (h : own key = none) :
    overlay own others key = others key := by
  rw [overlay, h, Option.none_or]

theorem overlay_of_some {own others : Keys} {key : String} {row : ScalarRow}
    (h : own key = some row) : overlay own others key = some row := by
  rw [overlay, h, Option.some_or]

namespace Query

/-- The answer to a query, by what its statement sees. -/
def answer (seen : Keys) : Query → Rows
  | lock _ => ⟨[[.bytes .empty]], 1⟩
  | read key now =>
    match (seen key).filter (ScalarRow.isLive now) with
    | some row => ⟨[[.bytes row.value]], 1⟩
    | none => ⟨[], 0⟩
  | expiry key now =>
    match (seen key).filter (ScalarRow.isLive now) with
    | some row => ⟨[[.int row.expireAt]], 1⟩
    | none => ⟨[], 0⟩
  | write .. => ⟨[], 1⟩

/-- What a transaction has written after a query. A key that has a row keeps the time of its
creation, whether or not the statement sees it. -/
def written (current own : Keys) : Query → Keys
  | write key value expireAt now =>
    let createdAt := ((current key).map ScalarRow.createdAt).getD now
    Function.update own key (some ⟨value, expireAt, createdAt, now⟩)
  | lock _ | read .. | expiry .. => own

/-- Does the query wait for a key to be free? -/
def isLock : Query → Bool
  | lock _ => true
  | read .. | expiry .. | write .. => false

end Query

namespace ReadCommitted

/-- An increment that is under way on a connection. -/
structure Call where
  delta : Int
  /-- What is left of its statements. -/
  rest : Dialogue Statement Statement.Reply (Result Int)
  /-- What was committed when the statement began that is being carried out. -/
  begun : Option Keys
  /-- Has it been granted the lock? -/
  holds : Bool
  /-- What its transaction has written. -/
  own : Keys

/-- A server, and the increments that are under way on its connections. -/
structure Connections where
  committed : Keys
  calls : Nat → Option Call

/-- A move. -/
inductive Event where
  /-- An increment is called for, and its transaction started. -/
  | start (connection : Nat) (delta : Int)
  /-- The next statement begins. -/
  | send (connection : Nat) (q : Query)
  /-- The statement is answered. -/
  | answer (connection : Nat) (q : Query)
  /-- The statement fails. -/
  | fail (connection : Nat) (q : Query)
  /-- The transaction ends, and with it the increment. It has succeeded if it is committed, even if
  the connection breaks off before anybody is told. -/
  | finish (connection : Nat) (delta : Int) (result : Result Int)
  /-- Somebody writes other keys. -/
  | elsewhere
  /-- The keys that have expired are removed. -/
  | purge (now : Int)

namespace Event

/-- The delta of an increment that succeeds with a move. -/
def delta? : Event → Option Int
  | finish _ delta (.ok _) => some delta
  | _ => none

/-- What an increment answers that succeeds with a move. -/
def value? : Event → Option Int
  | finish _ _ (.ok value) => some value
  | _ => none

/-- The times at which a move asks whether the key is live, apart from its expiry. -/
def readings : Event → List Int
  | send _ (.read _ now) | purge now => [now]
  | _ => []

end Event

/-- An increment whose transaction has been started. -/
def Call.started (key : String) (delta : Int) (clock : Nat → Instant) : Call where
  delta
  rest := statements clock (Counter.body key delta).run
  begun := none
  holds := false
  own _ := none

/-- The call on a connection has come to another state, or to its end. -/
def Connections.put (s : Connections) (h : Nat) (call? : Option Call) : Connections :=
  { s with calls := Function.update s.calls h call? }

/-- One move. -/
inductive Step (key : String) : Connections → Event → Connections → Prop where
  | start {s : Connections} {h : Nat} {delta : Int} (clock : Nat → Instant)
      (free : s.calls h = none) :
      Step key s (.start h delta) (s.put h (some (.started key delta clock)))
  | send {s : Connections} {h : Nat} {q : Query} {c : Call}
      {next : Result Rows → Dialogue Statement Statement.Reply (Result Int)}
      (runs : s.calls h = some c) (asks : c.rest = .ask q.statement next) (idle : c.begun = none) :
      Step key s (.send h q) (s.put h (some { c with begun := some s.committed }))
  /-- A lock is granted when no other transaction holds it. -/
  | answer {s : Connections} {h : Nat} {q : Query} {c : Call} {begun : Keys}
      {next : Result Rows → Dialogue Statement Statement.Reply (Result Int)}
      (runs : s.calls h = some c) (asks : c.rest = .ask q.statement next)
      (sent : c.begun = some begun)
      (granted : q.isLock = true → ∀ k other, s.calls k = some other → other.holds = true → k = h) :
      Step key s (.answer h q) (s.put h (some { c with
        rest := next (.ok (q.answer (overlay c.own begun)))
        begun := none
        holds := c.holds || q.isLock
        own := q.written (overlay c.own s.committed) c.own }))
  | fail {s : Connections} {h : Nat} {q : Query} {c : Call}
      {next : Result Rows → Dialogue Statement Statement.Reply (Result Int)}
      (runs : s.calls h = some c) (asks : c.rest = .ask q.statement next) :
      Step key s (.fail h q) (s.put h (some { c with
        rest := next (.error (.store .statementFailed))
        begun := none }))
  | commit {s : Connections} {h : Nat} {c : Call} {value : Int} (runs : s.calls h = some c)
      (ended : c.rest = .done (.ok value)) :
      Step key s (.finish h c.delta (.ok value))
        { s.put h none with committed := overlay c.own s.committed }
  | rollback {s : Connections} {h : Nat} {c : Call} {e : CacheError} (runs : s.calls h = some c)
      (ended : c.rest = .done (.error e)) :
      Step key s (.finish h c.delta (.error e)) (s.put h none)
  /-- A connection can break off, and a commit be refused. -/
  | breakOff {s : Connections} {h : Nat} {c : Call} {fault : StoreFault}
      (runs : s.calls h = some c) :
      Step key s (.finish h c.delta (.error (.store fault))) (s.put h none)
  | elsewhere {s : Connections} {others : Keys} (same : others key = s.committed key) :
      Step key s .elsewhere { s with committed := others }
  | purge {s : Connections} (now : Int) :
      Step key s (.purge now)
        { s with committed := fun k => (s.committed k).filter (ScalarRow.isLive now) }

/-- Moves one after the other during which the key does not expire: whenever a statement begins that
reads it, or what has expired is removed, it is live if it was so at the start (`live`) or an
increment has succeeded since, and only then. -/
inductive Run (key : String) : Bool → Connections → List Event → Connections → Prop where
  | nil (live : Bool) (s : Connections) : Run key live s [] s
  | cons {live : Bool} {s t u : Connections} {e : Event} {es : List Event} (step : Step key s e t)
      (unexpired : ∀ now ∈ e.readings,
        ((s.committed key).filter (ScalarRow.isLive now)).isSome = live)
      (rest : Run key (live || e.value?.isSome) t es u) : Run key live s (e :: es) u

end ReadCommitted

end SqlCache.Postgres
