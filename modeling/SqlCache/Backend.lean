import SqlCache.Plan
import SqlCache.PubSub.Log
import SqlCache.Reaper.Pass

/-!
What every kind of store offers to the cache: operations, transactions, the message log and purges.
A transaction runs on a connection of its own; its body takes effect if it succeeds and `commit`
does too, and has no effect otherwise. Main definitions: `Backend.transaction` and
`Backend.perform`.
-/

set_option autoImplicit false

namespace SqlCache

/-- A connection, and whether a transaction is open on it. -/
structure Connection where
  inTransaction : Bool
  deriving DecidableEq, Repr

/-- A kind of store with states `σ`. -/
structure Backend (σ : Type) where
  /-- An operation outside of transactions. -/
  operate : Instant → (op : Operation) → σ → op.Reply × σ
  /-- Open a transaction. -/
  begin : σ → Result Connection × σ
  /-- An operation in a transaction. -/
  within : Instant → Connection → (op : Operation) → σ → op.Reply × σ
  /-- End a transaction and keep what it did. -/
  commit : Connection → σ → Result Unit × σ
  /-- End a transaction and drop what it did. -/
  rollback : Connection → σ → σ
  /-- A call on the message log. -/
  log : Instant → (call : PubSub.LogCall) → σ → call.Reply × σ
  /-- A purge. -/
  purge : (call : Reaper.PurgeCall) → σ → call.Reply × σ
  /-- Give up what the client holds. -/
  close : σ → σ

namespace Backend

variable {σ τ α : Type} (b : Backend σ)

/-- End a transaction as the result of its body asks for. The error of the body is the error of the
transaction, whatever becomes of the rollback. -/
def finish (c : Connection) (result : Result α) (s : σ) : Result α × σ :=
  match result with
  | .ok a =>
    match b.commit c s with
    | (.ok (), s) => (.ok a, s)
    | (.error e, s) => (.error e, s)
  | .error e => (.error e, b.rollback c s)

/-- Run a body in a transaction of its own. -/
def transaction (now : Instant) (body : Body α) (s : σ) : Result α × σ :=
  match b.begin s with
  | (.error e, s) => (.error e, s)
  | (.ok c, s) =>
    let (result, s) := body.run.run (b.within now c) s
    b.finish c result s

/-- Carry out a plan. -/
def perform (now : Instant) (plan : Plan α) (s : σ) : Result α × σ :=
  match plan with
  | .answer result => (result, s)
  | .single op read =>
    let (reply, s) := b.operate now op s
    (reply.bind read, s)
  | .atomic body => b.transaction now body s

/-- Carry out a plan in an open transaction, where no other one can be opened. -/
def performWithin (now : Instant) (c : Connection) (plan : Plan α) (s : σ) : Result α × σ :=
  match plan with
  | .answer result => (result, s)
  | .single op read =>
    let (reply, s) := b.within now c op s
    (reply.bind read, s)
  | .atomic _ => (.error (.validation .nestedTransaction), s)

/-- One pass of the reaper. -/
def reap (now : Instant) (retention : Duration) (s : σ) :
    Except Reaper.Failure Reaper.Stats × σ :=
  (Reaper.pass now retention).run.run b.purge s

/-- A store that is a part of a larger state. -/
def through (get : τ → σ) (put : σ → τ → τ) : Backend τ :=
  let lift {β : Type} (act : σ → β × σ) (t : τ) : β × τ :=
    let (r, s) := act (get t)
    (r, put s t)
  { operate := fun now op => lift (b.operate now op)
    begin := lift b.begin
    within := fun now c op => lift (b.within now c op)
    commit := fun c => lift (b.commit c)
    rollback := fun c t => put (b.rollback c (get t)) t
    log := fun now call => lift (b.log now call)
    purge := fun call => lift (b.purge call)
    close := fun t => put (b.close (get t)) t }

end Backend

end SqlCache
