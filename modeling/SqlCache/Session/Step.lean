import SqlCache.Session.Basic

/-!
What a session can be asked to do, and what it answers. A step acts on the client at hand, which is
the transaction's inside of a transaction, unless it names another one.
-/

set_option autoImplicit false

namespace SqlCache

/-- A value that comes with the statements sent for it. -/
structure Reported (α : Type) where
  value : α
  sent : List Postgres.Sent

namespace Session

/-- One step of a session. -/
inductive Step where
  /-- A step on a client, outside of the open transaction. -/
  | on (client : Nat) (step : Step)
  /-- A step before which the server's script is replaced. -/
  | scripted (replies : Option (List Postgres.Scripted)) (refusals : Option (List String))
    (step : Step)
  | operate (op : Operation)
  /-- The text stored at a key. -/
  | getText (key : String)
  | increment (key : String) (delta : Int)
  /-- As many increments by one at the same time. -/
  | incrementAtOnce (key : String) (times : Nat)
  /-- A body of steps in a transaction. With `propagate` the first failing step ends the body and
  fails it; otherwise the body fails with `failure`, if that is given. -/
  | transaction (steps : List Step) (propagate : Bool) (failure : Option CacheError)
  | close
  | subscribe (name channel : String) (subscriber : Option String)
  | receive (name : String) (most : Nat)
  | drain (name : String)
  | detach (name : String)
  | reap (retention : Duration)
  | startReaper (settings : ReaperSettings)
  /-- Wait until the reaper of the client has made a pass. -/
  | awaitReaper
  /-- Register the client. -/
  | register
  /-- Which client is registered? -/
  | registered
  /-- Close the registered client, and register none. -/
  | closeRegistered
  /-- A command, on the client at hand or on the registered one. -/
  | command (c : Command) (registered : Bool)
  | makePipeline
  | queue (name : String)
  | execPipeline
  | discardPipeline
  | pipelineLength
  | moveClock (nanos : Int)
  /-- The committed rows of the configured file. -/
  | dump
  | putScalar (key : String) (row : ScalarRow)
  | putMessage (row : MessageRow)
  | putCursor (channel subscriber : String) (row : CursorRow)
  /-- Steps on another client, opened on the configured database. -/
  | reopen (steps : List Step)

/-- The answer to a step. -/
inductive Answer where
  | operation (op : Operation) (reply : op.Reply)
  | text (result : Result String)
  | integer (result : Result Int)
  | integers (result : Result (List Int))
  | transaction (steps : List (Reported Answer)) (result : Result Unit)
  | done (result : Result Unit)
  /-- The channel and the subscriber. -/
  | subscribed (result : Result (String × String))
  | payloads (payloads : List String)
  | reaped (result : Except Reaper.Failure Reaper.Stats)
  | registered (result : Result Nat)
  | command (c : Command) (result : Result (Outcome c.Answer))
  | queued (outcome : Outcome String)
  | pipelineLength (length : Nat)
  | rows (store : Store)
  | unopened
  | steps (reports : List (Reported Answer))

/-- The error of a result. -/
def errorOf? {α : Type} : Result α → Option CacheError
  | .ok _ => none
  | .error e => some e

/-- The error that a step failed with. -/
def Answer.error? : Answer → Option CacheError
  | operation _ r => errorOf? r
  | text r => errorOf? r
  | integer r => errorOf? r
  | integers r => errorOf? r
  | done r => errorOf? r
  | subscribed r => errorOf? r
  | reaped (.error (.store e)) => some e
  | registered r => errorOf? r
  | command _ r => errorOf? r
  | _ => none

end Session

end SqlCache
