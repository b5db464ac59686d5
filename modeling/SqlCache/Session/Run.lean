import SqlCache.Session.Opening
import SqlCache.Session.Step
import SqlCache.Session.Subscriptions

/-!
Running steps. Main definition: `Session.runAll`, which runs steps one after the other and reports
each answer with the statements that were sent since the report before. Steps in a transaction see
and write its draft; those on a client named by number act outside of it.
-/

set_option autoImplicit false

namespace SqlCache.Session

/-- Where a step acts: on a client, and in a transaction of that client if one is open. -/
structure Scope where
  client : Nat
  connection : Option Connection

namespace Scope

/-- Outside of all transactions of a client. -/
def outside (client : Nat) : Scope := ⟨client, none⟩

/-- What the client keeps its data in. -/
def backend (scope : Scope) (s : Session) : Backend Session :=
  Session.backend (s.client scope.client).endpoint

/-- Carry out a plan. -/
def perform {α : Type} (scope : Scope) (plan : Plan α) (s : Session) : Result α × Session :=
  match scope.connection with
  | none => (scope.backend s).perform s.clock plan s
  | some c => (scope.backend s).performWithin s.clock c plan s

/-- Run increments by one, and order their results. -/
def incrementAtOnce (scope : Scope) (key : String) : (times : Nat) → Session →
    Result (List Int) × Session
  | 0, s => (.ok [], s)
  | times + 1, s =>
    match scope.perform (Counter.increment key 1) s with
    | (.error e, s) => (.error e, s)
    | (.ok n, s) =>
      let (r, s) := incrementAtOnce scope key times s
      (r.map fun ns => (n :: ns).mergeSort fun a b => decide (a ≤ b), s)

/-- Give up what the client holds. Inside of a transaction it holds nothing of its own. -/
def close (scope : Scope) (s : Session) : Session :=
  match scope.connection with
  | some _ => s
  | none =>
    let s := (scope.backend s).close s
    s.setClient scope.client { s.client scope.client with reaper := none }

/-- Subscribe the client, which cannot be done inside of a transaction. -/
def subscribe (scope : Scope) (name channel : String) (subscriber : Option String) (s : Session) :
    Result (String × String) × Session :=
  match scope.connection with
  | some _ => (.error (.validation .subscribeInTransaction), s)
  | none => s.subscribe (s.client scope.client) name channel subscriber

/-- One pass of the reaper, outside of all transactions. -/
def reap (scope : Scope) (retention : Duration) (s : Session) :
    Except Reaper.Failure Reaper.Stats × Session :=
  (scope.backend s).reap s.clock retention s

/-- Let the reaper of the client make a pass, if there is one. -/
def awaitReaper (scope : Scope) (s : Session) : Session :=
  match (s.client scope.client).reaper with
  | none => s
  | some settings => (scope.reap (.ofSeconds settings.messageRetentionSecs) s).2

/-- Carry out a command and put its name to its result. -/
def command (scope : Scope) (c : Command) (s : Session) : Outcome c.Answer × Session :=
  let (result, s) := scope.perform c.plan s
  (⟨c.name, result⟩, s)

end Scope

/-- The registered client. -/
def getRegistered (s : Session) : Result Nat :=
  match s.registered with
  | none => .error .notInitialized
  | some client => .ok client

/-- Close the registered client, and register none. -/
def closeRegistered (s : Session) : Result Unit × Session :=
  match s.registered with
  | none => (.error .notInitialized, s)
  | some client => (.ok (), (Scope.outside client).close { s with registered := none })

/-- Carry out a command on the registered client. -/
def registeredCommand (c : Command) (s : Session) : Result (Outcome c.Answer) × Session :=
  match s.getRegistered with
  | .error e => (.error e, s)
  | .ok client =>
    let (outcome, s) := (Scope.outside client).command c s
    (.ok outcome, s)

/-- The result of a transaction's body whose steps have been run. -/
def bodyResult (stopped failure : Option CacheError) : Result Unit :=
  match stopped, failure with
  | some e, _ => .error e
  | none, some e => .error e
  | none, none => .ok ()

/-- An answer with the statements sent since the last one. -/
def report (answer : Answer) (s : Session) : Reported Answer × Session :=
  let (sent, s) := s.takeRecord
  (⟨answer, sent⟩, s)

/-- Change the session and answer that it is done. -/
def finished (s : Session) : Answer × Session := (.done (.ok ()), s)

mutual

/-- Run a step. -/
def run (scope : Scope) : Step → Session → Answer × Session
  | .on client step, s => run (.outside client) step s
  | .scripted replies refusals step, s =>
    run scope step { s with server := s.server.map (·.rescript replies refusals) }
  | .operate op, s =>
    let (r, s) := scope.perform (.operation op) s
    (.operation op r, s)
  | .getText key, s =>
    let (r, s) := scope.perform (.getText key) s
    (.text r, s)
  | .increment key delta, s =>
    let (r, s) := scope.perform (Counter.increment key delta) s
    (.integer r, s)
  | .incrementAtOnce key times, s =>
    let (r, s) := scope.incrementAtOnce key times s
    (.integers r, s)
  | .transaction steps propagate failure, s =>
    match scope.connection with
    | some _ => (.transaction [] (.error (.validation .nestedTransaction)), s)
    | none =>
      let backend := scope.backend s
      match backend.begin s with
      | (.error e, s) => (.transaction [] (.error e), s)
      | (.ok c, s) =>
        let (reports, stopped, s) := runAll ⟨scope.client, some c⟩ propagate steps s
        let (r, s) := backend.finish c (bodyResult stopped failure) s
        (.transaction reports r, s)
  | .close, s => finished (scope.close s)
  | .subscribe name channel subscriber, s =>
    let (r, s) := scope.subscribe name channel subscriber s
    (.subscribed r, s)
  | .receive name most, s =>
    let (payloads, s) := s.receive name most
    (.payloads payloads, s)
  | .drain name, s =>
    let (payloads, s) := s.drain name
    (.payloads payloads, s)
  | .detach name, s => finished (s.detach name)
  | .reap retention, s =>
    let (r, s) := scope.reap retention s
    (.reaped r, s)
  | .startReaper settings, s =>
    finished (s.setClient scope.client { s.client scope.client with reaper := some settings })
  | .awaitReaper, s => finished (scope.awaitReaper s)
  | .register, s => finished { s with registered := some scope.client }
  | .registered, s => (.registered s.getRegistered, s)
  | .closeRegistered, s =>
    let (r, s) := s.closeRegistered
    (.done r, s)
  | .command c true, s =>
    let (r, s) := s.registeredCommand c
    (.command c r, s)
  | .command c false, s =>
    let (outcome, s) := scope.command c s
    (.command c (.ok outcome), s)
  | .makePipeline, s => finished s
  | .queue name, s => (.queued (Pipeline.queue {} name).1, s)
  | .execPipeline, s => (.done ((Pipeline.exec {}).map fun _ => ()), s)
  | .discardPipeline, s => finished s
  | .pipelineLength, s => (.pipelineLength (Pipeline.length {}), s)
  | .moveClock nanos, s => finished { s with clock := ⟨s.clock.nanos + nanos⟩ }
  | .dump, s => (.rows s.committed, s)
  | .putScalar key row, s =>
    let store := s.committed
    finished (s.setCommitted { store with scalars := store.scalars.insert key row })
  | .putMessage row, s =>
    let store := s.committed
    let id := store.lastMessageId + 1
    finished (s.setCommitted
      { store with messages := store.messages.insert id row, lastMessageId := id })
  | .putCursor channel subscriber row, s =>
    let store := s.committed
    finished (s.setCommitted
      { store with cursors := store.cursors.insert (channel, subscriber) row })
  | .reopen steps, s =>
    let settings : SqliteSettings := { path := s.config.sqlite.path }
    match s.openDatabase settings {} with
    | (.error _, s) => (.unopened, s)
    | (.ok c, s) =>
      let index := s.clients.length
      let (reports, _, s) := runAll (.outside index) false steps
        { s with clients := s.clients ++ [c] }
      (.steps reports, { s with clients := s.clients.take index })

/-- Run steps one after the other. With `propagate` the first failing one is the last. -/
def runAll (scope : Scope) (propagate : Bool) :
    List Step → Session → List (Reported Answer) × Option CacheError × Session
  | [], s => ([], none, s)
  | step :: rest, s =>
    let (answer, s) := run scope step s
    let (report, s) := s.report answer
    match answer.error?, propagate with
    | some e, true => ([report], some e, s)
    | _, _ =>
      let (reports, stopped, s) := runAll scope propagate rest s
      (report :: reports, stopped, s)

end

end SqlCache.Session
