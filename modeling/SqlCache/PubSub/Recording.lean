import SqlCache.PubSub.Log

/-!
A message log that records every call with its time and refuses calls when told to.
-/

set_option autoImplicit false

namespace SqlCache.PubSub

/-- The kinds of calls on a log. -/
inductive CallKind where
  | attach
  | fetch
  | advance
  | detach
  deriving DecidableEq, Repr

/-- The name of a kind of calls. -/
def CallKind.name : CallKind → String
  | attach => "attach"
  | fetch => "fetch"
  | advance => "advance"
  | detach => "detach"

/-- The kind of a call. -/
def LogCall.kind : LogCall → CallKind
  | attach .. => .attach
  | fetchAfter .. => .fetch
  | advance .. => .advance
  | detach .. => .detach

/-- What became of a recorded call. -/
inductive CallOutcome where
  | attached (cursor : Int)
  | fetched (messages : Nat)
  | done
  | refused
  deriving DecidableEq, Repr

/-- A recorded call. -/
structure CallRecord where
  time : Nat
  call : LogCall
  outcome : CallOutcome
  deriving DecidableEq, Repr

/-- A log in memory with a record of its calls, the latest first. -/
structure RecordingLog where
  /-- Id, channel and payload, in the order of ids. -/
  messages : List (Int × String × String) := []
  /-- Cursors by channel and subscriber. -/
  cursors : List ((String × String) × Int) := []
  /-- How many of the next calls of a kind are refused. -/
  refusals : List (CallKind × Nat) := []
  record : List CallRecord := []

namespace RecordingLog

/-- Put a message where its id belongs. -/
def insertMessage (m : Int × String × String) :
    List (Int × String × String) → List (Int × String × String)
  | [] => [m]
  | n :: rest => if m.1 < n.1 then m :: n :: rest else n :: insertMessage m rest

/-- The id after all others. -/
def nextId (log : RecordingLog) : Int :=
  log.messages.foldl (fun id m => max id m.1) 0 + 1

/-- Append a message, by default under the next id. -/
def push (log : RecordingLog) (id? : Option Int) (channel payload : String) : Int × RecordingLog :=
  let id := id?.getD log.nextId
  (id, { log with messages := insertMessage (id, channel, payload) log.messages })

/-- Put a cursor where its subscriber belongs, in place of one it has. -/
def putCursor (key : String × String) (id : Int) :
    List ((String × String) × Int) → List ((String × String) × Int)
  | [] => [(key, id)]
  | c :: rest => if c.1 = key then (key, id) :: rest else c :: putCursor key id rest

/-- Set a cursor. -/
def setCursor (log : RecordingLog) (channel subscriber : String) (id : Int) : RecordingLog :=
  { log with cursors := putCursor (channel, subscriber) id log.cursors }

/-- Refuse the next calls of a kind, this many of them. -/
def refuse (log : RecordingLog) (kind : CallKind) (times : Nat) : RecordingLog :=
  { log with refusals := (kind, times) :: log.refusals.filter (·.1 ≠ kind) }

/-- Is a call of this kind to be refused now? One refusal is used up by it. -/
def takeRefusal (log : RecordingLog) (kind : CallKind) : Bool × RecordingLog :=
  match log.refusals.lookup kind with
  | some (n + 1) => (true, log.refuse kind n)
  | _ => (false, log)

/-- Add a call to the record. -/
def note (log : RecordingLog) (time : Nat) (call : LogCall) (outcome : CallOutcome) :
    RecordingLog :=
  { log with record := ⟨time, call, outcome⟩ :: log.record }

/-- What a call does when it is not refused. -/
def perform (time : Nat) (log : RecordingLog) : (call : LogCall) → call.Answer × RecordingLog
  | .attach channel subscriber =>
    let cursor := (log.cursors.lookup (channel, subscriber)).getD start
    (cursor, (log.setCursor channel subscriber cursor).note time (.attach channel subscriber)
      (.attached cursor))
  | .fetchAfter channel after limit =>
    let found := (log.messages.filter fun m => decide (m.2.1 = channel) && decide (after < m.1)).map
      fun m => (⟨m.1, m.2.2⟩ : LogEntry)
    let batch := found.take limit.toNat
    (batch, log.note time (.fetchAfter channel after limit) (.fetched batch.length))
  | .advance channel subscriber id =>
    let moved := if (log.cursors.lookup (channel, subscriber)).isSome then
      log.setCursor channel subscriber id else log
    ((), moved.note time (.advance channel subscriber id) .done)
  | .detach channel subscriber =>
    let removed :=
      { log with cursors := log.cursors.filter (·.1 ≠ (channel, subscriber)) }
    ((), removed.note time (.detach channel subscriber) .done)

/-- Answer a call at a time. -/
def handle (time : Nat) (call : LogCall) (log : RecordingLog) : call.Reply × RecordingLog :=
  match log.takeRefusal call.kind with
  | (true, log) => (.error (.store (.refused call.kind.name)), log.note time call .refused)
  | (false, log) =>
    let (answer, log) := log.perform time call
    (.ok answer, log)

/-- The calls recorded since this was asked last, in order. -/
def takeRecord (log : RecordingLog) : List CallRecord × RecordingLog :=
  (log.record.reverse, { log with record := [] })

/-- The cursors, ordered by channel and subscriber. -/
def sortedCursors (log : RecordingLog) : List ((String × String) × Int) :=
  log.cursors.mergeSort fun a b =>
    decide (a.1.1 < b.1.1) || (decide (a.1.1 = b.1.1) && decide (a.1.2 ≤ b.1.2))

end RecordingLog

end SqlCache.PubSub
