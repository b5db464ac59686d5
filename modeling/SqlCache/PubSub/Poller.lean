import SqlCache.Config.Basic
import SqlCache.PubSub.Log

/-!
The poller of a subscription. It fetches the messages past its cursor, hands them over one by one to
a receiver that holds a limited number, and stores the cursor after each hand-over, so that a
message is never lost and is handed over again only if its cursor was not stored.

`Poller.next?` is one move that needs nobody else; `Poller.settle` makes all of them, until the
poller waits for a tick or for room. Only `poll`, `receive?` and `stop` come from outside.
-/

set_option autoImplicit false

namespace SqlCache.PubSub

/-- What a poller is doing. -/
inductive Phase where
  /-- Waiting for a tick. -/
  | idle
  /-- Handing over a batch, of which these messages are left. -/
  | handing (rest : List LogEntry)
  /-- A message has been handed over, and its id has to be stored. -/
  | recording (id : Int) (rest : List LogEntry)
  /-- The subscription has ended. -/
  | ended
  deriving DecidableEq, Repr

/-- A subscription's poller together with what waits for its receiver. -/
structure Poller where
  channel : String
  subscriber : String
  /-- The id of the last message handed over, or the cursor found on attaching. -/
  cursor : Int
  /-- How many messages are fetched at a time. -/
  limit : Int
  /-- How many messages may wait for the receiver. -/
  capacity : Nat
  /-- Handed over and not yet received. -/
  waiting : List String
  phase : Phase
  deriving DecidableEq, Repr

namespace Phase

/-- How many moves a batch still takes at most. -/
def work : Phase → Nat
  | handing rest => 2 * rest.length + 1
  | recording _ rest => 2 * rest.length + 2
  | idle | ended => 0

/-- Has the subscription ended? -/
def isEnded : Phase → Bool
  | ended => true
  | _ => false

/-- Is the poller waiting for a tick? -/
def isIdle : Phase → Bool
  | idle => true
  | _ => false

end Phase

namespace Poller

variable {σ : Type}

/-- The poller of a subscriber whose cursor has been read. -/
def attached (settings : PubSubSettings) (channel subscriber : String) (cursor : Int) : Poller where
  channel
  subscriber
  cursor
  limit := max settings.batchSize 1
  capacity := max settings.buffer 1
  waiting := []
  phase := .idle

/-- The poller with one more message handed over. -/
def handOver (p : Poller) (m : LogEntry) (rest : List LogEntry) : Poller :=
  { p with
    cursor := m.id
    waiting := p.waiting ++ [m.payload]
    phase := .recording m.id rest }

/-- The next move of a poller on a log, if it needs nobody else for it. A cursor that cannot be
stored is left behind; it catches up with the next one. -/
def next? (handle : (call : LogCall) → σ → call.Reply × σ) (p : Poller) (log : σ) :
    Option (Poller × σ) :=
  match p.phase with
  | .idle => none
  | .ended => none
  | .handing [] => some ({ p with phase := .idle }, log)
  | .handing (m :: rest) =>
    if p.waiting.length < p.capacity then some (p.handOver m rest, log) else none
  | .recording id rest =>
    let (_, log) := handle (.advance p.channel p.subscriber id) log
    some ({ p with phase := .handing rest }, log)

/-- Every move uses up some of the batch. -/
theorem work_lt_of_next? {handle : (call : LogCall) → σ → call.Reply × σ} {p q : Poller}
    {log log' : σ} (h : next? handle p log = some (q, log')) : q.phase.work < p.phase.work := by
  unfold next? at h
  split at h
  · contradiction
  · contradiction
  · cases h; simp_all [Phase.work]
  · split at h
    · cases h; simp_all [Phase.work, handOver]; omega
    · contradiction
  · cases h; simp_all [Phase.work]

/-- All moves until the poller waits for a tick or for room. -/
def settle (handle : (call : LogCall) → σ → call.Reply × σ) (p : Poller) (log : σ) : Poller × σ :=
  match _h : next? handle p log with
  | none => (p, log)
  | some (q, log') => settle handle q log'
termination_by p.phase.work
decreasing_by exact work_lt_of_next? _h

/-- Take a tick: fetch the messages past the cursor. A fetch that fails is tried again with the next
tick. A poller that is not waiting for a tick takes none. -/
def poll (handle : (call : LogCall) → σ → call.Reply × σ) (p : Poller) (log : σ) : Poller × σ :=
  match p.phase with
  | .idle =>
    match handle (.fetchAfter p.channel p.cursor p.limit) log with
    | (.ok batch, log) => ({ p with phase := .handing batch }, log)
    | (.error _, log) => (p, log)
  | _ => (p, log)

/-- Take the message that has waited longest. -/
def receive? (p : Poller) : Option (String × Poller) :=
  match p.waiting with
  | [] => none
  | payload :: waiting => some (payload, { p with waiting })

/-- Take as many waiting messages as there are, up to a number. -/
def take (p : Poller) (most : Nat) : List String × Poller :=
  (p.waiting.take most, { p with waiting := p.waiting.drop most })

/-- End the subscription and remove its cursor. A cursor about to be stored is stored before. -/
def stop (handle : (call : LogCall) → σ → call.Reply × σ) (p : Poller) (log : σ) : Poller × σ :=
  match p.phase with
  | .ended => (p, log)
  | .recording id _ =>
    let (_, log) := handle (.advance p.channel p.subscriber id) log
    let (_, log) := handle (.detach p.channel p.subscriber) log
    ({ p with phase := .ended }, log)
  | _ =>
    let (_, log) := handle (.detach p.channel p.subscriber) log
    ({ p with phase := .ended }, log)

/-- Attach a subscriber and make its poller. -/
def subscribe (handle : (call : LogCall) → σ → call.Reply × σ) (settings : PubSubSettings)
    (channel subscriber : String) (log : σ) : Result Poller × σ :=
  match handle (.attach channel subscriber) log with
  | (.ok cursor, log) => (.ok (attached settings channel subscriber cursor), log)
  | (.error e, log) => (.error e, log)

end Poller

end SqlCache.PubSub
