import SqlCache.PubSub.Poller
import SqlCache.PubSub.Recording
import SqlCache.Time.Timer

/-!
Subscriptions on a virtual clock of milliseconds. Time passes only while everybody waits. The first
tick of a poller comes at once and the next ones at regular times; a tick taken more than five
milliseconds late moves the ones after it. Ticks due at the same time are taken in the order in
which they were set.
-/

set_option autoImplicit false

namespace SqlCache.PubSub

/-- A subscription and the next tick of its poller. -/
structure Listener where
  name : String
  poller : Poller
  interval : Nat
  due : Nat
  /-- When the tick was set, in the order of all ticks. -/
  rank : Nat

/-- Subscriptions on a recording log. -/
structure Timeline where
  now : Nat := 0
  log : RecordingLog := {}
  listeners : List Listener := []
  nextRank : Nat := 0

/-- What a receiver finds when it does not wait. -/
inductive ReceiveState where
  /-- As many messages as it asked for. -/
  | full
  /-- Fewer, and more may come. -/
  | pending
  /-- Fewer, and the subscription has ended. -/
  | closed
  deriving DecidableEq, Repr

namespace Listener

/-- A tick later than this, in milliseconds, moves the next ones. -/
def tolerance : Nat := 5

/-- The time of the tick after the one taken now. -/
def nextDue (l : Listener) (now : Nat) : Nat :=
  if l.due + tolerance < now then now + l.interval else l.due + l.interval

/-- Is a tick due that the poller can take? -/
def isReady (l : Listener) (horizon : Nat) : Bool :=
  l.poller.phase.isIdle && decide (l.due ≤ horizon)

/-- Does this tick come before the other's? -/
def precedes (l m : Listener) : Bool :=
  decide (l.due < m.due) || (decide (l.due = m.due) && decide (l.rank < m.rank))

end Listener

namespace Timeline

/-- Replace a listener by one of the same name. -/
def update (t : Timeline) (l : Listener) : Timeline :=
  { t with listeners := t.listeners.map fun m => if m.name = l.name then l else m }

/-- A listener by name. -/
def find? (t : Timeline) (name : String) : Option Listener :=
  t.listeners.find? fun l => decide (l.name = name)

/-- The listener whose tick comes first, if one is due. -/
def nextReady? (t : Timeline) (horizon : Nat) : Option Listener :=
  (t.listeners.filter (·.isReady horizon)).foldl
    (fun best l => match best with
      | none => some l
      | some b => if l.precedes b then some l else some b)
    none

/-- Let a poller do what it can at the present time. -/
def settle (t : Timeline) (l : Listener) : Timeline :=
  let (poller, log) := l.poller.settle (RecordingLog.handle t.now) t.log
  { t with log }.update { l with poller }

/-- Let a poller take its tick. -/
def tick (t : Timeline) (l : Listener) : Timeline :=
  let now := max t.now l.due
  let t := { t with now }
  let (poller, log) := l.poller.poll (RecordingLog.handle now) t.log
  let l := { l with poller, due := l.nextDue now, rank := t.nextRank }
  { t with log, nextRank := t.nextRank + 1 }.settle l

/-- Take all ticks that are due at a time. Every tick moves the next one of its poller later, so
`fuel` need not be more than the time until then, summed over the pollers. -/
def runTicks (horizon : Nat) : (fuel : Nat) → Timeline → Timeline
  | 0, t => t
  | fuel + 1, t =>
    match t.nextReady? horizon with
    | none => t
    | some l => runTicks horizon fuel (t.tick l)

/-- Let time pass until everybody waits for something later. -/
def advanceTo (t : Timeline) (horizon : Nat) : Timeline :=
  let fuel := t.listeners.foldl (fun n l => n + (horizon + 1 - l.due)) 0
  { runTicks horizon fuel t with now := horizon }

/-- Let everybody go on until all wait. -/
def quiesce (t : Timeline) : Timeline := t.advanceTo t.now

/-- Let time pass. -/
def sleep (t : Timeline) (ms : Nat) : Timeline := t.advanceTo (t.now + Timer.wait ms)

/-- End a subscription. -/
def stop (t : Timeline) (l : Listener) : Timeline :=
  let (poller, log) := l.poller.stop (RecordingLog.handle t.now) t.log
  { t with log }.update { l with poller }

/-- Subscribe under a name. A subscription that has the name already is dropped. -/
def subscribe (t : Timeline) (settings : PubSubSettings) (name channel subscriber : String) :
    Result Unit × Timeline :=
  match Poller.subscribe (RecordingLog.handle t.now) settings channel subscriber t.log with
  | (.error e, log) => (.error e, { t with log })
  | (.ok poller, log) =>
    let old := t.find? name
    let listener : Listener :=
      ⟨name, poller, Timer.wait (max settings.pollIntervalMs 1), t.now, t.nextRank⟩
    let t := { t with
      log
      listeners := t.listeners.filter (fun (l : Listener) => decide (l.name ≠ name)) ++ [listener]
      nextRank := t.nextRank + 1 }
    let t := t.quiesce
    let log := match old with
      | some l => (l.poller.stop (RecordingLog.handle t.now) t.log).2
      | none => t.log
    (.ok (), { t with log })

/-- Receive up to a number of messages without waiting. The poller goes on only afterwards. -/
def receive (t : Timeline) (name : String) (most : Nat) :
    (List String × ReceiveState) × Timeline :=
  match t.find? name with
  | none => (([], .closed), t)
  | some l =>
    let (payloads, poller) := l.poller.take most
    let state : ReceiveState :=
      if payloads.length = most then .full
      else if poller.phase.isEnded then .closed
      else .pending
    ((payloads, state), (t.settle { l with poller }).quiesce)

/-- End the subscription of a name. -/
def detach (t : Timeline) (name : String) : Timeline :=
  match t.find? name with
  | none => t
  | some l => t.stop l

end Timeline

end SqlCache.PubSub
