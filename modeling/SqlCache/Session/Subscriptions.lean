import SqlCache.Session.Basic

/-!
Subscriptions of a session. A poller takes its first tick when it has attached. Further ticks come
soon where the data lies in a database, and never within a session where it lies on a server.
-/

set_option autoImplicit false

namespace SqlCache

namespace PubSub.Poller

variable {σ : Type} (handle : (call : LogCall) → σ → call.Reply × σ)

/-- Take a tick and do what follows from it. -/
def tick (p : Poller) (log : σ) : Poller × σ :=
  let (p, log) := p.poll handle log
  p.settle handle log

/-- Receive messages, up to a number, and let the poller go on after each. With `again` the poller
takes further ticks when nothing waits, until one brings nothing. -/
def collect (again : Bool) : (most : Nat) → Poller → σ → List String × Poller × σ
  | 0, p, log => ([], p, log)
  | most + 1, p, log =>
    let (p, log) := if again && p.waiting.isEmpty then p.tick handle log else (p, log)
    match p.receive? with
    | none => ([], p, log)
    | some (payload, p) =>
      let (p, log) := p.settle handle log
      let (payloads, p, log) := collect again most p log
      (payload :: payloads, p, log)

end PubSub.Poller

namespace Session

/-- The `n`-th subscriber id that is made up. -/
def subscriberId (n : Nat) : String :=
  let digits := Nat.toDigits 16 n
  "sub_" ++ String.ofList (List.replicate (32 - digits.length) '0' ++ digits)

/-- The message log an endpoint offers. -/
def log (e : Endpoint) (now : Instant) : (call : PubSub.LogCall) → Session → call.Reply × Session :=
  (backend e).log now

/-- A subscription by name. -/
def subscription? (s : Session) (name : String) : Option Subscription :=
  s.subscriptions.find? fun sub => decide (sub.name = name)

/-- The session without the subscription of a name. -/
def withoutSubscription (s : Session) (name : String) : Session :=
  { s with subscriptions := s.subscriptions.filter fun sub => decide (sub.name ≠ name) }

/-- Do ticks come again at an endpoint within a session? -/
def ticksAgain : Endpoint → Bool
  | .database _ => true
  | .pool _ => false

/-- End the subscription of a name. -/
def detach (name : String) (s : Session) : Session :=
  match s.subscription? name with
  | none => s
  | some sub => (sub.poller.stop (log sub.endpoint s.clock) (s.withoutSubscription name)).2

/-- Subscribe a client under a name; the subscriber's id is made up unless it is given. A
subscription that has the name already is ended. -/
def subscribe (c : Client) (name channel : String) (subscriber : Option String) (s : Session) :
    Result (String × String) × Session :=
  let handle := log c.endpoint s.clock
  let id := subscriber.getD (subscriberId s.madeUp)
  let s := if subscriber.isNone then { s with madeUp := s.madeUp + 1 } else s
  match PubSub.Poller.subscribe handle c.pubsub channel id s with
  | (.error e, s) => (.error e, s)
  | (.ok poller, s) =>
    let (poller, s) := poller.tick handle s
    let s := s.detach name
    (.ok (channel, id),
      { s with subscriptions := s.subscriptions ++ [⟨name, c.endpoint, poller⟩] })

/-- Receive messages of the subscription of a name, up to a number. -/
def receive (name : String) (most : Nat) (s : Session) : List String × Session :=
  match s.subscription? name with
  | none => ([], s)
  | some sub =>
    let handle := log sub.endpoint s.clock
    let (payloads, poller, s) := sub.poller.collect handle (ticksAgain sub.endpoint) most s
    (payloads, { s with subscriptions := s.subscriptions.map fun other =>
      if other.name = name then { other with poller } else other })

/-- How many messages the subscription of a name can still bring. -/
def outstanding (name : String) (s : Session) : Nat :=
  match s.subscription? name with
  | none => 0
  | some sub =>
    let stored := match sub.endpoint with
      | .database index => (s.database index).committed.messages.size
      | .pool _ => 0
    sub.poller.waiting.length + sub.poller.phase.work + stored

/-- Receive all messages of the subscription of a name. -/
def drain (name : String) (s : Session) : List String × Session :=
  s.receive name (s.outstanding name)

end Session

end SqlCache
