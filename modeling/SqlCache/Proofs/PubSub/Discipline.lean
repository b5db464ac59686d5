import SqlCache.Proofs.PubSub.Delivery
import SqlCache.Proofs.PubSub.Rounds
import SqlCache.Proofs.Store.Cursors

/-!
How a subscription calls its log. Whatever is written to the log meanwhile, whichever calls fail,
however its receiver takes the messages and whenever it is ended, a subscription attaches and then
works in rounds: it fetches what lies past the last message handed over, hands over one message
after the other and stores the id of each one before the next; at the end it removes its cursor and
does nothing more. Main result: `follows_discipline`.

The log may be any one that answers a fetch in order (`AnswersInOrder`). The invariant (`Follows`)
says which rounds were made and where in the last of them the poller stands.
-/

set_option autoImplicit false

namespace SqlCache.PubSub

variable {σ : Type}

/-- A fetch that succeeds brings messages past the id it asks for, in the order of their ids. -/
def AnswersInOrder (handle : (call : LogCall) → σ → call.Reply × σ) : Prop :=
  ∀ {channel : String} {after limit : Int} {batch : List LogEntry} {s s' : σ},
    handle (.fetchAfter channel after limit) s = (.ok batch, s') →
      batch.Pairwise (fun a b => a.id < b.id) ∧ ∀ m ∈ batch, after < m.id

/-- The message log of a store answers in order. -/
theorem Serves.answersInOrder {handle : (call : LogCall) → Database → call.Reply × Database}
    (serves : Serves handle) : AnswersInOrder handle := by
  intro channel after limit batch s s' h
  rw [serves.fetch_ok h, Store.messagesAfter_eq]
  have hascending := Store.ascending_messagesPast s.committed channel after
  refine ⟨hascending.sublist (List.take_sublist _ _), fun m hm => ?_⟩
  exact Store.lt_of_mem_messagesPast (List.mem_of_mem_take hm)

/-- A log that writes down what it is asked and what it answers. -/
def noted (handle : (call : LogCall) → σ → call.Reply × σ) (call : LogCall)
    (s : σ × List Act) : call.Reply × σ × List Act :=
  let (reply, log) := handle call s.1
  (reply, log, s.2 ++ [.called call reply])

theorem of_noted {handle : (call : LogCall) → σ → call.Reply × σ} {call : LogCall}
    {reply : call.Reply} {log log' : σ} {acts acts' : List Act}
    (h : noted handle call (log, acts) = (reply, log', acts')) :
    handle call log = (reply, log') ∧ acts' = acts ++ [.called call reply] := by
  simp only [noted, Prod.mk.injEq] at h
  obtain ⟨rfl, rfl, rfl⟩ := h
  exact ⟨rfl, rfl⟩

/-- What a poller hands over when it goes on. -/
def Phase.offered : Phase → List Act
  | handing (m :: _) => [.handedOver m]
  | idle | handing [] | recording .. | ended => []

/-- A subscription on a log, and what has been seen of it. -/
structure Seen (σ : Type) where
  log : σ
  acts : List Act
  /-- The poller, or the error with which the subscriber was turned away. -/
  outcome : Result Poller
  /-- What the receiver has taken. -/
  received : List String

namespace Seen

variable (handle : (call : LogCall) → σ → call.Reply × σ)

/-- A subscription that has just been asked for. -/
def start (settings : PubSubSettings) (channel subscriber : String) (log : σ) : Seen σ :=
  let (outcome, log, acts) :=
    Poller.subscribe (noted handle) settings channel subscriber (log, [])
  { log, acts, outcome, received := [] }

/-- One move. A subscription ends after it is stopped or dropped, or after its receiver is; between
that and its end there may be any other moves. -/
inductive Step : Seen σ → Seen σ → Prop where
  /-- The log is written to, or begins or ceases to refuse calls. -/
  | elsewhere (w : Seen σ) (log : σ) : Step w { w with log }
  | poll {w : Seen σ} {p q : Poller} {log : σ} {acts : List Act} (holds : w.outcome = .ok p)
      (polls : p.poll (noted handle) (w.log, w.acts) = (q, log, acts)) :
      Step w { w with log, acts, outcome := .ok q }
  | next {w : Seen σ} {p q : Poller} {log : σ} {acts : List Act} (holds : w.outcome = .ok p)
      (moves : p.next? (noted handle) (w.log, w.acts) = some (q, log, acts)) :
      Step w { w with log, acts := acts ++ p.phase.offered, outcome := .ok q }
  | receive {w : Seen σ} {p q : Poller} {payload : String} (holds : w.outcome = .ok p)
      (takes : p.receive? = some (payload, q)) :
      Step w { w with outcome := .ok q, received := w.received ++ [payload] }
  | stop {w : Seen σ} {p q : Poller} {log : σ} {acts : List Act} (holds : w.outcome = .ok p)
      (stops : p.stop (noted handle) (w.log, w.acts) = (q, log, acts)) :
      Step w { w with log, acts, outcome := .ok q }

/-- Moves one after the other. -/
inductive Run : Seen σ → Seen σ → Prop where
  | refl (w : Seen σ) : Run w w
  | tail {v w x : Seen σ} (run : Run v w) (step : Step handle w x) : Run v x

end Seen

/-! ## What has been done -/

/-- Where a poller stands in its last round: the message whose id it has yet to store, the messages
it has yet to hand over, and what it has done to end. -/
inductive Stands (channel subscriber : String) :
    Phase → List LogEntry → List LogEntry → List Act → Prop where
  | idle : Stands channel subscriber .idle [] [] []
  | handing (left : List LogEntry) : Stands channel subscriber (.handing left) [] left []
  | recording (m : LogEntry) (left : List LogEntry) :
      Stands channel subscriber (.recording m.id left) [m] left []
  | ended (left : List LogEntry) (reply : Result Unit) :
      Stands channel subscriber .ended [] left [.called (.detach channel subscriber) reply]

/-- What a poller has handed over, and what is left of its batch: messages past the cursor found, in
the order of their ids, each one received or waiting. -/
structure Sent (cursor : Int) (received : List String) (p : Poller) (sent left : List LogEntry) :
    Prop where
  cursor_eq : p.cursor = lastId cursor sent
  ascending : (sent ++ left).Pairwise fun a b => a.id < b.id
  past : ∀ m ∈ sent ++ left, cursor < m.id
  payloads : sent.map LogEntry.payload = received ++ p.waiting
  room : p.waiting.length ≤ p.capacity

namespace Sent

variable {cursor : Int} {received : List String} {p : Poller} {sent left : List LogEntry}

/-- What is fetched in order lies past all that has been handed over. -/
theorem fetched (inv : Sent cursor received p sent []) {batch : List LogEntry}
    (ascending : batch.Pairwise fun a b => a.id < b.id) (past : ∀ m ∈ batch, p.cursor < m.id) :
    Sent cursor received { p with phase := .handing batch } sent batch := by
  have hbefore := inv.ascending
  have hpast := inv.past
  rw [List.append_nil] at hbefore hpast
  rw [inv.cursor_eq] at past
  refine { inv with ascending := ?_, past := ?_ }
  · refine List.pairwise_append.mpr ⟨hbefore, ascending, fun a ha b hb => ?_⟩
    have hle : a.id ≤ lastId cursor sent := le_lastId hbefore ha
    have hlt := past b hb
    omega
  · intro m hm
    rcases List.mem_append.mp hm with hm | hm
    · exact hpast m hm
    · have hle := before_le_lastId hpast
      have hlt := past m hm
      omega

/-- The next message is handed over. -/
theorem handedOver {m : LogEntry} (inv : Sent cursor received p sent (m :: left))
    (room : p.waiting.length < p.capacity) :
    Sent cursor received (p.handOver m left) (sent ++ [m]) left where
  cursor_eq := (lastId_concat cursor sent m).symm
  ascending := by
    rw [List.append_assoc]
    exact inv.ascending
  past := by
    rw [List.append_assoc]
    exact inv.past
  payloads := by
    show (sent ++ [m]).map LogEntry.payload = received ++ (p.waiting ++ [m.payload])
    rw [List.map_append, inv.payloads, List.append_assoc]
    rfl
  room := by
    show (p.waiting ++ [m.payload]).length ≤ p.capacity
    rw [List.length_append]
    exact room

/-- The receiver takes the message that has waited longest. -/
theorem receive (inv : Sent cursor received p sent left) {q : Poller} {payload : String}
    (takes : p.receive? = some (payload, q)) :
    Sent cursor (received ++ [payload]) q sent left ∧ ∃ waiting, q = { p with waiting } := by
  obtain ⟨waiting, hwaiting, rfl⟩ := Poller.receive_spec takes
  have hpayloads := inv.payloads
  have hroom := inv.room
  rw [hwaiting] at hpayloads hroom
  refine ⟨{ inv with payloads := ?_, room := Nat.le_of_succ_le hroom }, waiting, rfl⟩
  rw [hpayloads, List.append_assoc]
  rfl

end Sent

/-- What has been seen of a subscription whose cursor was found at `cursor`: the attaching, then
rounds, the last of which need not be complete, and perhaps the end. -/
structure Follows (settings : PubSubSettings) (channel subscriber : String) (cursor : Int)
    (w : Seen σ) (p : Poller) (rounds : List Round) (pending left : List LogEntry)
    (closing : List Act) : Prop where
  outcome : w.outcome = .ok p
  channel_eq : p.channel = channel
  subscriber_eq : p.subscriber = subscriber
  limit_eq : p.limit = max settings.batchSize 1
  capacity_eq : p.capacity = max settings.buffer 1
  acts : w.acts = .called (.attach channel subscriber) (.ok cursor) ::
    (actsOf channel subscriber (max settings.batchSize 1) cursor rounds ++
      pending.map .handedOver ++ closing)
  leaves : Leaves rounds (pending ++ left)
  stands : Stands channel subscriber p.phase pending left closing
  sent : Sent cursor w.received p (messagesIn rounds ++ pending) left

/-- The same, for some rounds. -/
def Following (settings : PubSubSettings) (channel subscriber : String) (cursor : Int)
    (w : Seen σ) : Prop :=
  ∃ p rounds pending left closing,
    Follows settings channel subscriber cursor w p rounds pending left closing

namespace Follows

variable {handle : (call : LogCall) → σ → call.Reply × σ} {settings : PubSubSettings}
  {channel subscriber : String} {cursor : Int} {w : Seen σ} {p : Poller} {rounds : List Round}
  {pending left : List LogEntry} {closing : List Act}

/-- A subscription that has been accepted has made no round. -/
theorem attached (settings : PubSubSettings) (channel subscriber : String) (cursor : Int)
    (log : σ) : Following settings channel subscriber cursor
      { log
        acts := [.called (.attach channel subscriber) (.ok cursor)]
        outcome := .ok (.attached settings channel subscriber cursor)
        received := [] } := by
  refine ⟨.attached settings channel subscriber cursor, [], [], [], [], ?_⟩
  exact
    { outcome := rfl
      channel_eq := rfl
      subscriber_eq := rfl
      limit_eq := rfl
      capacity_eq := rfl
      acts := rfl
      leaves := .none
      stands := .idle
      sent :=
        { cursor_eq := rfl
          ascending := List.Pairwise.nil
          past := fun m hm => absurd hm List.not_mem_nil
          payloads := rfl
          room := Nat.zero_le _ } }

/-- A tick begins a round, also when its fetch fails. -/
theorem poll (ordered : AnswersInOrder handle)
    (inv : Follows settings channel subscriber cursor w p rounds pending left closing) {q : Poller}
    {log : σ} {acts : List Act} (polls : p.poll (noted handle) (w.log, w.acts) = (q, log, acts)) :
    Following settings channel subscriber cursor { w with log, acts, outcome := .ok q } := by
  rcases Poller.poll_spec polls with ⟨-, rfl, hsame⟩ | ⟨hidle, fetched, hcall, hfetched⟩
  · obtain ⟨rfl, rfl⟩ := Prod.mk.inj hsame
    exact ⟨q, rounds, pending, left, closing, { inv with outcome := rfl }⟩
  obtain ⟨hanswer, rfl⟩ := of_noted hcall
  obtain ⟨rfl, rfl, rfl⟩ : pending = [] ∧ left = [] ∧ closing = [] := by
    have hstands := inv.stands
    rw [hidle] at hstands
    cases hstands
    exact ⟨rfl, rfl, rfl⟩
  have hsent := inv.sent
  have hmessages : messagesIn (rounds ++ [⟨fetched, []⟩]) = messagesIn rounds := by
    rw [messagesIn_concat]
    exact List.append_nil _
  rw [← hmessages] at hsent
  have hacts : w.acts ++ [.called (.fetchAfter p.channel p.cursor p.limit) fetched] =
      .called (.attach channel subscriber) (.ok cursor) ::
        (actsOf channel subscriber (max settings.batchSize 1) cursor
          (rounds ++ [⟨fetched, []⟩]) ++ [].map .handedOver ++ []) := by
    have hcursor := inv.sent.cursor_eq
    rw [List.append_nil] at hcursor
    rw [inv.acts, actsOf_concat, ← hcursor, inv.channel_eq, inv.limit_eq]
    simp [Round.acts]
  have hleaves := inv.leaves.fetch fetched
  rcases hfetched with ⟨batch, rfl, rfl⟩ | ⟨e, rfl, rfl⟩
  · obtain ⟨hascending, hpast⟩ := ordered hanswer
    exact ⟨_, rounds ++ [⟨.ok batch, []⟩], [], batch, [], { inv with
      outcome := rfl, acts := hacts, leaves := hleaves, stands := .handing batch,
      sent := hsent.fetched hascending hpast }⟩
  · exact ⟨_, rounds ++ [⟨.error e, []⟩], [], [], [], { inv with
      outcome := rfl, acts := hacts, leaves := hleaves, sent := hsent }⟩

/-- A message that is handed over is the next one that is left. -/
theorem handedOver {m : LogEntry}
    (inv : Follows settings channel subscriber cursor w p rounds [] (m :: left) [])
    (log : σ) (room : p.waiting.length < p.capacity) :
    Follows settings channel subscriber cursor
      { w with log, acts := w.acts ++ [.handedOver m], outcome := .ok (p.handOver m left) }
      (p.handOver m left) rounds [m] left [] := by
  have hsent := inv.sent.handedOver room
  rw [List.append_nil] at hsent
  refine { inv with
    outcome := rfl, acts := ?_, stands := .recording m left, sent := hsent }
  show w.acts ++ _ = _
  rw [inv.acts]
  simp

/-- The id of the message handed over is stored before anything else, or fails to be. -/
theorem recorded {m : LogEntry}
    (inv : Follows settings channel subscriber cursor w p rounds [m] left []) (log : σ)
    (reply : Result Unit) :
    ∃ rounds', Follows settings channel subscriber cursor
      { w with
        log
        acts := w.acts ++ [.called (.advance p.channel p.subscriber m.id) reply]
        outcome := .ok { p with phase := .handing left } }
      { p with phase := .handing left } rounds' [] left [] := by
  obtain ⟨rounds', leaves, hmessages, hacts⟩ := inv.leaves.advance reply
  have hsent := inv.sent
  rw [← hmessages, ← List.append_nil (messagesIn rounds')] at hsent
  refine ⟨rounds', { inv with
    outcome := rfl, acts := ?_, leaves := leaves, stands := .handing left,
    sent := { hsent with } }⟩
  show w.acts ++ _ = _
  rw [inv.acts, hacts, inv.channel_eq, inv.subscriber_eq]
  simp

/-- A poller that stands between two messages ends by removing its cursor. -/
theorem ends (inv : Follows settings channel subscriber cursor w p rounds [] left []) (log : σ)
    (reply : Result Unit) : Following settings channel subscriber cursor
      { w with
        log
        acts := w.acts ++ [.called (.detach p.channel p.subscriber) reply]
        outcome := .ok { p with phase := .ended } } := by
  refine ⟨{ p with phase := .ended }, rounds, [], left,
    [.called (.detach channel subscriber) reply], { inv with
      outcome := rfl, acts := ?_, stands := .ended left reply, sent := { inv.sent with } }⟩
  show w.acts ++ _ = _
  rw [inv.acts, inv.channel_eq, inv.subscriber_eq]
  simp

/-- The receiver takes a message, at any time. -/
theorem receive (inv : Follows settings channel subscriber cursor w p rounds pending left closing)
    {q : Poller} {payload : String} (takes : p.receive? = some (payload, q)) :
    Following settings channel subscriber cursor
      { w with outcome := .ok q, received := w.received ++ [payload] } := by
  obtain ⟨sent, waiting, rfl⟩ := inv.sent.receive takes
  exact ⟨_, rounds, pending, left, closing, { inv with outcome := rfl, sent }⟩

/-- A poller that goes on by itself hands over what is left, one message after the other. -/
theorem next (inv : Follows settings channel subscriber cursor w p rounds pending left closing)
    {q : Poller} {log : σ} {acts : List Act}
    (moves : p.next? (noted handle) (w.log, w.acts) = some (q, log, acts)) :
    Following settings channel subscriber cursor
      { w with log, acts := acts ++ p.phase.offered, outcome := .ok q } := by
  have hstands := inv.stands
  rcases Poller.next_spec moves with ⟨hphase, rfl, hsame⟩ | ⟨m, rest, hphase, room, rfl, hsame⟩ |
    ⟨id, rest, reply, hphase, hcall, rfl⟩
  all_goals
    rw [hphase] at hstands ⊢
    cases hstands
  · obtain ⟨rfl, rfl⟩ := Prod.mk.inj hsame
    have hacts : w.acts ++ (Phase.handing []).offered = w.acts := List.append_nil _
    rw [hacts]
    exact ⟨{ p with phase := .idle }, rounds, [], [], [], { inv with
      outcome := rfl, stands := .idle, sent := { inv.sent with } }⟩
  · obtain ⟨rfl, rfl⟩ := Prod.mk.inj hsame
    exact ⟨p.handOver m rest, rounds, [m], rest, [], inv.handedOver w.log room⟩
  · obtain ⟨-, rfl⟩ := of_noted hcall
    obtain ⟨rounds', inv⟩ := inv.recorded log reply
    rw [Phase.offered, List.append_nil]
    exact ⟨_, rounds', [], _, [], inv⟩

/-- A poller that is stopped while it has an id to store stores it, and then ends. -/
theorem stop (inv : Follows settings channel subscriber cursor w p rounds pending left closing)
    {q : Poller} {log : σ} {acts : List Act}
    (stops : p.stop (noted handle) (w.log, w.acts) = (q, log, acts)) :
    Following settings channel subscriber cursor { w with log, acts, outcome := .ok q } := by
  have hstands := inv.stands
  obtain ⟨rfl, hcalls⟩ := Poller.stop_spec stops
  rcases hcalls with ⟨hphase, hsame⟩ | ⟨id, rest, stored, ⟨log₁, acts₁⟩, reply, hphase, hstore,
    hcall⟩ | ⟨hphase, reply, hcall⟩
  · obtain ⟨rfl, rfl⟩ := Prod.mk.inj hsame
    rw [← hphase]
    exact ⟨p, rounds, pending, left, closing, { inv with outcome := rfl }⟩
  · rw [hphase] at hstands
    cases hstands
    obtain ⟨-, rfl⟩ := of_noted hstore
    obtain ⟨-, rfl⟩ := of_noted hcall
    obtain ⟨rounds', inv⟩ := inv.recorded log₁ stored
    exact inv.ends log reply
  · obtain ⟨-, rfl⟩ := of_noted hcall
    rcases hphase with hphase | ⟨rest, hphase⟩
    all_goals
      rw [hphase] at hstands
      cases hstands
      exact inv.ends log reply

/-- What has been handed over, in the rounds and since. -/
theorem messagesOf_acts
    (inv : Follows settings channel subscriber cursor w p rounds pending left closing) :
    messagesOf w.acts = messagesIn rounds ++ pending := by
  have hpending : messagesOf (pending.map .handedOver) = pending := by
    rw [messagesOf, List.filterMap_map]
    exact List.filterMap_some
  have hclosing : messagesOf closing = [] := by
    have hstands := inv.stands
    generalize p.phase = phase at hstands
    cases hstands <;> rfl
  rw [inv.acts, ← List.singleton_append, messagesOf_append, messagesOf_append, messagesOf_append,
    hclosing, hpending, messagesOf_actsOf, List.append_nil]
  rfl

end Follows

section Discipline

variable {handle : (call : LogCall) → σ → call.Reply × σ} {settings : PubSubSettings}
  {channel subscriber : String} {cursor : Int} {log : σ} {v w x : Seen σ}

/-- Every move of a subscription keeps to its rounds. -/
theorem Following.step (ordered : AnswersInOrder handle)
    (inv : Following settings channel subscriber cursor w) (step : Seen.Step handle w x) :
    Following settings channel subscriber cursor x := by
  obtain ⟨p, rounds, pending, left, closing, inv⟩ := inv
  have holder {p' : Poller} (holds : w.outcome = .ok p') : p' = p :=
    Except.ok.inj (holds.symm.trans inv.outcome)
  cases step with
  | elsewhere log => exact ⟨p, rounds, pending, left, closing, { inv with }⟩
  | poll holds polls =>
      obtain rfl := holder holds
      exact inv.poll ordered polls
  | next holds moves =>
      obtain rfl := holder holds
      exact inv.next moves
  | receive holds takes =>
      obtain rfl := holder holds
      exact inv.receive takes
  | stop holds stops =>
      obtain rfl := holder holds
      exact inv.stop stops

theorem Following.run (ordered : AnswersInOrder handle)
    (inv : Following settings channel subscriber cursor v) (run : Seen.Run handle v w) :
    Following settings channel subscriber cursor w := by
  induction run with
  | refl => exact inv
  | tail _ step ih => exact ih.step ordered step

/-- A subscriber that was turned away does nothing more. -/
theorem Seen.Run.refused {e : CacheError} (run : Seen.Run handle v w)
    (herror : v.outcome = .error e) :
    w.outcome = .error e ∧ w.acts = v.acts ∧ w.received = v.received := by
  induction run with
  | refl => exact ⟨herror, rfl, rfl⟩
  | @tail w x run step ih =>
      obtain ⟨houtcome, ih⟩ := ih
      have idle {p : Poller} (holds : w.outcome = .ok p) : False := by
        rw [houtcome] at holds
        cases holds
      cases step with
      | elsewhere log => exact ⟨houtcome, ih⟩
      | poll holds | next holds | receive holds | stop holds => exact (idle holds).elim

/-- A subscriber has what attaching has answered: an error, or a poller at the cursor found. -/
theorem Seen.start_eq (handle : (call : LogCall) → σ → call.Reply × σ)
    (settings : PubSubSettings) (channel subscriber : String) {log log' : σ} {reply : Result Int}
    (h : handle (.attach channel subscriber) log = (reply, log')) :
    Seen.start handle settings channel subscriber log =
      { log := log'
        acts := [.called (.attach channel subscriber) reply]
        outcome := reply.map (.attached settings channel subscriber)
        received := [] } := by
  rcases hsubscribe : Poller.subscribe (noted handle) settings channel subscriber (log, []) with
    ⟨outcome, log₁, acts⟩
  obtain ⟨answer, hcall, rfl⟩ := Poller.subscribe_spec hsubscribe
  obtain ⟨hanswer, rfl⟩ := of_noted hcall
  obtain ⟨rfl, rfl⟩ := Prod.mk.inj (h.symm.trans hanswer)
  rw [Seen.start, hsubscribe]
  rfl

/-- Whatever becomes of the log, whichever of its answers are errors, whenever messages are received
and whenever the subscription ends: a subscriber whose attaching fails gets the error, and the log
is not called again. Any other one is seen to attach and to make rounds. Each round is a fetch past
the last message handed over, and then one call after each message handed over, which stores its
id; all rounds but the last have handed over all they fetched. Until the end only the last of these
calls may be outstanding; at the end there is none, and the last act of all is the only one that
removes the cursor. The ids of the messages handed over grow, and no more of them wait to be
received than there is room for. -/
theorem follows_discipline (ordered : AnswersInOrder handle)
    (run : Seen.Run handle (.start handle settings channel subscriber log) w) :
    (∃ e, (handle (.attach channel subscriber) log).1 = .error e ∧ w.outcome = .error e ∧
      w.acts = [.called (.attach channel subscriber) (.error e)]) ∨
    ∃ cursor p rounds pending left closing,
      (handle (.attach channel subscriber) log).1 = .ok cursor ∧ w.outcome = .ok p ∧
      w.acts = .called (.attach channel subscriber) (.ok cursor) ::
        (actsOf channel subscriber (max settings.batchSize 1) cursor rounds ++
          pending.map .handedOver ++ closing) ∧
      Leaves rounds (pending ++ left) ∧
      (p.phase ≠ .ended → pending.length ≤ 1 ∧ closing = []) ∧
      (p.phase = .ended → pending = [] ∧
        ∃ reply, closing = [.called (.detach channel subscriber) reply]) ∧
      (messagesOf w.acts).Pairwise (fun a b => a.id < b.id) ∧
      (∀ m ∈ messagesOf w.acts, cursor < m.id) ∧
      (messagesOf w.acts).map LogEntry.payload = w.received ++ p.waiting ∧
      (messagesOf w.acts).length ≤ w.received.length + max settings.buffer 1 := by
  rcases hcall : handle (.attach channel subscriber) log with ⟨reply, log'⟩
  rw [Seen.start_eq handle settings channel subscriber hcall] at run
  cases reply with
  | error e =>
      obtain ⟨houtcome, hacts, -⟩ := run.refused rfl
      exact Or.inl ⟨e, rfl, houtcome, hacts⟩
  | ok cursor =>
      have begun := Follows.attached settings channel subscriber cursor log'
      obtain ⟨p, rounds, pending, left, closing, inv⟩ := begun.run ordered run
      have hmessages := inv.messagesOf_acts
      have hpayloads := inv.sent.payloads
      rw [← hmessages] at hpayloads
      have hascending := List.pairwise_append.mp inv.sent.ascending
      refine Or.inr ⟨cursor, p, rounds, pending, left, closing, rfl, inv.outcome, inv.acts,
        inv.leaves, ?_, ?_, ?_, ?_, hpayloads, ?_⟩
      · intro hopen
        have hstands := inv.stands
        generalize p.phase = phase at hstands hopen
        cases hstands with
        | idle => exact ⟨Nat.zero_le 1, rfl⟩
        | handing => exact ⟨Nat.zero_le 1, rfl⟩
        | recording => exact ⟨Nat.le_refl 1, rfl⟩
        | ended => exact absurd rfl hopen
      · intro hended
        have hstands := inv.stands
        rw [hended] at hstands
        cases hstands with
        | ended _ reply => exact ⟨rfl, reply, rfl⟩
      · rw [hmessages]
        exact hascending.1
      · rw [hmessages]
        exact fun m hm => inv.sent.past m (List.mem_append_left _ hm)
      · have hlength := congrArg List.length hpayloads
        have hroom := inv.sent.room
        rw [inv.capacity_eq] at hroom
        simp only [List.length_map, List.length_append] at hlength
        omega

end Discipline

/-- A log on which no cursor can be stored. -/
def unstored (call : LogCall) (d : Database) : call.Reply × Database :=
  match call with
  | .advance .. => (.error (.store (.refused "advance")), d)
  | .attach .. | .fetchAfter .. | .detach .. => served _ d

theorem serves_unstored : Serves unstored := by
  intro call d
  cases call with
  | advance => exact Or.inr ⟨_, rfl⟩
  | attach | fetchAfter | detach => exact Or.inl ⟨⟨0⟩, rfl⟩

/-- Two messages are fetched and there is room for one; its id cannot be stored, and then the
subscription ends. -/
theorem follows_discipline_unstored : ∃ w rounds reply,
    Seen.Run unstored (.start unstored { buffer := 1 } "news" "a" (.empty .file)) w ∧
    messagesOf w.acts = [⟨1, "hello"⟩] ∧
    w.acts = .called (.attach "news" "a") (.ok start) ::
      (actsOf "news" "a" 10 start rounds ++ [.called (.detach "news" "a") reply]) := by
  let d₀ : Database := { Database.empty .file with committed := attended }
  let d₁ : Database := { d₀ with committed := d₀.committed.publish 0 "news" "hello" }
  let d₂ : Database := { d₁ with committed := d₁.committed.publish 0 "news" "again" }
  let p : Poller := .attached { buffer := 1 } "news" "a" start
  let batch : List LogEntry := [⟨1, "hello"⟩, ⟨2, "again"⟩]
  let p₂ : Poller := { p with phase := .handing batch }
  let p₃ : Poller := p₂.handOver ⟨1, "hello"⟩ [⟨2, "again"⟩]
  let p₄ : Poller := { p₃ with phase := .handing [⟨2, "again"⟩] }
  let attaching : Act := .called (.attach "news" "a") (.ok start)
  let fetching : Act := .called (.fetchAfter "news" start 10) (.ok batch)
  let storing : Act :=
    .called (.advance "news" "a" 1) (.error (.store (.refused "advance")))
  let w₀ : Seen Database := ⟨d₀, [attaching], .ok p, []⟩
  let w₁ : Seen Database := { w₀ with log := d₂ }
  let w₂ : Seen Database := ⟨d₂, [attaching, fetching], .ok p₂, []⟩
  let w₃ : Seen Database := { w₂ with acts := w₂.acts ++ p₂.phase.offered, outcome := .ok p₃ }
  let w₄ : Seen Database :=
    { w₃ with acts := (w₃.acts ++ [storing]) ++ p₃.phase.offered, outcome := .ok p₄ }
  let w₅ : Seen Database :=
    { log := (served (.detach "news" "a") d₂).2
      acts := w₄.acts ++ [.called (.detach "news" "a") (served (.detach "news" "a") d₂).1]
      outcome := .ok { p₄ with phase := .ended }
      received := [] }
  have begins : Seen.start unstored { buffer := 1 } "news" "a" (.empty .file) = w₀ :=
    Seen.start_eq unstored { buffer := 1 } "news" "a" served_attach
  have published : Seen.Step unstored w₀ w₁ := .elsewhere w₀ d₂
  have fetched : Seen.Step unstored w₁ w₂ := .poll rfl rfl
  have handed : Seen.Step unstored w₂ w₃ := .next rfl rfl
  have recorded : Seen.Step unstored w₃ w₄ := .next rfl rfl
  have ended : Seen.Step unstored w₄ w₅ := .stop rfl rfl
  have run : Seen.Run unstored (.start unstored { buffer := 1 } "news" "a" (.empty .file)) w₅ := by
    rw [begins]
    exact (((((Seen.Run.refl w₀).tail published).tail fetched).tail handed).tail recorded).tail
      ended
  rcases follows_discipline serves_unstored.answersInOrder run with
    ⟨e, -, houtcome, -⟩ | ⟨cursor, q, rounds, pending, left, closing, hcursor, hq, hacts, -, -,
      hclosing, -⟩
  · cases houtcome
  · obtain rfl := Except.ok.inj hq
    obtain ⟨rfl, reply, rfl⟩ := hclosing rfl
    have hattach : (unstored (.attach "news" "a") (.empty .file)).1 = .ok start :=
      congrArg Prod.fst served_attach
    obtain rfl := Except.ok.inj (hattach.symm.trans hcursor)
    refine ⟨w₅, rounds, reply, run, rfl, hacts.trans ?_⟩
    rw [List.map_nil, List.append_nil]
    rfl

end SqlCache.PubSub
