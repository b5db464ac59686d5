import Mathlib.Data.List.Induction
import SqlCache.Proofs.Handles.Messages
import SqlCache.Proofs.PubSub.Served

/-!
Any number of subscriptions on a database on which handles are at work. A subscription is made in a
slot, moves on its own, and is stopped, or breaks off at any moment without a trace but the cursor
that is stored for it; the slot can then be used again. A file can be closed with all that is under
way on it, and opened again. The log may fail any of its calls. What a move can do is said once, by
one lemma for each kind of move (`Step.subscribed_spec` and those that follow it).
-/

set_option autoImplicit false

namespace SqlCache.PubSub

open Store (Evolves)

/-- The ids of the messages that are fetched and not seen to. -/
def Phase.ids : Phase → List Int
  | handing rest => rest.map LogEntry.id
  | recording id rest => id :: rest.map LogEntry.id
  | idle | ended => []

theorem Phase.mem_ids_of_mem_rest {phase : Phase} {m : LogEntry} (h : m ∈ phase.rest) :
    m.id ∈ phase.ids := by
  cases phase with
  | idle | ended => cases h
  | handing rest => exact List.mem_map_of_mem h
  | recording id rest => exact List.mem_cons_of_mem _ (List.mem_map_of_mem h)

/-- A database with the handles at work on it, and the subscriptions, each in its slot. -/
structure Subscribers (τ α : Type) where
  handles : Handles τ α
  pollers : Nat → Option Poller

namespace Subscribers

variable {τ α : Type}

/-- A move of a handle, of a subscription or of its receiver, or an end of all of them. -/
inductive Event (τ α : Type) where
  | handles (e : Handles.Event τ α)
  /-- A subscription is made, and finds a cursor. -/
  | subscribe (slot : Nat) (channel subscriber : String) (result : Result Int)
  /-- The poller takes a tick. -/
  | poll (slot : Nat)
  /-- The poller hands a message over. -/
  | handOver (slot : Nat) (m : LogEntry)
  /-- The poller has the id of a message stored. -/
  | record (slot : Nat) (id : Int) (reply : Result Unit)
  /-- The poller is done with a batch. -/
  | turn (slot : Nat)
  | receive (slot : Nat) (payload : String)
  /-- The subscription ends, and has its cursor removed. -/
  | stop (slot : Nat)
  /-- The subscription breaks off. -/
  | leave (slot : Nat)
  /-- Everything on a file breaks off, and the file is opened again. -/
  | reopen

/-- A database without subscriptions. -/
def start (d : Database) : Subscribers τ α := ⟨.start d, fun _ => none⟩

/-- The database that all work on. -/
abbrev database (s : Subscribers τ α) : Database := s.handles.database

/-- The tables that everybody can read. -/
abbrev committed (s : Subscribers τ α) : Store := s.database.committed

/-- A slot has come to hold a poller or none, and the database to another state. -/
def put (s : Subscribers τ α) (slot : Nat) (p? : Option Poller) (d : Database) :
    Subscribers τ α :=
  ⟨{ s.handles with database := d }, Function.update s.pollers slot p?⟩

/-- One move. -/
inductive Step (body : τ → Body α) : Subscribers τ α → Event τ α → Subscribers τ α → Prop where
  | handles {s : Subscribers τ α} {e : Handles.Event τ α} {h : Handles τ α} (spares : e.SparesLog)
      (step : Handles.Step body s.handles e h) : Step body s (.handles e) { s with handles := h }
  | subscribed {s : Subscribers τ α} {slot : Nat} {channel subscriber : String}
      {handle : (call : LogCall) → Database → call.Reply × Database} {settings : PubSubSettings}
      {p : Poller} {d : Database} (serves : Serves handle) (free : s.pollers slot = none)
      (subscribes : Poller.subscribe handle settings channel subscriber s.database = (.ok p, d)) :
      Step body s (.subscribe slot channel subscriber (.ok p.cursor)) (s.put slot (some p) d)
  | unsubscribed {s : Subscribers τ α} {slot : Nat} {channel subscriber : String}
      {handle : (call : LogCall) → Database → call.Reply × Database} {settings : PubSubSettings}
      {e : CacheError} {d : Database} (serves : Serves handle) (free : s.pollers slot = none)
      (subscribes : Poller.subscribe handle settings channel subscriber s.database =
        (.error e, d)) :
      Step body s (.subscribe slot channel subscriber (.error e)) (s.put slot none d)
  | poll {s : Subscribers τ α} {slot : Nat}
      {handle : (call : LogCall) → Database → call.Reply × Database} {p p' : Poller} {d : Database}
      (serves : Serves handle) (holds : s.pollers slot = some p)
      (polls : p.poll handle s.database = (p', d)) :
      Step body s (.poll slot) (s.put slot (some p') d)
  | handOver {s : Subscribers τ α} {slot : Nat}
      {handle : (call : LogCall) → Database → call.Reply × Database} {p p' : Poller} {d : Database}
      {m : LogEntry} {rest : List LogEntry} (serves : Serves handle)
      (holds : s.pollers slot = some p) (ready : p.phase = .handing (m :: rest))
      (moves : p.next? handle s.database = some (p', d)) :
      Step body s (.handOver slot m) (s.put slot (some p') d)
  | record {s : Subscribers τ α} {slot : Nat}
      {handle : (call : LogCall) → Database → call.Reply × Database} {p p' : Poller} {d : Database}
      {id : Int} {rest : List LogEntry} (serves : Serves handle)
      (holds : s.pollers slot = some p) (ready : p.phase = .recording id rest)
      (moves : p.next? handle s.database = some (p', d)) :
      Step body s (.record slot id (handle (.advance p.channel p.subscriber id) s.database).1)
        (s.put slot (some p') d)
  | turn {s : Subscribers τ α} {slot : Nat}
      {handle : (call : LogCall) → Database → call.Reply × Database} {p p' : Poller} {d : Database}
      (serves : Serves handle) (holds : s.pollers slot = some p) (ready : p.phase = .handing [])
      (moves : p.next? handle s.database = some (p', d)) :
      Step body s (.turn slot) (s.put slot (some p') d)
  | receive {s : Subscribers τ α} {slot : Nat} {p p' : Poller} {payload : String}
      (holds : s.pollers slot = some p) (takes : p.receive? = some (payload, p')) :
      Step body s (.receive slot payload) (s.put slot (some p') s.database)
  | stop {s : Subscribers τ α} {slot : Nat}
      {handle : (call : LogCall) → Database → call.Reply × Database} {p p' : Poller} {d : Database}
      (serves : Serves handle) (holds : s.pollers slot = some p)
      (stops : p.stop handle s.database = (p', d)) :
      Step body s (.stop slot) (s.put slot (some p') d)
  | leave {s : Subscribers τ α} {slot : Nat} {p : Poller} (holds : s.pollers slot = some p) :
      Step body s (.leave slot) (s.put slot none s.database)
  | reopen {s : Subscribers τ α} (file : s.database.sharing = .file) :
      Step body s .reopen (start s.database.rollback)

/-- Moves one after the other. -/
inductive Run (body : τ → Body α) :
    Subscribers τ α → List (Event τ α) → Subscribers τ α → Prop where
  | nil (s : Subscribers τ α) : Run body s [] s
  | snoc {s t u : Subscribers τ α} {events : List (Event τ α)} {e : Event τ α}
      (run : Run body s events t) (step : Step body t e u) : Run body s (events ++ [e]) u

/-- A run that ends with a move is a run and that move. -/
theorem Run.last {body : τ → Body α} {s t : Subscribers τ α} {events : List (Event τ α)}
    {e : Event τ α} (run : Run body s (events ++ [e]) t) :
    ∃ u, Run body s events u ∧ Step body u e t := by
  generalize hall : events ++ [e] = all at run
  cases run with
  | nil => exact absurd hall (by simp)
  | snoc run step =>
      obtain ⟨rfl, hlast⟩ := List.append_inj' hall rfl
      obtain rfl := List.singleton_inj.mp hlast
      exact ⟨_, run, step⟩

/-- A run can be cut at any of its moves. -/
theorem Run.split {body : τ → Body α} {s t : Subscribers τ α} {before after : List (Event τ α)}
    {e : Event τ α} (run : Run body s (before ++ e :: after) t) :
    ∃ u v, Run body s before u ∧ Step body u e v ∧ Run body v after t := by
  induction after using List.reverseRecOn generalizing t with
  | nil =>
      obtain ⟨u, first, step⟩ := run.last
      exact ⟨u, t, first, step, .nil t⟩
  | append_singleton after e' ih =>
      rw [← List.cons_append, ← List.append_assoc] at run
      obtain ⟨w, run, step'⟩ := run.last
      obtain ⟨u, v, first, step, rest⟩ := ih run
      exact ⟨u, v, first, step, rest.snoc step'⟩

/-- A handle has put a statement. -/
def execute (s : Subscribers τ α) (q : Statement) : Subscribers τ α :=
  { s with handles := ⟨(s.database.execute q).2, s.handles.running⟩ }

/-- A handle can put a statement at any time. -/
theorem Step.statement (body : τ → Body α) (s : Subscribers τ α) (h : Nat) (q : Statement)
    (spares : (.statement h q (s.database.execute q).1 : Handles.Event τ α).SparesLog) :
    Step body s (.handles (.statement h q (s.database.execute q).1)) (s.execute q) :=
  .handles spares (.statement rfl)

/-! ## What a move does -/

/-- The calls on the log that a subscription's move may make, fetches apart. -/
def Asks (s : Subscribers τ α) : Event τ α → LogCall → Prop
  | .subscribe _ channel subscriber _, call => call = .attach channel subscriber
  | .record slot .., call | .stop slot, call =>
    ∃ p, s.pollers slot = some p ∧ (call = .detach p.channel p.subscriber ∨
      ∃ id rest, p.phase = .recording id rest ∧ call = .advance p.channel p.subscriber id)
  | _, _ => False

/-- The slot of the subscription whose move it is. -/
def Event.slot? : Event τ α → Option Nat
  | handles _ | reopen => none
  | subscribe slot .. | poll slot | handOver slot _ | record slot .. | turn slot | receive slot _
  | stop slot | leave slot => some slot

theorem put_self (s : Subscribers τ α) {slot : Nat} {p? : Option Poller}
    (h : s.pollers slot = p?) : s.put slot p? s.database = s := by
  subst h
  show (⟨s.handles, _⟩ : Subscribers τ α) = s
  rw [Function.update_eq_self]

theorem database_put (s : Subscribers τ α) (slot : Nat) (p? : Option Poller) (d : Database) :
    (s.put slot p? d).database = d := rfl

theorem pollers_put_self (s : Subscribers τ α) (slot : Nat) (p? : Option Poller) (d : Database) :
    (s.put slot p? d).pollers slot = p? := Function.update_self _ _ _

theorem pollers_put_of_ne (s : Subscribers τ α) {slot k : Nat} (h : k ≠ slot)
    (p? : Option Poller) (d : Database) : (s.put slot p? d).pollers k = s.pollers k :=
  Function.update_of_ne h _ _

namespace Step

variable {body : τ → Body α} {s t : Subscribers τ α} {slot : Nat} {channel subscriber : String}

/-- A subscription starts at the cursor that is found on attaching. -/
theorem subscribed_spec {cursor : Int}
    (step : Step body s (.subscribe slot channel subscriber (.ok cursor)) t) :
    ∃ (handle : (call : LogCall) → Database → call.Reply × Database) (settings : PubSubSettings)
      (d : Database), Serves handle ∧ s.pollers slot = none ∧
      handle (.attach channel subscriber) s.database = (.ok cursor, d) ∧
      t = s.put slot (some (.attached settings channel subscriber cursor)) d := by
  cases step with
  | @subscribed _ _ _ handle settings p d serves free subscribes =>
      obtain ⟨reply, hcall, hp⟩ := Poller.subscribe_spec subscribes
      cases reply with
      | error e => cases hp
      | ok found =>
          obtain rfl := Except.ok.inj hp
          exact ⟨handle, settings, d, serves, free, hcall, rfl⟩

/-- A subscription that is not made leaves everything as it is. -/
theorem eq_of_unsubscribed {e : CacheError}
    (step : Step body s (.subscribe slot channel subscriber (.error e)) t) : t = s := by
  cases step with
  | @unsubscribed _ _ _ handle settings _ d serves free subscribes =>
      obtain ⟨reply, hcall, hp⟩ := Poller.subscribe_spec subscribes
      cases reply with
      | ok found => cases hp
      | error e' =>
          rw [serves.eq_of_error hcall]
          exact s.put_self free

/-- A tick brings a batch, or changes nothing. -/
theorem poll_spec (step : Step body s (.poll slot) t) :
    t = s ∨ ∃ p, s.pollers slot = some p ∧ p.phase = .idle ∧
      t = s.put slot (some { p with
        phase := .handing (s.committed.messagesAfter p.channel p.cursor p.limit) })
        s.database := by
  cases step with
  | @poll _ handle p p' d serves holds polls =>
      rcases Poller.poll_spec polls with ⟨-, rfl, rfl⟩ | ⟨hidle, reply, hcall, hreply⟩
      · exact Or.inl (s.put_self holds)
      have hsame := serves.fetch_snd p.channel p.cursor p.limit s.database
      rw [hcall] at hsame
      obtain rfl : d = s.database := hsame
      rcases hreply with ⟨batch, rfl, rfl⟩ | ⟨e, rfl, rfl⟩
      · rw [serves.fetch_ok hcall]
        exact Or.inr ⟨p, holds, hidle, rfl⟩
      · exact Or.inl (s.put_self holds)

/-- The first message of a batch is handed over. -/
theorem handOver_spec {m : LogEntry} (step : Step body s (.handOver slot m) t) :
    ∃ p rest, s.pollers slot = some p ∧ p.phase = .handing (m :: rest) ∧
      t = s.put slot (some (p.handOver m rest)) s.database := by
  cases step with
  | @handOver _ handle p p' d _ rest serves holds ready moves =>
      rcases Poller.next_spec moves with ⟨hphase, -⟩ | ⟨m, rest, hphase, -, rfl, rfl⟩ |
        ⟨id, left, reply, hphase, -⟩
      all_goals
        rw [ready] at hphase
        cases hphase
      exact ⟨p, rest, holds, ready, rfl⟩

/-- The id of the message handed over is stored, or fails to be. -/
theorem record_spec {id : Int} {reply : Result Unit}
    (step : Step body s (.record slot id reply) t) :
    ∃ (handle : (call : LogCall) → Database → call.Reply × Database) (p : Poller)
      (rest : List LogEntry) (d : Database), Serves handle ∧ s.pollers slot = some p ∧
      p.phase = .recording id rest ∧
      handle (.advance p.channel p.subscriber id) s.database = (reply, d) ∧
      t = s.put slot (some { p with phase := .handing rest }) d := by
  cases step with
  | @record _ handle p p' d _ rest serves holds ready moves =>
      rcases Poller.next_spec moves with ⟨hphase, -⟩ | ⟨m, left, hphase, -⟩ |
        ⟨id, left, reply, hphase, hcall, rfl⟩
      all_goals
        rw [ready] at hphase
        cases hphase
      rw [hcall]
      exact ⟨handle, p, rest, d, serves, holds, ready, hcall, rfl⟩

/-- The poller waits for the next tick. -/
theorem turn_spec (step : Step body s (.turn slot) t) :
    ∃ p, s.pollers slot = some p ∧ p.phase = .handing [] ∧
      t = s.put slot (some { p with phase := .idle }) s.database := by
  cases step with
  | @turn _ handle p p' d serves holds ready moves =>
      rcases Poller.next_spec moves with ⟨hphase, rfl, rfl⟩ | ⟨m, left, hphase, -⟩ |
        ⟨id, left, reply, hphase, -⟩
      all_goals
        rw [ready] at hphase
        cases hphase
      exact ⟨p, holds, ready, rfl⟩

/-- The receiver takes a message that waits for it. -/
theorem receive_spec {payload : String} (step : Step body s (.receive slot payload) t) :
    ∃ p waiting, s.pollers slot = some p ∧
      t = s.put slot (some { p with waiting }) s.database := by
  cases step with
  | @receive _ p p' _ holds takes =>
      obtain ⟨waiting, -, rfl⟩ := Poller.receive_spec takes
      exact ⟨p, waiting, holds, rfl⟩

/-- The subscription ends; a cursor about to be stored is stored before the cursor is removed, as
far as the calls do not fail. -/
theorem stop_spec (step : Step body s (.stop slot) t) :
    ∃ (handle : (call : LogCall) → Database → call.Reply × Database) (p : Poller)
      (calls : List LogCall), Serves handle ∧ s.pollers slot = some p ∧
      (∀ call ∈ calls, s.Asks (.stop slot) call) ∧
      t = s.put slot (some { p with phase := .ended }) (after handle s.database calls) := by
  cases step with
  | @stop _ handle p p' d serves holds stops =>
      obtain ⟨rfl, hcalls⟩ := Poller.stop_spec stops
      have hdetach : s.Asks (.stop slot) (.detach p.channel p.subscriber) :=
        ⟨p, holds, Or.inl rfl⟩
      rcases hcalls with ⟨-, rfl⟩ | ⟨id, rest, stored, d₁, reply, hphase, hstore, hcall⟩ |
        ⟨-, reply, hcall⟩
      · exact ⟨handle, p, [], serves, holds, fun call hcall => absurd hcall List.not_mem_nil, rfl⟩
      · refine ⟨handle, p, [.advance p.channel p.subscriber id,
          .detach p.channel p.subscriber], serves, holds, ?_, ?_⟩
        · intro call hmem
          rcases List.mem_cons.mp hmem with rfl | hmem
          · exact ⟨p, holds, Or.inr ⟨id, rest, hphase, rfl⟩⟩
          · rw [List.mem_singleton.mp hmem]
            exact hdetach
        · rw [after, List.foldl_cons, List.foldl_cons, hstore, hcall]
          rfl
      · refine ⟨handle, p, [.detach p.channel p.subscriber], serves, holds, ?_, ?_⟩
        · intro call hmem
          rw [List.mem_singleton.mp hmem]
          exact hdetach
        · rw [after, List.foldl_cons, hcall]
          rfl

/-- A subscription that breaks off leaves the database as it is. -/
theorem leave_spec (step : Step body s (.leave slot) t) :
    (∃ p, s.pollers slot = some p) ∧ t = s.put slot none s.database := by
  cases step with
  | leave holds => exact ⟨⟨_, holds⟩, rfl⟩

/-- A subscription's move is made in its slot, and reaches the database by calls on the log. -/
theorem served {e : Event τ α} (hslot : e.slot? = some slot) (step : Step body s e t) :
    ∃ (handle : (call : LogCall) → Database → call.Reply × Database) (calls : List LogCall)
      (p? : Option Poller), Serves handle ∧ (∀ call ∈ calls, s.Asks e call) ∧
      t = s.put slot p? (after handle s.database calls) := by
  -- A move that makes no call can be taken for one made on any log.
  have silent : ∀ p?, t = s.put slot p? s.database →
      ∃ (handle : (call : LogCall) → Database → call.Reply × Database) (calls : List LogCall)
        (p? : Option Poller), Serves handle ∧ (∀ call ∈ calls, s.Asks e call) ∧
        t = s.put slot p? (after handle s.database calls) := by
    intro p? ht
    exact ⟨fun call d => d.applyLog ⟨0⟩ call, [], p?, fun call d => Or.inl ⟨⟨0⟩, rfl⟩,
      fun call hcall => absurd hcall List.not_mem_nil, ht⟩
  cases e with
  | handles | reopen => cases hslot
  | subscribe k channel subscriber result =>
      cases hslot
      cases result with
      | error e =>
          have hsame := step.eq_of_unsubscribed
          subst hsame
          exact silent _ (t.put_self rfl).symm
      | ok cursor =>
          obtain ⟨handle, settings, d, serves, -, hcall, ht⟩ := step.subscribed_spec
          have hd : d = after handle s.database [.attach channel subscriber] :=
            (congrArg Prod.snd hcall).symm
          rw [hd] at ht
          refine ⟨handle, [.attach channel subscriber], _, serves, ?_, ht⟩
          intro call hmem
          exact List.mem_singleton.mp hmem
  | poll k =>
      cases hslot
      rcases step.poll_spec with rfl | ⟨p, -, -, ht⟩
      · exact silent _ (t.put_self rfl).symm
      · exact silent _ ht
  | handOver k m =>
      cases hslot
      obtain ⟨p, rest, -, -, ht⟩ := step.handOver_spec
      exact silent _ ht
  | record k id reply =>
      cases hslot
      obtain ⟨handle, p, rest, d, serves, holds, ready, hcall, ht⟩ := step.record_spec
      have hd : d = after handle s.database [.advance p.channel p.subscriber id] :=
        (congrArg Prod.snd hcall).symm
      rw [hd] at ht
      refine ⟨handle, [.advance p.channel p.subscriber id], _, serves, ?_, ht⟩
      intro call hmem
      rw [List.mem_singleton.mp hmem]
      exact ⟨p, holds, Or.inr ⟨id, rest, ready, rfl⟩⟩
  | turn k =>
      cases hslot
      obtain ⟨p, -, -, ht⟩ := step.turn_spec
      exact silent _ ht
  | receive k payload =>
      cases hslot
      obtain ⟨p, waiting, -, ht⟩ := step.receive_spec
      exact silent _ ht
  | stop k =>
      cases hslot
      obtain ⟨handle, p, calls, serves, -, hcalls, ht⟩ := step.stop_spec
      exact ⟨handle, calls, _, serves, hcalls, ht⟩
  | leave k =>
      cases hslot
      exact silent _ step.leave_spec.2

/-- A move leaves the pollers of other slots alone, or ends all of them. -/
theorem pollers_elsewhere {e : Event τ α} (hslot : e.slot? ≠ some slot) (step : Step body s e t)
    {p : Poller} (hp : t.pollers slot = some p) : s.pollers slot = some p := by
  cases hk : e.slot? with
  | some k =>
      obtain ⟨handle, calls, p?, -, -, rfl⟩ := step.served hk
      have hne : slot ≠ k := by
        rintro rfl
        exact hslot hk
      rw [pollers_put_of_ne s hne] at hp
      exact hp
  | none =>
      cases step with
      | handles spares move => exact hp
      | reopen file => cases hp
      | subscribed | unsubscribed | poll | handOver | record | turn | receive | stop | leave =>
          cases hk

/-- A poller that has not just been made was there with its channel and its subscriber; and what it
has fetched and not seen to, it had fetched before or finds in the tables. -/
theorem poller_cases {e : Event τ α} (hslot : e.slot? = some slot) (step : Step body s e t)
    {p : Poller} (hp : t.pollers slot = some p) :
    (∃ result, e = .subscribe slot p.channel p.subscriber result ∧ p.phase = .idle) ∨
      ∃ p₀, s.pollers slot = some p₀ ∧ p₀.channel = p.channel ∧ p₀.subscriber = p.subscriber ∧
        ∀ id ∈ p.phase.ids, id ∈ p₀.phase.ids ∨ ∃ row, s.committed.messages[id]? = some row := by
  cases e with
  | handles | reopen => cases hslot
  | subscribe k channel subscriber result =>
      cases hslot
      cases result with
      | error e =>
          rw [step.eq_of_unsubscribed] at hp
          exact Or.inr ⟨p, hp, rfl, rfl, fun id hid => Or.inl hid⟩
      | ok cursor =>
          obtain ⟨handle, settings, d, -, -, -, rfl⟩ := step.subscribed_spec
          rw [pollers_put_self] at hp
          cases hp
          exact Or.inl ⟨_, rfl, rfl⟩
  | poll k =>
      cases hslot
      rcases step.poll_spec with rfl | ⟨p₀, holds, -, rfl⟩
      · exact Or.inr ⟨p, hp, rfl, rfl, fun id hid => Or.inl hid⟩
      · rw [pollers_put_self] at hp
        cases hp
        refine Or.inr ⟨p₀, holds, rfl, rfl, ?_⟩
        intro id hid
        obtain ⟨m, hm, rfl⟩ := List.mem_map.mp hid
        obtain ⟨row, hrow, -⟩ := Store.mem_messagesPast.mp (List.mem_of_mem_take hm)
        exact Or.inr ⟨row, hrow⟩
  | handOver k m =>
      cases hslot
      obtain ⟨p₀, rest, holds, ready, rfl⟩ := step.handOver_spec
      rw [pollers_put_self] at hp
      cases hp
      refine Or.inr ⟨p₀, holds, rfl, rfl, ?_⟩
      intro id hid
      rw [ready]
      exact Or.inl hid
  | record k stored reply =>
      cases hslot
      obtain ⟨handle, p₀, rest, d, -, holds, ready, -, rfl⟩ := step.record_spec
      rw [pollers_put_self] at hp
      cases hp
      refine Or.inr ⟨p₀, holds, rfl, rfl, ?_⟩
      intro id hid
      rw [ready]
      exact Or.inl (List.mem_cons_of_mem _ hid)
  | turn k =>
      cases hslot
      obtain ⟨p₀, holds, -, rfl⟩ := step.turn_spec
      rw [pollers_put_self] at hp
      cases hp
      exact Or.inr ⟨p₀, holds, rfl, rfl, fun id hid => absurd hid List.not_mem_nil⟩
  | receive k payload =>
      cases hslot
      obtain ⟨p₀, waiting, holds, rfl⟩ := step.receive_spec
      rw [pollers_put_self] at hp
      cases hp
      exact Or.inr ⟨p₀, holds, rfl, rfl, fun id hid => Or.inl hid⟩
  | stop k =>
      cases hslot
      obtain ⟨handle, p₀, calls, -, holds, -, rfl⟩ := step.stop_spec
      rw [pollers_put_self] at hp
      cases hp
      exact Or.inr ⟨p₀, holds, rfl, rfl, fun id hid => absurd hid List.not_mem_nil⟩
  | leave k =>
      cases hslot
      rw [step.leave_spec.2, pollers_put_self] at hp
      cases hp

end Step

/-! ## What holds at any time -/

/-- One writer at a time, message ids in order, a draft that leaves the cursors alone, and nothing
fetched that has not been published. -/
structure Sound (s : Subscribers τ α) : Prop where
  oneWriter : s.handles.OneWriter
  numbered : s.database.Numbered
  spares : s.database.SparesCursors
  fetched : ∀ slot p, s.pollers slot = some p → ∀ id ∈ p.phase.ids,
    id ≤ s.committed.lastMessageId

namespace Sound

variable {body : τ → Body α} {s t : Subscribers τ α} {events : List (Event τ α)}

theorem start {d : Database} (hd : d.draft = none) (bounded : d.committed.Bounded) :
    Sound (start d : Subscribers τ α) where
  oneWriter := .start d
  numbered := .of_draft_eq_none hd bounded
  spares := .of_draft_eq_none hd
  fetched slot p h := by cases h

/-- A poller has fetched nothing but what has been published. -/
theorem fetched_step {e : Event τ α} {slot : Nat} {p : Poller} (inv : Sound s)
    (hslot : e.slot? = some slot) (step : Step body s e t) (hp : t.pollers slot = some p) :
    ∀ id ∈ p.phase.ids, id ≤ s.committed.lastMessageId := by
  intro id hid
  rcases step.poller_cases hslot hp with ⟨result, -, hidle⟩ | ⟨p₀, hp₀, -, -, hids⟩
  · rw [hidle] at hid
    cases hid
  · rcases hids id hid with hold | ⟨row, hrow⟩
    · exact inv.fetched slot p₀ hp₀ id hold
    · exact inv.numbered.bounded hrow

/-- Every move keeps what holds, and lets the tables evolve. -/
theorem step {e : Event τ α} (inv : Sound s) (step : Step body s e t) :
    Sound t ∧ Evolves s.committed t.committed := by
  cases hslot : e.slot? with
  | some slot =>
      have hfetched := fun p => inv.fetched_step (p := p) hslot step
      obtain ⟨handle, calls, p?, serves, -, rfl⟩ := step.served hslot
      have same := serves.sameMessages_after calls s.database
      refine ⟨⟨same.oneWriter inv.oneWriter, same.numbered inv.numbered,
        serves.sparesCursors_after inv.spares calls, ?_⟩, same.evolves⟩
      intro k p hk id hid
      rw [committed, database_put, same.last]
      by_cases heq : k = slot
      · subst heq
        exact hfetched p hk id hid
      · rw [pollers_put_of_ne s heq] at hk
        exact inv.fetched k p hk id hid
  | none =>
      cases step with
      | handles spares move =>
          obtain ⟨evolves, numbered⟩ := move.evolves inv.oneWriter inv.numbered
          refine ⟨⟨inv.oneWriter.step move, numbered,
            (move.cursors inv.oneWriter spares inv.spares).2, ?_⟩, evolves⟩
          intro slot p hp id hid
          exact Int.le_trans (inv.fetched slot p hp id hid) evolves.last_le
      | reopen file => exact ⟨.start rfl inv.numbered.bounded, .refl _⟩
      | subscribed | unsubscribed | poll | handOver | record | turn | receive | stop | leave =>
          cases hslot

theorem run (inv : Sound s) (run : Run body s events t) :
    Sound t ∧ Evolves s.committed t.committed := by
  induction run with
  | nil => exact ⟨inv, .refl _⟩
  | snoc run last ih =>
      obtain ⟨before, evolved⟩ := ih
      obtain ⟨after, evolves⟩ := before.step last
      exact ⟨after, evolved.trans evolves⟩

end Sound

end Subscribers

end SqlCache.PubSub
