import SqlCache.Proofs.PubSub.Progress
import SqlCache.Proofs.PubSub.Visibility

/-!
Delivery across restarts. A durable subscriber has one subscription after another, each of which
breaks off somewhere without removing the cursor; fetches fail and cursors fail to be stored as they
like. The stored cursor is always that of a message handed over before, or the one found at first,
and never past the poller's own; so nothing is skipped when the next subscription goes on from it,
and what it hands over again had not been stored. Main result: `Subscribers.resumes`.
-/

set_option autoImplicit false

namespace SqlCache.PubSub.Subscribers

variable {τ α : Type}

/-- All that is known of a durable subscriber that uses a slot. -/
structure Resuming (slot : Nat) (place : String × String) (initial : Int)
    (events : List (Event τ α)) (s : Subscribers τ α) : Prop where
  sound : Sound s
  apart : ∀ k p, k ≠ slot → s.pollers k = some p → (p.channel, p.subscriber) ≠ place
  progress : Progress place initial (history slot events) s.committed
  session : ∀ p, s.pollers slot = some p → Session place (history slot events) s.committed p

namespace Resuming

variable {slot : Nat} {place : String × String} {initial : Int} {before events : List (Event τ α)}
  {body : τ → Body α} {s t : Subscribers τ α} {e : Event τ α}

theorem start {d : Database} (hidle : d.draft = none) (bounded : d.committed.Bounded)
    (slot : Nat) (place : String × String) :
    Resuming slot place ((d.committed.cursor? place).getD PubSub.start) []
      (start d : Subscribers τ α) where
  sound := .start hidle bounded
  apart k p _ hp := by cases hp
  progress := .start place d.committed
  session p hp := by cases hp

/-- The slots of others stay those of others. -/
theorem apart_step (inv : Resuming slot place initial events s) (durable : e.Durable slot place)
    (step : Step body s e t) {k : Nat} {p : Poller} (hk : k ≠ slot) (hp : t.pollers k = some p) :
    (p.channel, p.subscriber) ≠ place := by
  by_cases hslot : e.slot? = some k
  · rcases step.poller_cases hslot hp with ⟨result, rfl, -⟩ | ⟨p₀, hp₀, hchannel, hsubscriber, -⟩
    · intro hplace
      exact hk (durable.mpr hplace)
    · rw [← hchannel, ← hsubscriber]
      exact inv.apart k p₀ hk hp₀
  · exact inv.apart k p hk (step.pollers_elsewhere hslot hp)

/-- Others ask nothing about the cursor. -/
theorem place?_ne_of_asks (inv : Resuming slot place initial events s)
    (durable : e.Durable slot place) (hslot : e.slot? ≠ some slot) {call : LogCall}
    (asks : s.Asks e call) : call.place? ≠ some place := by
  intro hplace
  cases e with
  | subscribe k channel subscriber result =>
      obtain rfl : call = .attach channel subscriber := asks
      obtain rfl := durable.mpr (Option.some.inj hplace)
      exact hslot rfl
  | record k | stop k =>
      have hk : k ≠ slot := by
        rintro rfl
        exact hslot rfl
      obtain ⟨p, holds, rfl | ⟨id, rest, -, rfl⟩⟩ := asks
      · exact inv.apart k p hk holds (Option.some.inj hplace)
      · exact inv.apart k p hk holds (Option.some.inj hplace)
  | handles | poll | handOver | turn | receive | leave | reopen => exact asks.elim

/-- Moves elsewhere leave the cursor as it is. -/
theorem cursor?_elsewhere (inv : Resuming slot place initial events s)
    (durable : e.Durable slot place) (hslot : e.slot? ≠ some slot) (step : Step body s e t) :
    t.committed.cursor? place = s.committed.cursor? place := by
  cases hk : e.slot? with
  | some k =>
      obtain ⟨handle, calls, p?, serves, hcalls, rfl⟩ := step.served hk
      refine serves.cursor?_after_elsewhere fun call hcall => ?_
      exact inv.place?_ne_of_asks durable hslot (hcalls call hcall)
  | none =>
      cases step with
      | handles spares move =>
          have hsame := (move.cursors inv.sound.oneWriter spares inv.sound.spares).1
          exact Store.cursor?_congr hsame place
      | reopen file => rfl
      | subscribed | unsubscribed | poll | handOver | record | turn | receive | stop | leave =>
          cases hk

/-- A move that says itself what it makes of the subscriber's progress and of the poller. -/
theorem of_step (inv : Resuming slot place initial events s) (durable : e.Durable slot place)
    (step : Step body s e t)
    (progress : Progress place initial (history slot (events ++ [e])) t.committed)
    (session : ∀ p, t.pollers slot = some p →
      Session place (history slot (events ++ [e])) t.committed p) :
    Resuming slot place initial (events ++ [e]) t where
  sound := (inv.sound.step step).1
  apart _ _ := inv.apart_step durable step
  progress := progress
  session := session

theorem elsewhere (inv : Resuming slot place initial events s) (durable : e.Durable slot place)
    (hslot : e.slot? ≠ some slot) (step : Step body s e t) :
    Resuming slot place initial (events ++ [e]) t := by
  have evolves := (inv.sound.step step).2
  have hcursor := inv.cursor?_elsewhere durable hslot step
  refine inv.of_step durable step ?_ ?_
  · rw [history_of_slot?_ne hslot]
    exact inv.progress.evolves evolves (by rw [hcursor])
  · intro p hp
    have hp₀ := step.pollers_elsewhere hslot hp
    have session := inv.session p hp₀
    rw [history_of_slot?_ne hslot]
    refine session.evolves evolves ?_ (inv.sound.fetched slot p hp₀)
    rw [hcursor]
    exact session.attached

/-- A move of the subscriber that leaves the database alone. -/
theorem silent (inv : Resuming slot place initial events s) (durable : e.Durable slot place)
    (step : Step body s e t) (same : history slot (events ++ [e]) = history slot events)
    {p? : Option Poller} (ht : t = s.put slot p? s.database)
    (session : ∀ p, p? = some p → Session place (history slot events) s.committed p) :
    Resuming slot place initial (events ++ [e]) t := by
  refine inv.of_step durable step ?_ ?_
  · rw [same, ht]
    exact inv.progress
  · intro p hp
    rw [ht, pollers_put_self] at hp
    rw [same, ht]
    exact session p hp

theorem subscribed (inv : Resuming slot place initial events s) {channel subscriber : String}
    {cursor : Int}
    (durable : (.subscribe slot channel subscriber (.ok cursor) : Event τ α).Durable slot place)
    (step : Step body s (.subscribe slot channel subscriber (.ok cursor)) t) :
    Resuming slot place initial (events ++ [.subscribe slot channel subscriber (.ok cursor)])
      t := by
  obtain rfl : (channel, subscriber) = place := durable.mp rfl
  have evolves := (inv.sound.step step).2
  obtain ⟨handle, settings, d, serves, -, hcall, ht⟩ := step.subscribed_spec
  obtain ⟨hfound, hstored⟩ := serves.attach_ok hcall
  have hsame : (d.committed.cursor? (channel, subscriber)).getD PubSub.start =
      (s.committed.cursor? (channel, subscriber)).getD PubSub.start := by
    rw [hstored]
    exact hfound
  refine inv.of_step durable step ?_ ?_
  · subst ht
    have progress := (inv.progress.evolves evolves hsame).subscribed
    rw [committed, database_put, hstored] at progress
    rw [history_subscribed]
    exact progress
  · intro p hp
    subst ht
    rw [pollers_put_self] at hp
    cases hp
    rw [history_subscribed]
    exact .subscribed hstored settings _

theorem handedOver (inv : Resuming slot place initial events s) {m : LogEntry}
    (durable : (.handOver slot m : Event τ α).Durable slot place)
    (step : Step body s (.handOver slot m) t) :
    Resuming slot place initial (events ++ [.handOver slot m]) t := by
  obtain ⟨p, rest, holds, ready, ht⟩ := step.handOver_spec
  have session := inv.session p holds
  have given : m.id ≤ s.committed.lastMessageId := by
    refine inv.sound.fetched slot p holds m.id ?_
    rw [ready]
    exact List.mem_cons_self
  refine inv.of_step durable step ?_ ?_
  · rw [history_handOver, ht]
    exact inv.progress.handedOver session ready given
  · intro q hq
    rw [ht, pollers_put_self] at hq
    cases hq
    rw [history_handOver, ht]
    exact session.handedOver ready

theorem recorded (inv : Resuming slot place initial events s) {id : Int}
    (durable : (.record slot id (.ok ()) : Event τ α).Durable slot place)
    (step : Step body s (.record slot id (.ok ())) t) :
    Resuming slot place initial (events ++ [.record slot id (.ok ())]) t := by
  have evolves := (inv.sound.step step).2
  obtain ⟨handle, p, rest, d, serves, holds, ready, hcall, ht⟩ := step.record_spec
  have session := inv.session p holds
  have hplace : (p.channel, p.subscriber) = place :=
    Prod.ext session.channel_eq session.subscriber_eq
  have hstored : d.committed.cursor? place = some id := by
    obtain ⟨last, hlast⟩ := Option.isSome_iff_exists.mp session.attached
    have hadvanced := serves.advance_ok hcall
    rw [hplace, hlast] at hadvanced
    exact hadvanced
  refine inv.of_step durable step ?_ ?_
  · rw [history_recorded]
    refine inv.progress.recorded session ready evolves ?_
    rw [ht]
    exact hstored
  · intro q hq
    rw [ht, pollers_put_self] at hq
    cases hq
    have attached : (t.committed.cursor? place).isSome = true := by
      rw [ht, committed, database_put, hstored]
      rfl
    have kept := session.evolves evolves attached (inv.sound.fetched slot p holds)
    have hbatch := kept.batch
    rw [ready] at hbatch
    have next : Session place (history slot events) t.committed { p with phase := .handing rest } :=
      kept.goesOn (fun _ _ h => by cases h) hbatch
    rw [history_recorded]
    exact next.recorded id

/-- A move of the subscriber keeps what is known. -/
theorem own (inv : Resuming slot place initial events s) (durable : e.Durable slot place)
    (hslot : e.slot? = some slot) (step : Step body s e t) :
    Resuming slot place initial (events ++ [e]) t := by
  cases e with
  | handles | reopen => cases hslot
  | subscribe k channel subscriber result =>
      cases hslot
      cases result with
      | ok cursor => exact inv.subscribed durable step
      | error e =>
          have hsame := step.eq_of_unsubscribed
          subst hsame
          exact inv.silent durable step (history_of_none rfl rfl rfl) (t.put_self rfl).symm
            inv.session
  | poll k =>
      cases hslot
      rcases step.poll_spec with rfl | ⟨p, holds, -, ht⟩
      · exact inv.silent durable step (history_of_none rfl rfl rfl) (t.put_self rfl).symm
          inv.session
      · refine inv.silent durable step (history_of_none rfl rfl rfl) ht ?_
        rintro q ⟨⟩
        have session := inv.session p holds
        refine session.goesOn (fun _ _ h => by cases h) ?_
        rw [session.channel_eq]
        exact .fetched s.committed place.1 p.cursor p.limit
  | handOver k m =>
      cases hslot
      exact inv.handedOver durable step
  | record k id reply =>
      cases hslot
      cases reply with
      | ok u => exact inv.recorded durable step
      | error e =>
          obtain ⟨handle, p, rest, d, serves, holds, ready, hcall, ht⟩ := step.record_spec
          rw [serves.eq_of_error hcall] at ht
          refine inv.silent durable step (history_of_none rfl rfl rfl) ht ?_
          rintro q ⟨⟩
          have session := inv.session p holds
          have hbatch := session.batch
          rw [ready] at hbatch
          exact session.goesOn (fun _ _ h => by cases h) hbatch
  | turn k =>
      cases hslot
      obtain ⟨p, holds, -, ht⟩ := step.turn_spec
      refine inv.silent durable step (history_of_none rfl rfl rfl) ht ?_
      rintro q ⟨⟩
      exact (inv.session p holds).goesOn (fun _ _ h => by cases h) (.nil _ _ _)
  | receive k payload =>
      cases hslot
      obtain ⟨p, waiting, holds, ht⟩ := step.receive_spec
      refine inv.silent durable step (history_of_none rfl rfl rfl) ht ?_
      rintro q ⟨⟩
      obtain ⟨channel, subscriber, attached, cursor, recording, batch⟩ := inv.session p holds
      exact ⟨channel, subscriber, attached, cursor, recording, batch⟩
  | stop k =>
      cases hslot
      exact absurd rfl durable
  | leave k =>
      cases hslot
      refine inv.silent durable step (history_of_none rfl rfl rfl) step.leave_spec.2 ?_
      rintro q ⟨⟩

theorem run (inv : Resuming slot place initial before s)
    (durable : ∀ e ∈ events, e.Durable slot place) (run : Run body s events t) :
    Resuming slot place initial (before ++ events) t := by
  induction run with
  | nil =>
      rw [List.append_nil]
      exact inv
  | @snoc _ _ events e run last ih =>
      obtain ⟨hevents, hlast⟩ := List.forall_mem_append.mp durable
      have hlast := hlast e List.mem_cons_self
      have reached := ih hevents
      rw [← List.append_assoc]
      by_cases hslot : e.slot? = some slot
      · exact reached.own hlast hslot last
      · exact reached.elsewhere hlast hslot last

/-- What is handed over comes after all that has been stored, and after the cursor. -/
theorem lt_of_handOver (inv : Resuming slot place initial events s) {m : LogEntry}
    (step : Step body s (.handOver slot m) t) :
    (history slot events).cursor initial < m.id ∧
      ∀ id ∈ (history slot events).recorded, id < m.id := by
  obtain ⟨p, rest, holds, ready, -⟩ := step.handOver_spec
  have session := inv.session p holds
  have hbatch := session.batch
  rw [ready] at hbatch
  have hnext : (history slot events).cursor initial < m.id := by
    rw [session.cursor_initial initial]
    exact hbatch.past m List.mem_cons_self
  refine ⟨hnext, fun id hid => ?_⟩
  have hstored := inv.progress.recorded_le id hid
  exact Int.lt_of_le_of_lt (Int.le_trans hstored inv.progress.stored_le) hnext

/-- Without a new subscription, the cursor does not go back. -/
theorem cursor_le_of_step (inv : Resuming slot place initial events s)
    (hnone : ∀ channel subscriber cursor, e ≠ .subscribe slot channel subscriber (.ok cursor))
    (step : Step body s e t) :
    (history slot events).cursor initial ≤ (history slot (events ++ [e])).cursor initial := by
  have same (h : e.cursor? slot = none) :
      (history slot events).cursor initial ≤ (history slot (events ++ [e])).cursor initial := by
    simp [History.cursor, history, h]
  cases e with
  | handles | poll | record | turn | receive | stop | leave | reopen => exact same rfl
  | subscribe k channel subscriber result =>
      cases result with
      | error e => exact same rfl
      | ok cursor =>
          have hk : k ≠ slot := by
            rintro rfl
            exact hnone channel subscriber cursor rfl
          exact same (if_neg hk)
  | handOver k m =>
      by_cases hk : k = slot
      · subst hk
        rw [history_handOver, History.cursor_concat]
        exact Int.le_of_lt (inv.lt_of_handOver step).1
      · exact same (if_neg hk)

theorem cursor_le_of_run (inv : Resuming slot place initial before s)
    (durable : ∀ e ∈ events, e.Durable slot place)
    (hnone : ∀ channel subscriber cursor, .subscribe slot channel subscriber (.ok cursor) ∉ events)
    (run : Run body s events t) :
    (history slot before).cursor initial ≤ (history slot (before ++ events)).cursor initial := by
  induction run with
  | nil => simp
  | @snoc _ _ events e run last ih =>
      obtain ⟨hevents, -⟩ := List.forall_mem_append.mp durable
      have reached := inv.run hevents run
      refine Int.le_trans (ih hevents fun c n i hi => hnone c n i (List.mem_append_left _ hi)) ?_
      rw [← List.append_assoc]
      refine reached.cursor_le_of_step ?_ last
      rintro channel subscriber cursor rfl
      exact hnone channel subscriber cursor (List.mem_append_right _ List.mem_cons_self)

/-- Only another subscription hands over again what has been handed over. -/
theorem subscribed_between (inv : Resuming slot place initial before s)
    (durable : ∀ e ∈ events, e.Durable slot place) {m n : LogEntry} {u v : Subscribers τ α}
    (first : Step body s (.handOver slot m) t) (between : Run body t events u)
    (again : Step body u (.handOver slot n) v) (hle : n.id ≤ m.id) :
    ∃ channel subscriber cursor, .subscribe slot channel subscriber (.ok cursor) ∈ events := by
  by_contra hnone
  have hfirst : (.handOver slot m : Event τ α).Durable slot place := trivial
  have handed := inv.own hfirst rfl first
  have hcursor := handed.cursor_le_of_run durable
    (fun channel subscriber cursor hmem => hnone ⟨channel, subscriber, cursor, hmem⟩) between
  have hnext := ((handed.run durable between).lt_of_handOver again).1
  rw [history_handOver, History.cursor_concat] at hcursor
  omega

end Resuming

/-- A durable subscriber has subscriptions one after another, none of which is stopped, among
handles and other subscriptions that do whatever they do. At any time, its stored cursor is the one
that was stored last; it is the initial one or the id of a message handed over, and not past the
cursor of the poller at work. What is in its channel past the initial cursor, and up to that of the
last poller, has been handed over. A message is handed over only while no id from its own on has
been stored, and another time only by another subscription. -/
theorem resumes {body : τ → Body α} {d : Database} {slot : Nat} {place : String × String}
    {events : List (Event τ α)} {s : Subscribers τ α} (hidle : d.draft = none)
    (bounded : d.committed.Bounded) (durable : ∀ e ∈ events, e.Durable slot place)
    (run : Run body (.start d) events s) :
    let initial := (d.committed.cursor? place).getD PubSub.start
    let past := history slot events
    (∀ last, s.committed.cursor? place = some last →
      last = past.stored initial ∧ (last = initial ∨ ∃ m ∈ past.handed, m.id = last)) ∧
    (∀ p, s.pollers slot = some p → past.cursors.getLast? = some p.cursor ∧
      ∃ last, s.committed.cursor? place = some last ∧ last ≤ p.cursor) ∧
    (∀ cursor, past.cursors.getLast? = some cursor →
      ∀ (id : Int) (row : MessageRow), s.committed.messages[id]? = some row →
        row.channel = place.1 → initial < id → id ≤ cursor → ⟨id, row.payload⟩ ∈ past.handed) ∧
    (∀ before m rest, events = before ++ .handOver slot m :: rest →
      ∀ id ∈ (history slot before).recorded, id < m.id) ∧
    ∀ before m between n rest,
      events = before ++ .handOver slot m :: (between ++ .handOver slot n :: rest) →
      n.id ≤ m.id →
      ∃ channel subscriber cursor, .subscribe slot channel subscriber (.ok cursor) ∈ between := by
  intro initial past
  have start : Resuming slot place initial [] (.start d : Subscribers τ α) :=
    .start hidle bounded slot place
  have inv : Resuming slot place initial events s := start.run durable run
  have stored {last : Int} (hlast : s.committed.cursor? place = some last) :
      last = past.stored initial := by
    have hpersisted := inv.progress.persisted
    rw [hlast] at hpersisted
    exact hpersisted
  refine ⟨?_, ?_, ?_, ?_, ?_⟩
  · intro last hlast
    refine ⟨stored hlast, ?_⟩
    rw [stored hlast]
    exact inv.progress.handed_of_stored
  · intro p hp
    have session := inv.session p hp
    obtain ⟨last, hlast⟩ := Option.isSome_iff_exists.mp session.attached
    refine ⟨session.cursor_eq, last, hlast, ?_⟩
    rw [stored hlast, ← session.cursor_initial initial]
    exact inv.progress.stored_le
  · intro cursor hcursor id row hrow hchannel hpast hle
    refine inv.progress.covered ⟨id, row.payload⟩ ?_ ?_
    · exact Store.mem_messagesPast.mpr ⟨row, hrow, hchannel, hpast, rfl⟩
    · rw [History.cursor, hcursor]
      exact hle
  · rintro before m rest rfl
    obtain ⟨u, v, first, step, -⟩ := run.split
    obtain ⟨hbefore, -⟩ := List.forall_mem_append.mp durable
    exact ((start.run hbefore first).lt_of_handOver step).2
  · rintro before m between n rest rfl hle
    obtain ⟨u, v, first, step, rest⟩ := run.split
    obtain ⟨w, x, middle, again, -⟩ := rest.split
    obtain ⟨hbefore, hsince⟩ := List.forall_mem_append.mp durable
    obtain ⟨hbetween, -⟩ := List.forall_mem_append.mp (List.forall_mem_cons.mp hsince).2
    exact (start.run hbefore first).subscribed_between hbetween step middle again hle

/-- The log as it is served while all calls fail. -/
def refused (call : LogCall) (d : Database) : call.Reply × Database :=
  (.error (.store .locked), d)

/-- A cursor fails to be stored before the subscription breaks off, so the next one goes on from the
start and hands the message over again. -/
theorem resumes_after_break :
    let message : LogEntry := ⟨1, "hello"⟩
    let publish : Statement := .operate ⟨0⟩ (.publish "news" "hello")
    let events : List (Event Unit Unit) :=
      [.subscribe 0 "news" "a" (.ok PubSub.start), .handles (.statement 0 publish (.ok ())),
        .poll 0, .handOver 0 message, .record 0 1 (.error (.store .locked)), .leave 0,
        .subscribe 0 "news" "a" (.ok PubSub.start), .poll 0, .handOver 0 message]
    ∃ s, Run (fun _ => pure ()) (start (.empty .file)) events s ∧
      s.committed.cursor? ("news", "a") = some PubSub.start ∧
      message ∈ (history 0 events).handed := by
  intro message publish events
  let body (_ : Unit) : Body Unit := pure ()
  let p : Poller := .attached {} "news" "a" PubSub.start
  let fetched : Poller := { p with phase := .handing [message] }
  let published := newcomer.execute publish
  let fetching := published.put 0 (some fetched) published.database
  let handing := fetching.put 0 (some (p.handOver message [])) fetching.database
  let failing := handing.put 0 (some { p.handOver message [] with phase := .handing [] })
    handing.database
  let broken := failing.put 0 none failing.database
  let resumed := broken.put 0 (some p) broken.database
  let again := resumed.put 0 (some fetched) resumed.database
  let handed := again.put 0 (some (p.handOver message [])) again.database
  have serves : Serves served := fun call d => Or.inl ⟨⟨0⟩, rfl⟩
  have refuses : Serves refused := fun call d => Or.inr ⟨.store .locked, rfl⟩
  have publishes : Step body newcomer (.handles (.statement 0 publish (.ok ()))) published :=
    Step.statement body newcomer 0 publish trivial
  have polls : Step body published (.poll 0) fetching := .poll serves rfl rfl
  have hands : Step body fetching (.handOver 0 message) handing :=
    .handOver serves rfl rfl rfl
  have fails : Step body handing (.record 0 1 (.error (.store .locked))) failing :=
    .record refuses rfl rfl rfl
  have breaks : Step body failing (.leave 0) broken := .leave rfl
  have subscribes : Step body broken (.subscribe 0 "news" "a" (.ok PubSub.start)) resumed :=
    .subscribed (p := p) serves rfl rfl
  have pollsAgain : Step body resumed (.poll 0) again := .poll serves rfl rfl
  have handsAgain : Step body again (.handOver 0 message) handed :=
    .handOver serves rfl rfl rfl
  have run : Run body (start (.empty .file)) events handed :=
    ((((((((run_newcomer body).snoc publishes).snoc polls).snoc hands).snoc fails).snoc
      breaks).snoc subscribes).snoc pollsAgain).snoc handsAgain
  have durable : ∀ e ∈ events, e.Durable 0 ("news", "a") := by
    simp [events, Event.Durable]
  have visible : handed.committed.messages[(1 : Int)]? = some ⟨"news", "hello", 0⟩ := rfl
  obtain ⟨-, -, hcovered, -⟩ := resumes rfl Store.bounded_empty durable run
  exact ⟨handed, run, rfl, hcovered 1 rfl 1 _ visible rfl (by decide +kernel) (Int.le_refl 1)⟩

end SqlCache.PubSub.Subscribers
