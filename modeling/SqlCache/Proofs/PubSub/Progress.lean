import SqlCache.Proofs.PubSub.Subscribers

/-!
What is known of a durable subscriber from one subscription to the next. All that a subscription
which breaks off leaves behind is the stored cursor. What that tells of the messages handed over so
far is `Progress`; what a poller that is at work adds to it is `Session`. Both are kept by what
others do to the tables and by each move of the subscriber itself.
-/

set_option autoImplicit false

namespace SqlCache.PubSub.Subscribers

open Store (Evolves)

variable {τ α : Type}

/-! ## What has happened in a slot -/

namespace Event

/-- The subscriber of a channel uses one slot alone, and its subscriptions are never stopped. -/
def Durable (slot : Nat) (place : String × String) : Event τ α → Prop
  | subscribe k channel subscriber _ => k = slot ↔ (channel, subscriber) = place
  | stop k => k ≠ slot
  | _ => True

/-- The message handed over in a slot. -/
def handed? (slot : Nat) : Event τ α → Option LogEntry
  | handOver k m => if k = slot then some m else none
  | _ => none

/-- The id stored for a slot. -/
def recorded? (slot : Nat) : Event τ α → Option Int
  | record k id (.ok ()) => if k = slot then some id else none
  | _ => none

/-- The cursor that the poller of a slot comes to. -/
def cursor? (slot : Nat) : Event τ α → Option Int
  | subscribe k _ _ (.ok cursor) => if k = slot then some cursor else none
  | handOver k m => if k = slot then some m.id else none
  | _ => none

end Event

/-- What has happened in a slot. -/
structure History where
  /-- The messages handed over. -/
  handed : List LogEntry
  /-- The ids stored as cursors. -/
  recorded : List Int
  /-- The cursors of the pollers. -/
  cursors : List Int

/-- What moves have brought about in a slot. -/
def history (slot : Nat) (events : List (Event τ α)) : History where
  handed := events.filterMap (Event.handed? slot)
  recorded := events.filterMap (Event.recorded? slot)
  cursors := events.filterMap (Event.cursor? slot)

namespace History

/-- The id stored last, or else the cursor that was there at first. -/
def stored (initial : Int) (h : History) : Int := h.recorded.getLast?.getD initial

/-- The cursor of the last poller, or else the one that was there at first. -/
def cursor (initial : Int) (h : History) : Int := h.cursors.getLast?.getD initial

/-- The cursor that is stored is the initial one, or one that has been stored. -/
theorem stored_cases (initial : Int) (h : History) :
    h.stored initial = initial ∨ h.stored initial ∈ h.recorded := by
  unfold stored
  cases hlast : h.recorded.getLast? with
  | none => exact Or.inl rfl
  | some id => exact Or.inr (List.mem_of_getLast? hlast)

theorem stored_concat (initial : Int) (handed : List LogEntry) (recorded cursors : List Int)
    (id : Int) : (⟨handed, recorded ++ [id], cursors⟩ : History).stored initial = id := by
  rw [stored, List.getLast?_concat]
  rfl

theorem cursor_concat (initial : Int) (handed : List LogEntry) (recorded cursors : List Int)
    (id : Int) : (⟨handed, recorded, cursors ++ [id]⟩ : History).cursor initial = id := by
  rw [cursor, List.getLast?_concat]
  rfl

end History

section History

variable {slot : Nat} {events : List (Event τ α)} {e : Event τ α}

/-- A move that hands nothing over and brings no cursor adds nothing. -/
theorem history_of_none (hhanded : e.handed? slot = none) (hrecorded : e.recorded? slot = none)
    (hcursor : e.cursor? slot = none) : history slot (events ++ [e]) = history slot events := by
  simp [history, hhanded, hrecorded, hcursor]

/-- A move elsewhere adds nothing. -/
theorem history_of_slot?_ne (h : e.slot? ≠ some slot) :
    history slot (events ++ [e]) = history slot events := by
  have hne : ∀ {k}, e.slot? = some k → k ≠ slot := by
    rintro k hk rfl
    exact h hk
  cases e with
  | handles | poll | turn | receive | stop | leave | reopen => exact history_of_none rfl rfl rfl
  | subscribe k channel subscriber result =>
      refine history_of_none rfl rfl ?_
      cases result with
      | error e => rfl
      | ok cursor => exact if_neg (hne rfl)
  | handOver k m => exact history_of_none (if_neg (hne rfl)) rfl (if_neg (hne rfl))
  | record k id reply =>
      refine history_of_none rfl ?_ rfl
      cases reply with
      | error e => rfl
      | ok u => exact if_neg (hne rfl)

theorem history_subscribed (slot : Nat) (events : List (Event τ α)) (channel subscriber : String)
    (cursor : Int) :
    history slot (events ++ [.subscribe slot channel subscriber (.ok cursor)]) =
      { history slot events with cursors := (history slot events).cursors ++ [cursor] } := by
  simp [history, Event.handed?, Event.recorded?, Event.cursor?]

theorem history_handOver (slot : Nat) (events : List (Event τ α)) (m : LogEntry) :
    history slot (events ++ [.handOver slot m]) =
      { history slot events with
        handed := (history slot events).handed ++ [m]
        cursors := (history slot events).cursors ++ [m.id] } := by
  simp [history, Event.handed?, Event.recorded?, Event.cursor?]

theorem history_recorded (slot : Nat) (events : List (Event τ α)) (id : Int) :
    history slot (events ++ [.record slot id (.ok ())]) =
      { history slot events with recorded := (history slot events).recorded ++ [id] } := by
  simp [history, Event.handed?, Event.recorded?, Event.cursor?]

end History

/-! ## The invariant -/

/-- A batch is the beginning of what there is on a channel past a cursor. -/
structure Upcoming (s : Store) (channel : String) (cursor : Int) (batch : List LogEntry) :
    Prop where
  ascending : batch.Pairwise fun a b => a.id < b.id
  past : ∀ m ∈ batch, cursor < m.id
  /-- Up to its last message, the batch leaves nothing out. -/
  complete : ∀ m ∈ batch, ∀ n ∈ s.messagesPast channel cursor, n.id ≤ m.id → n ∈ batch

/-- What is known of a durable subscriber from its stored cursor and from what has happened. -/
structure Progress (place : String × String) (initial : Int) (h : History) (s : Store) : Prop where
  /-- The stored cursor is the one that was stored last. -/
  persisted : (s.cursor? place).getD PubSub.start = h.stored initial
  recorded_le : ∀ id ∈ h.recorded, id ≤ h.stored initial
  handed_of_recorded : ∀ id ∈ h.recorded, ∃ m ∈ h.handed, m.id = id
  stored_le : h.stored initial ≤ h.cursor initial
  handed_of_cursor : h.cursor initial = initial ∨ ∃ m ∈ h.handed, m.id = h.cursor initial
  given : ∀ m ∈ h.handed, m.id ≤ s.lastMessageId
  /-- Up to the last poller's cursor, everything that is there has been handed over. -/
  covered : ∀ m ∈ s.messagesPast place.1 initial, m.id ≤ h.cursor initial → m ∈ h.handed

/-- What is known besides of a poller that is at work. -/
structure Session (place : String × String) (h : History) (s : Store) (p : Poller) : Prop where
  channel_eq : p.channel = place.1
  subscriber_eq : p.subscriber = place.2
  attached : (s.cursor? place).isSome = true
  cursor_eq : h.cursors.getLast? = some p.cursor
  recording : ∀ id rest, p.phase = .recording id rest → id = p.cursor ∧ ∃ m ∈ h.handed, m.id = id
  batch : Upcoming s place.1 p.cursor p.phase.rest

/-! ## Batches -/

namespace Upcoming

variable {s t : Store} {channel : String} {cursor : Int} {m : LogEntry} {rest : List LogEntry}

theorem nil (s : Store) (channel : String) (cursor : Int) : Upcoming s channel cursor [] where
  ascending := .nil
  past m hm := by cases hm
  complete m hm := by cases hm

/-- So is what a fetch brings. -/
theorem fetched (s : Store) (channel : String) (cursor limit : Int) :
    Upcoming s channel cursor (s.messagesAfter channel cursor limit) where
  ascending := (s.ascending_messagesPast channel cursor).sublist (List.take_sublist _ _)
  past _ hm := Store.lt_of_mem_messagesPast (List.mem_of_mem_take hm)
  complete _ hm _ hn hle := Store.mem_messagesAfter_of_le hm hn hle

/-- Its first message is the next one past the cursor. -/
theorem eq_head (upcoming : Upcoming s channel cursor (m :: rest)) {n : LogEntry}
    (hn : n ∈ s.messagesPast channel cursor) (hle : n.id ≤ m.id) : n = m := by
  rcases List.mem_cons.mp (upcoming.complete m List.mem_cons_self n hn hle) with heq | hmem
  · exact heq
  · have hlt := List.rel_of_pairwise_cons upcoming.ascending hmem
    omega

/-- The others come after it. -/
theorem tail (upcoming : Upcoming s channel cursor (m :: rest)) :
    Upcoming s channel m.id rest where
  ascending := upcoming.ascending.of_cons
  past n hn := List.rel_of_pairwise_cons upcoming.ascending hn
  complete n hn x hx hle := by
    have hpast := Store.lt_of_mem_messagesPast hx
    have hcursor := upcoming.past m List.mem_cons_self
    have hx' := Store.mem_messagesPast_of_lt hx (Int.lt_trans hcursor hpast)
    rcases List.mem_cons.mp (upcoming.complete n (List.mem_cons_of_mem _ hn) x hx' hle) with
      rfl | hmem
    · omega
    · exact hmem

end Upcoming

/-! ## The tables go on -/

section Evolves

variable {place : String × String} {initial : Int} {h : History} {s t : Store} {p : Poller}

/-- Messages with ids that had been given out were there before. -/
theorem mem_messagesPast_of_evolves (evolves : Evolves s t) {channel : String} {after : Int}
    {m : LogEntry} (hm : m ∈ t.messagesPast channel after) (hle : m.id ≤ s.lastMessageId) :
    m ∈ s.messagesPast channel after := by
  obtain ⟨row, hrow, hrest⟩ := Store.mem_messagesPast.mp hm
  exact Store.mem_messagesPast.mpr ⟨row, evolves.keeps hle hrow, hrest⟩

/-- Publishing adds nothing before the end of a batch that was fetched. -/
theorem Upcoming.evolves {channel : String} {cursor : Int} {batch : List LogEntry}
    (upcoming : Upcoming s channel cursor batch) (evolves : Evolves s t)
    (given : ∀ m ∈ batch, m.id ≤ s.lastMessageId) : Upcoming t channel cursor batch where
  ascending := upcoming.ascending
  past := upcoming.past
  complete m hm n hn hle := by
    have hgiven := Int.le_trans hle (given m hm)
    exact upcoming.complete m hm n (mem_messagesPast_of_evolves evolves hn hgiven) hle

/-- Publishing adds nothing up to a poller's cursor: past the initial one, it is the id of a message
that has been handed over. -/
theorem Progress.covered_of_evolves (progress : Progress place initial h s) (evolves : Evolves s t)
    {m : LogEntry} (hm : m ∈ t.messagesPast place.1 initial) (hle : m.id ≤ h.cursor initial) :
    m ∈ h.handed := by
  have hpast := Store.lt_of_mem_messagesPast hm
  rcases progress.handed_of_cursor with hinitial | ⟨n, hn, hid⟩
  · omega
  · have hgiven := progress.given n hn
    exact progress.covered m (mem_messagesPast_of_evolves evolves hm (by omega)) hle

theorem Progress.evolves (progress : Progress place initial h s) (evolves : Evolves s t)
    (hcursor : (t.cursor? place).getD PubSub.start = (s.cursor? place).getD PubSub.start) :
    Progress place initial h t where
  persisted := hcursor.trans progress.persisted
  recorded_le := progress.recorded_le
  handed_of_recorded := progress.handed_of_recorded
  stored_le := progress.stored_le
  handed_of_cursor := progress.handed_of_cursor
  given m hm := Int.le_trans (progress.given m hm) evolves.last_le
  covered _ hm hle := progress.covered_of_evolves evolves hm hle

theorem Session.evolves (session : Session place h s p) (evolves : Evolves s t)
    (attached : (t.cursor? place).isSome = true)
    (fetched : ∀ id ∈ p.phase.ids, id ≤ s.lastMessageId) : Session place h t p where
  channel_eq := session.channel_eq
  subscriber_eq := session.subscriber_eq
  attached := attached
  cursor_eq := session.cursor_eq
  recording := session.recording
  batch := session.batch.evolves evolves fun m hm => fetched m.id (Phase.mem_ids_of_mem_rest hm)

end Evolves

/-! ## What the subscriber's own moves do -/

section Own

variable {place : String × String} {initial : Int} {h : History} {s t : Store} {p : Poller}

/-- At first, nothing has happened. -/
theorem Progress.start (place : String × String) (s : Store) :
    Progress place ((s.cursor? place).getD PubSub.start) ⟨[], [], []⟩ s where
  persisted := rfl
  recorded_le id hid := by cases hid
  handed_of_recorded id hid := by cases hid
  stored_le := Int.le_refl _
  handed_of_cursor := Or.inl rfl
  given m hm := by cases hm
  covered m hm hle := by
    exact absurd (Store.lt_of_mem_messagesPast hm) (Int.not_lt.mpr hle)

theorem Progress.handed_of_stored (progress : Progress place initial h s) :
    h.stored initial = initial ∨ ∃ m ∈ h.handed, m.id = h.stored initial := by
  rcases h.stored_cases initial with hinitial | hrecorded
  · exact Or.inl hinitial
  · exact Or.inr (progress.handed_of_recorded _ hrecorded)

theorem Session.cursor_initial (session : Session place h s p) (initial : Int) :
    h.cursor initial = p.cursor := by
  rw [History.cursor, session.cursor_eq]
  rfl

/-- The next subscription goes on from the stored cursor, at or before where the last one was. -/
theorem Progress.subscribed (progress : Progress place initial h s) :
    Progress place initial
      { h with cursors := h.cursors ++ [(s.cursor? place).getD PubSub.start] } s := by
  have hcursor : History.cursor initial
      { h with cursors := h.cursors ++ [(s.cursor? place).getD PubSub.start] } =
      h.stored initial := by
    rw [History.cursor_concat, progress.persisted]
  refine ⟨progress.persisted, progress.recorded_le, progress.handed_of_recorded, ?_, ?_,
    progress.given, ?_⟩
  · exact Int.le_of_eq hcursor.symm
  · rw [hcursor]
    exact progress.handed_of_stored
  · intro m hm hle
    rw [hcursor] at hle
    exact progress.covered m hm (Int.le_trans hle progress.stored_le)

/-- A message that is handed over is the next one there is. -/
theorem Progress.handedOver (progress : Progress place initial h s) (session : Session place h s p)
    {m : LogEntry} {rest : List LogEntry} (ready : p.phase = .handing (m :: rest))
    (given : m.id ≤ s.lastMessageId) :
    Progress place initial
      { h with handed := h.handed ++ [m], cursors := h.cursors ++ [m.id] } s := by
  have hbatch := session.batch
  rw [ready] at hbatch
  have hpast := hbatch.past m List.mem_cons_self
  have hbefore := session.cursor_initial initial
  have hcursor : History.cursor initial
      { h with handed := h.handed ++ [m], cursors := h.cursors ++ [m.id] } = m.id :=
    History.cursor_concat ..
  refine ⟨progress.persisted, progress.recorded_le, ?_, ?_, ?_, ?_, ?_⟩
  · intro id hid
    obtain ⟨n, hn, heq⟩ := progress.handed_of_recorded id hid
    exact ⟨n, List.mem_append_left _ hn, heq⟩
  · have hstored := progress.stored_le
    rw [hcursor]
    exact Int.le_trans (hbefore ▸ hstored) (Int.le_of_lt hpast)
  · rw [hcursor]
    exact Or.inr ⟨m, List.mem_append_right _ List.mem_cons_self, rfl⟩
  · intro n hn
    rcases List.mem_append.mp hn with hold | hnew
    · exact progress.given n hold
    · rw [List.mem_singleton.mp hnew]
      exact given
  · intro n hn hle
    rw [hcursor] at hle
    by_cases hold : n.id ≤ p.cursor
    · rw [← hbefore] at hold
      exact List.mem_append_left _ (progress.covered n hn hold)
    · -- It is past the cursor and not past the message that is handed over.
      have hnext := Store.mem_messagesPast_of_lt hn (Int.not_le.mp hold)
      rw [hbatch.eq_head hnext hle]
      exact List.mem_append_right _ List.mem_cons_self

/-- A cursor that is stored is the poller's. -/
theorem Progress.recorded (progress : Progress place initial h s) (session : Session place h s p)
    {id : Int} {rest : List LogEntry} (ready : p.phase = .recording id rest) (evolves : Evolves s t)
    (hstored : t.cursor? place = some id) :
    Progress place initial { h with recorded := h.recorded ++ [id] } t := by
  obtain ⟨hid, hhanded⟩ := session.recording id rest ready
  have hcursor : h.cursor initial = id := (session.cursor_initial initial).trans hid.symm
  have hlast : History.stored initial { h with recorded := h.recorded ++ [id] } = id :=
    History.stored_concat ..
  refine ⟨?_, ?_, ?_, ?_, progress.handed_of_cursor, ?_, ?_⟩
  · rw [hstored, hlast]
    rfl
  · intro other hother
    rw [hlast]
    rcases List.mem_append.mp hother with hold | hnew
    · exact hcursor ▸ Int.le_trans (progress.recorded_le other hold) progress.stored_le
    · exact Int.le_of_eq (List.mem_singleton.mp hnew)
  · intro other hother
    rcases List.mem_append.mp hother with hold | hnew
    · exact progress.handed_of_recorded other hold
    · rw [List.mem_singleton.mp hnew]
      exact hhanded
  · rw [hlast]
    exact Int.le_of_eq hcursor.symm
  · intro m hm
    exact Int.le_trans (progress.given m hm) evolves.last_le
  · intro m hm hle
    exact progress.covered_of_evolves evolves hm hle

/-- A poller that is made waits for a tick. -/
theorem Session.subscribed {cursor : Int} (hstored : t.cursor? place = some cursor)
    (settings : PubSubSettings) (h : History) :
    Session place { h with cursors := h.cursors ++ [cursor] } t
      (.attached settings place.1 place.2 cursor) where
  channel_eq := rfl
  subscriber_eq := rfl
  attached := by
    rw [hstored]
    rfl
  cursor_eq := List.getLast?_concat
  recording id rest hphase := by cases hphase
  batch := .nil t place.1 cursor

theorem Session.handedOver (session : Session place h s p) {m : LogEntry} {rest : List LogEntry}
    (ready : p.phase = .handing (m :: rest)) :
    Session place { h with handed := h.handed ++ [m], cursors := h.cursors ++ [m.id] } s
      (p.handOver m rest) where
  channel_eq := session.channel_eq
  subscriber_eq := session.subscriber_eq
  attached := session.attached
  cursor_eq := List.getLast?_concat
  recording id others hphase := by
    obtain ⟨rfl, -⟩ := Phase.recording.inj hphase
    exact ⟨rfl, m, List.mem_append_right _ List.mem_cons_self, rfl⟩
  batch := by
    have hbatch := session.batch
    rw [ready] at hbatch
    exact hbatch.tail

/-- An id that is stored is of no concern to the poller. -/
theorem Session.recorded (session : Session place h s p) (id : Int) :
    Session place { h with recorded := h.recorded ++ [id] } s p where
  channel_eq := session.channel_eq
  subscriber_eq := session.subscriber_eq
  attached := session.attached
  cursor_eq := session.cursor_eq
  recording := session.recording
  batch := session.batch

/-- A poller that has stored its cursor, or failed to, or that takes a tick or is done. -/
theorem Session.goesOn (session : Session place h s p) {phase : Phase}
    (hphase : ∀ id rest, phase ≠ .recording id rest)
    (batch : Upcoming s place.1 p.cursor phase.rest) :
    Session place h s { p with phase } where
  channel_eq := session.channel_eq
  subscriber_eq := session.subscriber_eq
  attached := session.attached
  cursor_eq := session.cursor_eq
  recording id rest heq := absurd heq (hphase id rest)
  batch := batch

end Own

end SqlCache.PubSub.Subscribers
