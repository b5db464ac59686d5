import SqlCache.Proofs.Handles.Messages
import SqlCache.Proofs.PubSub.Moves

/-!
A subscription on a database on which handles are at work. Its poller takes ticks, hands messages
over, stores its cursor and ends, with the handles' moves in between; the log may fail any of its
calls. Beside the state of all of them, `Watched` keeps what has happened: what the receiver has
taken, which messages have been committed, and which of them went away before they were fetched.
-/

set_option autoImplicit false

namespace SqlCache.PubSub

open Store (Evolves)

/-- Does something answer calls on the log as the database does, unless it fails a call? -/
def Serves (handle : (call : LogCall) → Database → call.Reply × Database) : Prop :=
  ∀ call d, (∃ now, handle call d = d.applyLog now call) ∨ ∃ e, handle call d = (.error e, d)

/-- What is fetched and not yet handed over. -/
def Phase.rest : Phase → List LogEntry
  | handing rest | recording _ rest => rest
  | idle | ended => []

/-- The messages that become visible when the tables change. -/
def appeared (s t : Store) : List (Int × MessageRow) :=
  t.messages.toList.filter fun r => decide (s.messages[r.1]? = none)

/-- The ids of the messages that go away when the tables change, and that the poller would still
have fetched. -/
def lost (p : Poller) (s t : Store) : List Int :=
  (s.messages.toList.map Prod.fst).filter fun id =>
    decide (t.messages[id]? = none) && decide (p.cursor < id) &&
      decide (id ∉ p.phase.rest.map LogEntry.id)

section Messages

variable {s t : Store} {p : Poller} {r : Int × MessageRow} {id : Int}

theorem mem_appeared :
    r ∈ appeared s t ↔ t.messages[r.1]? = some r.2 ∧ s.messages[r.1]? = none := by
  rw [appeared, List.mem_filter, Store.mem_messages, decide_eq_true_eq]

theorem mem_lost : id ∈ lost p s t ↔ (∃ row, s.messages[id]? = some row) ∧
    t.messages[id]? = none ∧ p.cursor < id ∧ id ∉ p.phase.rest.map LogEntry.id := by
  simp only [lost, List.mem_filter, Bool.and_eq_true, decide_eq_true_eq, List.mem_map]
  constructor
  · rintro ⟨⟨r, hr, rfl⟩, ⟨hgone, hcursor⟩, hrest⟩
    exact ⟨⟨r.2, Store.mem_messages.mp hr⟩, hgone, hcursor, hrest⟩
  · rintro ⟨⟨row, hrow⟩, hgone, hcursor, hrest⟩
    exact ⟨⟨(id, row), Store.mem_messages.mpr hrow, rfl⟩, ⟨hgone, hcursor⟩, hrest⟩

theorem appeared_self (s : Store) : appeared s s = [] := by
  refine List.eq_nil_iff_forall_not_mem.mpr fun r hr => ?_
  obtain ⟨hnew, hold⟩ := mem_appeared.mp hr
  rw [hold] at hnew
  cases hnew

theorem lost_self (p : Poller) (s : Store) : lost p s s = [] := by
  refine List.eq_nil_iff_forall_not_mem.mpr fun id hid => ?_
  obtain ⟨⟨row, hrow⟩, hgone, -, -⟩ := mem_lost.mp hid
  rw [hgone] at hrow
  cases hrow

/-- What becomes visible has an id that had not been given out. -/
theorem lt_of_mem_appeared (evolves : Evolves s t) (h : r ∈ appeared s t) :
    s.lastMessageId < r.1 := by
  obtain ⟨hnew, hold⟩ := mem_appeared.mp h
  by_contra hle
  have hkept := evolves.keeps (Int.not_lt.mp hle) hnew
  rw [hold] at hkept
  cases hkept

theorem ascending_appeared (s t : Store) : (appeared s t).Pairwise fun a b => a.1 < b.1 :=
  t.ascending_messages.filter _

end Messages

/-- A subscription and the handles on its database, with what has happened so far. -/
structure Watched (τ α : Type) where
  handles : Handles τ α
  poller : Poller
  /-- What the receiver has taken. -/
  received : List String
  /-- All messages that were ever visible, as they became so. -/
  published : List (Int × MessageRow)
  /-- The ids of those that went away before the poller fetched them. -/
  missed : List Int

namespace Watched

variable {τ α : Type}

/-- A subscription that has just been made. -/
def start (s : Handles τ α) (p : Poller) : Watched τ α where
  handles := s
  poller := p
  received := []
  published := s.database.committed.messages.toList
  missed := []

/-- Note what becomes of the messages when the handles or the database go on. -/
def observe (w : Watched τ α) (s : Handles τ α) : Watched τ α :=
  let before := w.handles.database.committed
  let after := s.database.committed
  { w with
    handles := s
    published := w.published ++ appeared before after
    missed := w.missed ++ lost w.poller before after }

/-- The same handles on a database that the poller has called. -/
def withDatabase (w : Watched τ α) (d : Database) : Watched τ α :=
  w.observe { w.handles with database := d }

/-- One move of a handle, of the poller or of the receiver. -/
inductive Step (body : τ → Body α) : Watched τ α → Watched τ α → Prop where
  | handles {w : Watched τ α} {s : Handles τ α} {e : Handles.Event τ α}
      (step : Handles.Step body w.handles e s) : Step body w (w.observe s)
  | poll {w : Watched τ α} {handle : (call : LogCall) → Database → call.Reply × Database}
      {p : Poller} {d : Database} (serves : Serves handle)
      (polls : w.poller.poll handle w.handles.database = (p, d)) :
      Step body w { w.withDatabase d with poller := p }
  | next {w : Watched τ α} {handle : (call : LogCall) → Database → call.Reply × Database}
      {p : Poller} {d : Database} (serves : Serves handle)
      (moves : w.poller.next? handle w.handles.database = some (p, d)) :
      Step body w { w.withDatabase d with poller := p }
  | stop {w : Watched τ α} {handle : (call : LogCall) → Database → call.Reply × Database}
      {p : Poller} {d : Database} (serves : Serves handle)
      (stops : w.poller.stop handle w.handles.database = (p, d)) :
      Step body w { w.withDatabase d with poller := p }
  | receive {w : Watched τ α} {payload : String} {p : Poller}
      (takes : w.poller.receive? = some (payload, p)) :
      Step body w { w with poller := p, received := w.received ++ [payload] }

/-- Moves one after the other. -/
inductive Run (body : τ → Body α) : Watched τ α → Watched τ α → Prop where
  | refl (w : Watched τ α) : Run body w w
  | tail {v w x : Watched τ α} (run : Run body v w) (step : Step body w x) : Run body v x

/-- The tables that everybody can read. -/
def committed (w : Watched τ α) : Store := w.handles.database.committed

section History

variable {body : τ → Body α} {v w x : Watched τ α}

/-- Every move adds what it makes of the messages to what has happened. -/
theorem Step.history (step : Step body w x) :
    x.published = w.published ++ appeared w.committed x.committed ∧
    x.missed = w.missed ++ lost w.poller w.committed x.committed := by
  cases step with
  | handles | poll | next | stop => exact ⟨rfl, rfl⟩
  | receive takes =>
      show w.published = w.published ++ appeared w.committed w.committed ∧
        w.missed = w.missed ++ lost w.poller w.committed w.committed
      rw [appeared_self, lost_self, List.append_nil, List.append_nil]
      exact ⟨rfl, rfl⟩

/-- What has happened stays. -/
theorem Run.history (run : Run body v w) :
    v.published ⊆ w.published ∧ v.missed ⊆ w.missed := by
  induction run with
  | refl => exact ⟨List.Subset.refl _, List.Subset.refl _⟩
  | tail run step ih =>
      obtain ⟨hpublished, hmissed⟩ := step.history
      rw [hpublished, hmissed]
      exact ⟨List.subset_append_of_subset_left _ ih.1, List.subset_append_of_subset_left _ ih.2⟩

/-- What was published has been in the tables that everybody can read. -/
theorem Run.visible_of_mem_published {s : Handles τ α} {p : Poller} {r : Int × MessageRow}
    (run : Run body (start s p) w) (hr : r ∈ w.published) :
    ∃ x, Run body (start s p) x ∧ Run body x w ∧ x.committed.messages[r.1]? = some r.2 := by
  generalize hv : start s p = v at run
  induction run with
  | refl =>
      subst hv
      exact ⟨start s p, .refl _, .refl _, Store.mem_messages.mp hr⟩
  | @tail w y run step ih =>
      rw [step.history.1] at hr
      rcases List.mem_append.mp hr with hr | hr
      · obtain ⟨x, first, last, hvisible⟩ := ih hr
        exact ⟨x, first, last.tail step, hvisible⟩
      · exact ⟨y, run.tail step, .refl _, (mem_appeared.mp hr).1⟩

/-- What was missed went away in a move, before it was fetched. -/
theorem Run.mem_missed {s : Handles τ α} {p : Poller} {id : Int}
    (run : Run body (start s p) w) : id ∈ w.missed ↔
      ∃ x y, Run body (start s p) x ∧ Step body x y ∧ Run body y w ∧
        id ∈ lost x.poller x.committed y.committed := by
  constructor
  · intro hid
    generalize hv : start s p = v at run
    induction run with
    | refl =>
        subst hv
        cases hid
    | @tail w y run step ih =>
        rw [step.history.2] at hid
        rcases List.mem_append.mp hid with hid | hid
        · obtain ⟨x, z, first, move, last, hlost⟩ := ih hid
          exact ⟨x, z, first, move, last.tail step, hlost⟩
        · exact ⟨w, y, run, step, .refl _, hid⟩
  · rintro ⟨x, y, -, step, last, hlost⟩
    refine last.history.2 ?_
    rw [step.history.2]
    exact List.mem_append_right _ hlost

end History

end Watched

/-! ## The log as it is served -/

section Serves

variable {handle : (call : LogCall) → Database → call.Reply × Database} {d : Database}

/-- Two databases with the same messages, in the tables and in the draft. -/
structure SameMessages (d d' : Database) : Prop where
  messages : d'.committed.messages = d.committed.messages
  last : d'.committed.lastMessageId = d.committed.lastMessageId
  draft : d'.draft = d.draft

theorem SameMessages.refl (d : Database) : SameMessages d d := ⟨rfl, rfl, rfl⟩

theorem SameMessages.evolves {d d' : Database} (same : SameMessages d d') :
    Evolves d.committed d'.committed := .of_same same.messages same.last

theorem SameMessages.numbered {d d' : Database} (same : SameMessages d d') (n : d.Numbered) :
    d'.Numbered where
  bounded := same.evolves.bounded n.bounded
  draft hd := by
    rw [same.draft] at hd
    have hback : Evolves d'.committed d.committed :=
      .of_same same.messages.symm same.last.symm
    exact hback.trans (n.draft hd)

theorem SameMessages.oneWriter {τ α : Type} {s : Handles τ α} {d : Database}
    (same : SameMessages s.database d) (w : s.OneWriter) :
    Handles.OneWriter { s with database := d } := by
  refine w.of_database fun {draft} hd => ⟨draft, ?_⟩
  rw [same.draft, hd]

theorem SameMessages.trans {d d' d'' : Database} (first : SameMessages d d')
    (rest : SameMessages d' d'') : SameMessages d d'' :=
  ⟨rest.messages.trans first.messages, rest.last.trans first.last, rest.draft.trans first.draft⟩

/-- No call on the log changes what is published. -/
theorem Serves.sameMessages (serves : Serves handle) (call : LogCall) :
    SameMessages d (handle call d).2 := by
  rcases serves call d with ⟨now, h⟩ | ⟨e, h⟩
  · rw [h]
    obtain ⟨store, hstore, hcommitted⟩ := Database.execute_eq_committed d (.log now call)
    have hdatabase : (d.applyLog now call).2 = { d with committed := store } := hstore
    rw [hdatabase]
    rcases hcommitted with rfl | rfl
    · exact .refl _
    · obtain ⟨hmessages, hlast⟩ := d.committed.applyLog_messages now call
      exact ⟨hmessages, hlast, rfl⟩
  · rw [h]
    exact .refl _

/-- A fetch that succeeds brings messages of the committed tables. -/
theorem Serves.fetch_ok (serves : Serves handle) {channel : String} {after limit : Int}
    {batch : List LogEntry} {d' : Database}
    (h : handle (.fetchAfter channel after limit) d = (.ok batch, d')) :
    batch = d.committed.messagesAfter channel after limit := by
  rcases serves (.fetchAfter channel after limit) d with ⟨now, hserved⟩ | ⟨e, hserved⟩
  · rw [hserved] at h
    unfold Database.applyLog Database.direct at h
    split at h
    · cases (Prod.mk.inj h).1
    · exact (Except.ok.inj (Prod.mk.inj h).1).symm
  · rw [hserved] at h
    cases (Prod.mk.inj h).1

theorem SameMessages.messagesAfter {d d' : Database} (same : SameMessages d d') (channel : String)
    (after limit : Int) : d'.committed.messagesAfter channel after limit =
      d.committed.messagesAfter channel after limit := by
  rw [Store.messagesAfter, Store.messagesAfter, same.messages]

/-- A subscription begins idle, at the cursor that was found. -/
theorem Serves.subscribe {settings : PubSubSettings} {channel subscriber : String} {p : Poller}
    {d' : Database} (serves : Serves handle)
    (h : Poller.subscribe handle settings channel subscriber d = (.ok p, d')) :
    SameMessages d d' ∧ ∃ cursor, p = Poller.attached settings channel subscriber cursor := by
  obtain ⟨reply, hcall, hp⟩ := Poller.subscribe_spec h
  have hsame := serves.sameMessages (d := d) (.attach channel subscriber)
  rw [hcall] at hsame
  cases reply with
  | ok cursor => exact ⟨hsame, cursor, Except.ok.inj hp⟩
  | error e => cases hp

/-- A tick fetches a batch, or leaves the poller as it is. -/
theorem Serves.poll {p p' : Poller} {d' : Database} (serves : Serves handle)
    (h : p.poll handle d = (p', d')) : SameMessages d d' ∧
      (p' = p ∨ p.phase = .idle ∧ p' = { p with
        phase := .handing (d.committed.messagesAfter p.channel p.cursor p.limit) }) := by
  rcases Poller.poll_spec h with ⟨-, rfl, rfl⟩ | ⟨hidle, reply, hcall, hreply⟩
  · exact ⟨.refl _, Or.inl rfl⟩
  have hsame := serves.sameMessages (d := d) (.fetchAfter p.channel p.cursor p.limit)
  rw [hcall] at hsame
  rcases hreply with ⟨batch, rfl, rfl⟩ | ⟨e, rfl, rfl⟩
  · rw [serves.fetch_ok hcall]
    exact ⟨hsame, Or.inr ⟨hidle, rfl⟩⟩
  · exact ⟨hsame, Or.inl rfl⟩

/-- The poller's own moves: the batch is done, its next message is handed over, or a cursor has been
stored. -/
theorem Serves.next {p p' : Poller} {d' : Database} (serves : Serves handle)
    (h : p.next? handle d = some (p', d')) : SameMessages d d' ∧
      ((p.phase = .handing [] ∧ p' = { p with phase := .idle }) ∨
        (∃ m rest, p.phase = .handing (m :: rest) ∧ p' = p.handOver m rest) ∨
        ∃ id rest, p.phase = .recording id rest ∧ p' = { p with phase := .handing rest }) := by
  rcases Poller.next_spec h with ⟨hphase, rfl, rfl⟩ | ⟨m, rest, hphase, -, rfl, rfl⟩ |
    ⟨id, rest, reply, hphase, hcall, rfl⟩
  · exact ⟨.refl _, Or.inl ⟨hphase, rfl⟩⟩
  · exact ⟨.refl _, Or.inr (Or.inl ⟨m, rest, hphase, rfl⟩)⟩
  · have hsame := serves.sameMessages (d := d) (.advance p.channel p.subscriber id)
    rw [hcall] at hsame
    exact ⟨hsame, Or.inr (Or.inr ⟨id, rest, hphase, rfl⟩)⟩

/-- A poller that is stopped has ended. -/
theorem Serves.stop {p p' : Poller} {d' : Database} (serves : Serves handle)
    (h : p.stop handle d = (p', d')) :
    SameMessages d d' ∧ p' = { p with phase := .ended } := by
  obtain ⟨hp, hcalls⟩ := Poller.stop_spec h
  refine ⟨?_, hp⟩
  have detaches {d₁ : Database} {reply : Result Unit}
      (hcall : handle (.detach p.channel p.subscriber) d₁ = (reply, d')) : SameMessages d₁ d' := by
    have hsame := serves.sameMessages (d := d₁) (.detach p.channel p.subscriber)
    rwa [hcall] at hsame
  rcases hcalls with ⟨-, rfl⟩ | ⟨id, rest, stored, d₁, reply, -, hstore, hcall⟩ | ⟨-, reply, hcall⟩
  · exact .refl _
  · have hsame := serves.sameMessages (d := d) (.advance p.channel p.subscriber id)
    rw [hstore] at hsame
    exact hsame.trans (detaches hcall)
  · exact detaches hcall

end Serves

/-! ## A poller that is left to itself -/

namespace Watched

variable {τ α : Type} {body : τ → Body α} {v w x : Watched τ α}

theorem Run.trans (first : Run body v w) (rest : Run body w x) : Run body v x := by
  induction rest with
  | refl => exact first
  | tail _ step ih => exact ih.tail step

/-- What a poller does until it waits for somebody is a run of its own moves. -/
theorem Run.of_settle {handle : (call : LogCall) → Database → call.Reply × Database}
    (serves : Serves handle) (w : Watched τ α) :
    ∃ x, Run body w x ∧ x.received = w.received ∧
      w.poller.settle handle w.handles.database = (x.poller, x.handles.database) := by
  -- Every move uses up some of the batch, so the induction is on what is left of it.
  induction hwork : w.poller.phase.work using Nat.strongRecOn generalizing w with
  | _ work ih =>
      rw [Poller.settle]
      split
      · exact ⟨w, .refl w, rfl, rfl⟩
      · next p d moves =>
          have step : Step body w { w.withDatabase d with poller := p } := .next serves moves
          have hless : p.phase.work < work := hwork ▸ Poller.work_lt_of_next? moves
          obtain ⟨x, run, hreceived, hsettle⟩ :=
            ih p.phase.work hless { w.withDatabase d with poller := p } rfl
          exact ⟨x, ((Run.refl w).tail step).trans run, hreceived, hsettle⟩

end Watched

end SqlCache.PubSub
