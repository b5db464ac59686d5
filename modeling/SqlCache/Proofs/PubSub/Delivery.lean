import SqlCache.Proofs.PubSub.Watched

/-!
Delivery in order, without gaps and without duplicates. Whatever the handles, the poller and its
receiver do, and whatever fails, what has been handed over is what was published to the channel past
the cursor found on attaching and up to the poller's cursor, in the order of the ids, except for
what was purged before it was fetched. Main result: `delivered_in_order`.

The invariant (`Delivery`) accounts for every message that was published: it is handed over, or
fetched, or missed, or still in the tables, where the next fetch finds it.
-/

set_option autoImplicit false

namespace SqlCache.PubSub

open Store (Evolves)

/-! ## Lists in the order of their ids -/

section Ascending

variable {β : Type} {L M : List (Int × β)} {x : Int × β} {xs : List (Int × β)} {start cursor : Int}

/-- Lists in the order of their ids are equal when they have the same members. -/
theorem eq_of_ascending (hL : L.Pairwise fun a b => a.1 < b.1)
    (hM : M.Pairwise fun a b => a.1 < b.1) (h : ∀ r, r ∈ L ↔ r ∈ M) : L = M := by
  have nodup : ∀ {N : List (Int × β)}, N.Pairwise (fun a b => a.1 < b.1) → N.Nodup := by
    intro N hN
    refine hN.imp ?_
    rintro a b hlt rfl
    omega
  refine ((List.perm_ext_iff_of_nodup (nodup hL) (nodup hM)).mpr h).eq_of_pairwise ?_ hL hM
  intro a b _ _ hab hba
  omega

/-- Moving a cursor to the first id past it takes this one from those to come. -/
theorem filter_next (hM : M.Pairwise fun a b => a.1 < b.1) (hstart : start ≤ cursor)
    (h : M.filter (fun r => decide (cursor < r.1)) = x :: xs) :
    M.filter (fun r => decide (x.1 < r.1)) = xs ∧
    M.filter (fun r => decide (start < r.1) && decide (r.1 ≤ x.1)) =
      M.filter (fun r => decide (start < r.1) && decide (r.1 ≤ cursor)) ++ [x] := by
  have past : ∀ r, (r ∈ M ∧ cursor < r.1) ↔ r = x ∨ r ∈ xs := by
    intro r
    rw [← List.mem_cons, ← h, List.mem_filter, decide_eq_true_eq]
  obtain ⟨hx, hcursor⟩ := (past x).mpr (Or.inl rfl)
  have hasc : (x :: xs).Pairwise fun a b => a.1 < b.1 := h ▸ hM.filter _
  obtain ⟨hhead, htail⟩ := List.pairwise_cons.mp hasc
  constructor
  · refine eq_of_ascending (hM.filter _) htail fun r => ?_
    rw [List.mem_filter, decide_eq_true_eq]
    constructor
    · rintro ⟨hr, hlt⟩
      rcases (past r).mp ⟨hr, by omega⟩ with rfl | hmem
      · omega
      · exact hmem
    · intro hmem
      exact ⟨((past r).mpr (Or.inr hmem)).1, hhead r hmem⟩
  · refine eq_of_ascending (hM.filter _) ?_ fun r => ?_
    · refine List.pairwise_append.mpr ⟨hM.filter _, List.pairwise_singleton _ _, ?_⟩
      intro a ha b hb
      simp only [List.mem_filter, Bool.and_eq_true, decide_eq_true_eq] at ha
      rw [List.mem_singleton.mp hb]
      omega
    · simp only [List.mem_append, List.mem_singleton, List.mem_filter, Bool.and_eq_true,
        decide_eq_true_eq]
      constructor
      · rintro ⟨hr, hlow, hhigh⟩
        by_cases hle : r.1 ≤ cursor
        · exact Or.inl ⟨hr, hlow, hle⟩
        · rcases (past r).mp ⟨hr, by omega⟩ with rfl | hmem
          · exact Or.inr rfl
          · have hlt := hhead r hmem
            omega
      · rintro (⟨hr, hlow, hhigh⟩ | rfl)
        · exact ⟨hr, hlow, by omega⟩
        · exact ⟨hx, by omega, by omega⟩

end Ascending

/-! ## What is accounted for -/

/-- A message as the poller fetches it. -/
def entryOf (r : Int × MessageRow) : LogEntry := ⟨r.1, r.2.payload⟩

namespace Watched

variable {τ α : Type}

/-- The messages of a channel that were published and not missed. -/
def alive (w : Watched τ α) (channel : String) : List (Int × MessageRow) :=
  w.published.filter fun r => decide (r.2.channel = channel) && decide (r.1 ∉ w.missed)

end Watched

/-- Every message of the channel that was published and not missed is handed over, in the order of
the ids, if its id is past `start` and not past the cursor; the batch at hand is the beginning of
what is past the cursor. -/
structure Delivery {τ α : Type} (channel : String) (start : Int) (w : Watched τ α) : Prop where
  oneWriter : w.handles.OneWriter
  numbered : w.handles.database.Numbered
  channel_eq : w.poller.channel = channel
  start_le : start ≤ w.poller.cursor
  /-- The cursor found on attaching may be anything; one that has moved is the id of a message. -/
  cursor_le : w.poller.cursor = start ∨ w.poller.cursor ≤ w.committed.lastMessageId
  ascending : w.published.Pairwise fun a b => a.1 < b.1
  given : ∀ r ∈ w.published, r.1 ≤ w.committed.lastMessageId
  visible : ∀ {r}, w.committed.messages[r.1]? = some r.2 → r ∈ w.published
  gone : ∀ id ∈ w.missed, w.committed.messages[id]? = none ∧ id ≤ w.committed.lastMessageId
  accounted : w.poller.phase ≠ .ended → ∀ r ∈ w.published, r.1 ∈ w.missed ∨
    r.1 ≤ w.poller.cursor ∨ r.1 ∈ w.poller.phase.rest.map LogEntry.id ∨
    w.committed.messages[r.1]? = some r.2
  batch : w.poller.phase.rest <+:
    ((w.alive channel).filter fun r => decide (w.poller.cursor < r.1)).map entryOf
  handed : w.received ++ w.poller.waiting =
    ((w.alive channel).filter fun r =>
      decide (start < r.1) && decide (r.1 ≤ w.poller.cursor)).map fun r => r.2.payload

/-! ## The tables go on -/

section Observe

variable {s t : Store} {p : Poller}

/-- What is at hand is not lost. -/
theorem prefix_filter_lost {A : List (Int × MessageRow)}
    (h : p.phase.rest <+: A.map entryOf) :
    p.phase.rest <+: (A.filter fun r => decide (r.1 ∉ lost p s t)).map entryOf := by
  have hrest : p.phase.rest = (A.take p.phase.rest.length).map entryOf := by
    rw [List.map_take]
    exact List.prefix_iff_eq_take.mp h
  have hkept : (A.take p.phase.rest.length).filter (fun r => decide (r.1 ∉ lost p s t)) =
      A.take p.phase.rest.length := by
    refine List.filter_eq_self.mpr fun r hr => ?_
    rw [decide_eq_true_eq, mem_lost]
    rintro ⟨-, -, -, hid⟩
    refine hid (List.mem_map.mpr ⟨entryOf r, ?_, rfl⟩)
    rw [hrest]
    exact List.mem_map_of_mem hr
  have hsplit := List.filter_append (p := fun r => decide (r.1 ∉ lost p s t))
    (A.take p.phase.rest.length) (A.drop p.phase.rest.length)
  rw [List.take_append_drop, hkept] at hsplit
  rw [hsplit, List.map_append, ← hrest]
  exact List.prefix_append _ _

/-- The messages of a channel, once the tables have gone on. -/
theorem alive_observe {τ α : Type} {w : Watched τ α} {s : Handles τ α} {channel : String} :
    (w.observe s).alive channel =
      (w.alive channel).filter (fun r => decide (r.1 ∉
        lost w.poller w.committed s.database.committed)) ++
      (appeared w.committed s.database.committed).filter fun r =>
        decide (r.2.channel = channel) && decide (r.1 ∉ (w.observe s).missed) := by
  rw [Watched.alive, Watched.alive, List.filter_filter]
  refine (List.filter_append _ _).trans (congrArg (· ++ _) (List.filter_congr fun r _ => ?_))
  have hmissed : decide (r.1 ∉ (w.observe s).missed) = (decide (r.1 ∉ w.missed) && decide (r.1 ∉
      lost w.poller w.committed s.database.committed)) := by
    rw [← Bool.decide_and]
    refine decide_eq_decide.mpr ?_
    rw [← not_or, ← List.mem_append]
    rfl
  rw [hmissed, ← Bool.and_assoc, Bool.and_comm]

end Observe

namespace Delivery

variable {τ α : Type} {channel : String} {start : Int} {w : Watched τ α}

section Observe

variable {s : Handles τ α}

/-- What becomes visible is past all that was published. -/
theorem ascending_observe (inv : Delivery channel start w)
    (evolves : Evolves w.committed s.database.committed) :
    (w.observe s).published.Pairwise fun a b => a.1 < b.1 := by
  refine List.pairwise_append.mpr ⟨inv.ascending, ascending_appeared _ _, ?_⟩
  intro a ha b hb
  exact Int.lt_of_le_of_lt (inv.given a ha) (lt_of_mem_appeared evolves hb)

theorem given_observe (inv : Delivery channel start w)
    (evolves : Evolves w.committed s.database.committed) :
    ∀ r ∈ (w.observe s).published, r.1 ≤ s.database.committed.lastMessageId := by
  intro r hr
  rcases List.mem_append.mp hr with hr | hr
  · exact Int.le_trans (inv.given r hr) evolves.last_le
  · exact evolves.bounded inv.numbered.bounded (mem_appeared.mp hr).1

theorem visible_observe (inv : Delivery channel start w)
    (evolves : Evolves w.committed s.database.committed) {r : Int × MessageRow}
    (hr : s.database.committed.messages[r.1]? = some r.2) : r ∈ (w.observe s).published := by
  cases hold : w.committed.messages[r.1]? with
  | none => exact List.mem_append_right _ (mem_appeared.mpr ⟨hr, hold⟩)
  | some row =>
      have hkept := evolves.keeps (inv.numbered.bounded hold) hr
      exact List.mem_append_left _ (inv.visible hkept)

/-- What has gone does not come back. -/
theorem gone_observe (inv : Delivery channel start w)
    (evolves : Evolves w.committed s.database.committed) :
    ∀ id ∈ (w.observe s).missed, s.database.committed.messages[id]? = none ∧
      id ≤ s.database.committed.lastMessageId := by
  intro id hid
  rcases List.mem_append.mp hid with hid | hid
  · obtain ⟨hgone, hle⟩ := inv.gone id hid
    refine ⟨?_, Int.le_trans hle evolves.last_le⟩
    by_contra hback
    obtain ⟨row, hrow⟩ := Option.ne_none_iff_exists'.mp hback
    rw [evolves.keeps hle hrow] at hgone
    cases hgone
  · obtain ⟨⟨row, hrow⟩, hgone, -, -⟩ := mem_lost.mp hid
    exact ⟨hgone, Int.le_trans (inv.numbered.bounded hrow) evolves.last_le⟩

/-- A message that is neither handed over nor fetched stays in the tables or is missed. -/
theorem accounted_observe (inv : Delivery channel start w)
    (evolves : Evolves w.committed s.database.committed) (hopen : w.poller.phase ≠ .ended) :
    ∀ r ∈ (w.observe s).published, r.1 ∈ (w.observe s).missed ∨ r.1 ≤ w.poller.cursor ∨
      r.1 ∈ w.poller.phase.rest.map LogEntry.id ∨
      s.database.committed.messages[r.1]? = some r.2 := by
  intro r hr
  rcases List.mem_append.mp hr with hr | hr
  · rcases inv.accounted hopen r hr with hmissed | hcursor | hrest | hstored
    · exact Or.inl (List.mem_append_left _ hmissed)
    · exact Or.inr (Or.inl hcursor)
    · exact Or.inr (Or.inr (Or.inl hrest))
    -- It was in the tables; if it no longer is, it is missed unless it was fetched before.
    · cases hnow : s.database.committed.messages[r.1]? with
      | some row =>
          have hkept := evolves.keeps (inv.given r hr) hnow
          rw [hstored] at hkept
          rw [Option.some.inj hkept]
          exact Or.inr (Or.inr (Or.inr rfl))
      | none =>
          by_cases hcursor : r.1 ≤ w.poller.cursor
          · exact Or.inr (Or.inl hcursor)
          by_cases hrest : r.1 ∈ w.poller.phase.rest.map LogEntry.id
          · exact Or.inr (Or.inr (Or.inl hrest))
          refine Or.inl (List.mem_append_right _ (mem_lost.mpr ?_))
          exact ⟨⟨r.2, hstored⟩, hnow, Int.not_le.mp hcursor, hrest⟩
  · exact Or.inr (Or.inr (Or.inr (mem_appeared.mp hr).1))

/-- What becomes visible stands behind the batch at hand. -/
theorem batch_observe (inv : Delivery channel start w) : w.poller.phase.rest <+:
    (((w.observe s).alive channel).filter fun r =>
      decide (w.poller.cursor < r.1)).map entryOf := by
  rw [alive_observe, List.filter_append, List.map_append]
  refine List.IsPrefix.trans ?_ (List.prefix_append _ _)
  rw [List.filter_filter, funext fun r => Bool.and_comm _ _, ← List.filter_filter]
  exact prefix_filter_lost inv.batch

/-- Nothing changes up to the cursor. -/
theorem sent_observe (inv : Delivery channel start w)
    (evolves : Evolves w.committed s.database.committed) :
    ((w.observe s).alive channel).filter (fun r =>
        decide (start < r.1) && decide (r.1 ≤ w.poller.cursor)) =
      (w.alive channel).filter fun r =>
        decide (start < r.1) && decide (r.1 ≤ w.poller.cursor) := by
  have hkept : ∀ r ∈ w.alive channel,
      (decide (start < r.1) && decide (r.1 ≤ w.poller.cursor) && decide (r.1 ∉
        lost w.poller w.committed s.database.committed)) =
      (decide (start < r.1) && decide (r.1 ≤ w.poller.cursor)) := by
    intro r _
    by_cases hcursor : r.1 ≤ w.poller.cursor
    · have hr : r.1 ∉ lost w.poller w.committed s.database.committed := by
        rw [mem_lost]
        rintro ⟨-, -, hlt, -⟩
        omega
      simp [hr]
    · simp [hcursor]
  rw [alive_observe, List.filter_append, List.filter_filter]
  refine (congrArg (· ++ _) (List.filter_congr hkept)).trans ?_
  refine (congrArg _ (List.filter_eq_nil_iff.mpr fun r hr => ?_)).trans (List.append_nil _)
  have hlt := lt_of_mem_appeared evolves (List.mem_filter.mp hr).1
  have hcursor := inv.cursor_le
  simp only [Bool.and_eq_true, decide_eq_true_eq]
  omega

/-- What the handles do to the tables. -/
theorem observe (inv : Delivery channel start w) (oneWriter : s.OneWriter)
    (numbered : s.database.Numbered) (evolves : Evolves w.committed s.database.committed) :
    Delivery channel start (w.observe s) where
  oneWriter := oneWriter
  numbered := numbered
  channel_eq := inv.channel_eq
  start_le := inv.start_le
  cursor_le := inv.cursor_le.imp_right fun h => Int.le_trans h evolves.last_le
  ascending := inv.ascending_observe evolves
  given := inv.given_observe evolves
  visible := inv.visible_observe evolves
  gone := inv.gone_observe evolves
  accounted := inv.accounted_observe evolves
  batch := inv.batch_observe
  handed := inv.handed.trans (congrArg (List.map _) (inv.sent_observe evolves)).symm

end Observe

/-! ## The poller goes on -/

/-- Other tables with the same messages. -/
theorem withDatabase (inv : Delivery channel start w) {d : Database}
    (same : SameMessages w.handles.database d) : Delivery channel start (w.withDatabase d) :=
  inv.observe (s := { w.handles with database := d }) (same.oneWriter inv.oneWriter)
    (same.numbered inv.numbered) same.evolves

/-- A poller that has come to another phase of the same batch, or has ended. -/
theorem rephase (inv : Delivery channel start w) (phase : Phase)
    (hopen : phase ≠ .ended → phase.rest = w.poller.phase.rest ∧ w.poller.phase ≠ .ended) :
    Delivery channel start { w with poller := { w.poller with phase } } := by
  refine { inv with accounted := ?_, batch := ?_ }
  · intro hphase
    obtain ⟨hsame, hbefore⟩ := hopen hphase
    have haccounted := inv.accounted hbefore
    rw [← hsame] at haccounted
    exact haccounted
  · show phase.rest <+: _
    by_cases hphase : phase = .ended
    · rw [hphase]
      exact List.nil_prefix
    · rw [(hopen hphase).1]
      exact inv.batch

/-- What a fetch brings is the beginning of what is past the cursor: nothing of that is missing in
the tables. -/
theorem fetched (inv : Delivery channel start w) (hidle : w.poller.phase = .idle) (limit : Int) :
    Delivery channel start { w with poller := { w.poller with
      phase := .handing
        (w.committed.messagesAfter channel w.poller.cursor limit) } } := by
  have haccounted : ∀ r ∈ w.published, r.1 ∈ w.missed ∨ r.1 ≤ w.poller.cursor ∨
      w.committed.messages[r.1]? = some r.2 := by
    intro r hr
    have hopen : w.poller.phase ≠ .ended := by
      rw [hidle]
      exact Phase.noConfusion
    rcases inv.accounted hopen r hr with hmissed | hcursor | hrest | hstored
    · exact Or.inl hmissed
    · exact Or.inr (Or.inl hcursor)
    · rw [hidle] at hrest
      cases hrest
    · exact Or.inr (Or.inr hstored)
  refine { inv with accounted := ?_, batch := ?_ }
  · intro _ r hr
    rcases haccounted r hr with hmissed | hcursor | hstored
    · exact Or.inl hmissed
    · exact Or.inr (Or.inl hcursor)
    · exact Or.inr (Or.inr (Or.inr hstored))
  -- Nothing past the cursor is at hand, so what is not missed must be in the tables.
  · have hpast : w.committed.messages.toList.filter (fun r =>
          decide (r.2.channel = channel) && decide (w.poller.cursor < r.1)) =
        (w.alive channel).filter fun r => decide (w.poller.cursor < r.1) := by
      refine eq_of_ascending ((Store.ascending_messages _).filter _)
        ((inv.ascending.filter _).filter _) fun r => ?_
      simp only [Watched.alive, List.mem_filter, Store.mem_messages, Bool.and_eq_true,
        decide_eq_true_eq]
      constructor
      · rintro ⟨hstored, hchannel, hcursor⟩
        have hmissed : r.1 ∉ w.missed := by
          intro hmem
          rw [(inv.gone r.1 hmem).1] at hstored
          cases hstored
        exact ⟨⟨inv.visible hstored, hchannel, hmissed⟩, hcursor⟩
      · rintro ⟨⟨hpublished, hchannel, hmissed⟩, hcursor⟩
        rcases haccounted r hpublished with hmem | hle | hstored
        · exact absurd hmem hmissed
        · omega
        · exact ⟨hstored, hchannel, hcursor⟩
    show (w.committed.messagesAfter channel w.poller.cursor limit) <+: _
    rw [Store.messagesAfter, hpast]
    exact List.take_prefix _ _

/-- A message is handed over: the next one that is due. -/
theorem handedOver (inv : Delivery channel start w) {m : LogEntry} {rest : List LogEntry}
    (hphase : w.poller.phase = .handing (m :: rest)) :
    Delivery channel start { w with poller := w.poller.handOver m rest } := by
  have hbatch := inv.batch
  rw [hphase] at hbatch
  have hasc : (w.alive channel).Pairwise fun a b => a.1 < b.1 := inv.ascending.filter _
  -- The batch begins what is past the cursor, so its first message is the first one there.
  cases hpast : (w.alive channel).filter fun r => decide (w.poller.cursor < r.1) with
  | nil =>
      rw [hpast] at hbatch
      cases List.prefix_nil.mp hbatch
  | cons x xs =>
      rw [hpast] at hbatch
      obtain ⟨rfl, hrest⟩ := List.cons_prefix_cons.mp hbatch
      obtain ⟨hnext, hsent⟩ := filter_next hasc inv.start_le hpast
      obtain ⟨hx, hcursor⟩ : x ∈ w.alive channel ∧ w.poller.cursor < x.1 := by
        have hmem : x ∈ (w.alive channel).filter fun r => decide (w.poller.cursor < r.1) := by
          rw [hpast]
          exact List.mem_cons_self
        simpa using List.mem_filter.mp hmem
      have hstart := inv.start_le
      refine { inv with
        start_le := ?_, cursor_le := ?_, accounted := ?_, batch := ?_, handed := ?_ }
      · show start ≤ x.1
        omega
      · exact Or.inr (inv.given x (List.mem_filter.mp hx).1)
      · intro _ r hr
        have hopen : w.poller.phase ≠ .ended := by
          rw [hphase]
          exact Phase.noConfusion
        rcases inv.accounted hopen r hr with hmissed | hle | hmem | hstored
        · exact Or.inl hmissed
        · refine Or.inr (Or.inl ?_)
          show r.1 ≤ x.1
          omega
        · rw [hphase] at hmem
          rcases List.mem_cons.mp hmem with heq | hmem
          · exact Or.inr (Or.inl (Int.le_of_eq heq))
          · exact Or.inr (Or.inr (Or.inl hmem))
        · exact Or.inr (Or.inr (Or.inr hstored))
      · show rest <+: ((w.alive channel).filter fun r => decide (x.1 < r.1)).map entryOf
        rw [hnext]
        exact hrest
      · show w.received ++ (w.poller.waiting ++ [x.2.payload]) =
          ((w.alive channel).filter fun r =>
            decide (start < r.1) && decide (r.1 ≤ x.1)).map fun r => r.2.payload
        rw [hsent, List.map_append, ← inv.handed, List.append_assoc]
        rfl

/-- The receiver takes a message. -/
theorem receive (inv : Delivery channel start w) {payload : String} {p : Poller}
    (takes : w.poller.receive? = some (payload, p)) :
    Delivery channel start { w with poller := p, received := w.received ++ [payload] } := by
  obtain ⟨waiting, hwaiting, rfl⟩ := Poller.receive_spec takes
  have hhanded := inv.handed
  rw [hwaiting, ← List.singleton_append, ← List.append_assoc] at hhanded
  exact { inv with handed := hhanded }

/-! ## Moves and runs -/

variable {body : τ → Body α} {x : Watched τ α}

/-- Every move keeps what is accounted for. -/
theorem step (inv : Delivery channel start w) (step : Watched.Step body w x) :
    Delivery channel start x := by
  cases step with
  | @handles s e step =>
      obtain ⟨evolves, numbered⟩ := step.evolves inv.oneWriter inv.numbered
      exact inv.observe (inv.oneWriter.step step) numbered evolves
  | @poll handle p d serves polls =>
      obtain ⟨same, hp⟩ := serves.poll polls
      have called := inv.withDatabase same
      rcases hp with rfl | ⟨hidle, rfl⟩
      · exact called
      · obtain rfl := inv.channel_eq
        rw [← same.messagesAfter w.poller.channel w.poller.cursor w.poller.limit]
        exact called.fetched hidle w.poller.limit
  | @next handle p d serves moves =>
      obtain ⟨same, hp⟩ := serves.next moves
      have called := inv.withDatabase same
      rcases hp with ⟨hphase, rfl⟩ | ⟨m, rest, hphase, rfl⟩ | ⟨id, rest, hphase, rfl⟩
      · have hsame : Phase.idle.rest = w.poller.phase.rest ∧ w.poller.phase ≠ .ended := by
          rw [hphase]
          exact ⟨rfl, Phase.noConfusion⟩
        exact called.rephase .idle fun _ => hsame
      · exact called.handedOver hphase
      · have hsame : (Phase.handing rest).rest = w.poller.phase.rest ∧
            w.poller.phase ≠ .ended := by
          rw [hphase]
          exact ⟨rfl, Phase.noConfusion⟩
        exact called.rephase (.handing rest) fun _ => hsame
  | @stop handle p d serves stops =>
      obtain ⟨same, rfl⟩ := serves.stop stops
      exact (inv.withDatabase same).rephase .ended fun hended => absurd rfl hended
  | receive takes => exact inv.receive takes

theorem run (inv : Delivery channel start w) (run : Watched.Run body w x) :
    Delivery channel start x := by
  induction run with
  | refl => exact inv
  | tail _ step ih => exact ih.step step

/-- A subscription that begins has everything before it. -/
theorem of_subscribe {s : Handles τ α} (oneWriter : s.OneWriter) (numbered : s.database.Numbered)
    {handle : (call : LogCall) → Database → call.Reply × Database} (serves : Serves handle)
    {settings : PubSubSettings} {subscriber : String} {p : Poller} {d : Database}
    (subscribes : Poller.subscribe handle settings channel subscriber s.database = (.ok p, d)) :
    Delivery channel p.cursor (Watched.start { s with database := d } p) := by
  obtain ⟨same, cursor, rfl⟩ := serves.subscribe subscribes
  have hnumbered := same.numbered numbered
  have hnone : ∀ r : Int × MessageRow,
      ¬(decide (cursor < r.1) && decide (r.1 ≤ cursor)) = true := by
    intro r h
    simp only [Bool.and_eq_true, decide_eq_true_eq] at h
    omega
  exact
    { oneWriter := same.oneWriter oneWriter
      numbered := hnumbered
      channel_eq := rfl
      start_le := Int.le_refl _
      cursor_le := Or.inl rfl
      ascending := Store.ascending_messages _
      given := fun r hr => hnumbered.bounded (Store.mem_messages.mp hr)
      visible := Store.mem_messages.mpr
      gone := fun id hid => absurd hid List.not_mem_nil
      accounted := fun _ r hr => Or.inr (Or.inr (Or.inr (Store.mem_messages.mp hr)))
      batch := List.nil_prefix
      handed := (congrArg (List.map _) (List.filter_eq_nil_iff.mpr fun r _ => hnone r)).symm }

end Delivery

section DeliveredInOrder

variable {τ α : Type} {body : τ → Body α} {sharing : Sharing} {events : List (Handles.Event τ α)}
  {s : Handles τ α} {handle : (call : LogCall) → Database → call.Reply × Database}
  {settings : PubSubSettings} {channel subscriber : String} {p : Poller} {d : Database}
  {w : Watched τ α}

/-- A subscription is made on a database in any state that handles have brought it to, and then the
handles, the poller and its receiver move in any order. What has been handed over, received or
waiting, are at any time the messages of the channel that were published with ids past the cursor
found on attaching and up to the poller's cursor, in the order of their ids and each of them once,
but for those that were missed. Published is what has been in the tables that everybody can read,
and missed is what went away from them before it was fetched. -/
theorem delivered_in_order (made : Handles.Run body (.start (.empty sharing)) events s)
    (serves : Serves handle)
    (subscribes : Poller.subscribe handle settings channel subscriber s.database = (.ok p, d))
    (run : Watched.Run body (.start { s with database := d } p) w) :
    w.received ++ w.poller.waiting =
      ((w.published.filter fun r => decide (r.2.channel = channel ∧ p.cursor < r.1 ∧
        r.1 ≤ w.poller.cursor ∧ r.1 ∉ w.missed)).map fun r => r.2.payload) ∧
    w.published.Pairwise (fun a b => a.1 < b.1) ∧
    (∀ r : Int × MessageRow, r ∈ w.published ↔
      ∃ x, Watched.Run body (.start { s with database := d } p) x ∧ Watched.Run body x w ∧
        x.committed.messages[r.1]? = some r.2) ∧
    (∀ id, id ∈ w.missed ↔
      ∃ x y, Watched.Run body (.start { s with database := d } p) x ∧ Watched.Step body x y ∧
        Watched.Run body y w ∧ (∃ row, x.committed.messages[id]? = some row) ∧
        y.committed.messages[id]? = none ∧ x.poller.cursor < id ∧
        id ∉ x.poller.phase.rest.map LogEntry.id) := by
  have oneWriter : s.OneWriter := made.oneWriter (.start _)
  have numbered : s.database.Numbered :=
    made.numbered (.start _) (.of_draft_eq_none rfl Store.bounded_empty)
  have begun := Delivery.of_subscribe oneWriter numbered serves subscribes
  have inv := begun.run run
  refine ⟨?_, inv.ascending, ?_, ?_⟩
  · rw [inv.handed, Watched.alive, List.filter_filter]
    refine congrArg (List.map _) (List.filter_congr fun r _ => ?_)
    rw [Bool.and_comm, Bool.and_assoc, Bool.decide_and, Bool.decide_and, Bool.decide_and]
    rw [Bool.and_comm (decide (r.1 ∉ w.missed)), Bool.and_assoc]
  · intro r
    constructor
    · exact run.visible_of_mem_published
    · rintro ⟨x, first, last, hvisible⟩
      exact last.history.1 ((begun.run first).visible hvisible)
  · intro id
    simp only [← mem_lost]
    exact run.mem_missed

end DeliveredInOrder

/-- The log as it is served while no call fails. -/
def served (call : LogCall) (d : Database) : call.Reply × Database := d.applyLog ⟨0⟩ call

/-- Tables that hold the cursor of one subscriber. -/
def attended : Store :=
  { Store.empty with
    cursors := Store.empty.cursors.insert ("news", "a") ⟨PubSub.start, 0, 0⟩ }

theorem served_attach : served (.attach "news" "a") (.empty .file) =
    (.ok PubSub.start, { Database.empty .file with committed := attended }) := by
  have hattach : Store.empty.attach 0 "news" "a" = attended := by
    simp [Store.attach, Store.empty, attended]
  have happly : Store.empty.applyLog ⟨0⟩ (.attach "news" "a") = (.ok PubSub.start, attended) := by
    rw [Store.applyLog, show Instant.millis ⟨0⟩ = 0 from rfl, hattach]
    simp [attended]
  show ((Store.empty.applyLog ⟨0⟩ (.attach "news" "a")).1, ({ Database.empty .file with
    committed := (Store.empty.applyLog ⟨0⟩ (.attach "news" "a")).2 } : Database)) = _
  rw [happly]

/-- Two messages are published, of which the subscriber's channel gets one. -/
theorem delivered_in_order_published : ∃ d p w,
    Poller.subscribe served {} "news" "a" (.empty .file) = (.ok p, d) ∧
    Watched.Run (fun _ : Unit => Body.call (.publish "sport" "goal")) (.start (.start d) p) w ∧
    w.received ++ w.poller.waiting = ["hello"] := by
  let d₀ : Database := { Database.empty .file with committed := attended }
  let d₁ : Database := { d₀ with committed := d₀.committed.publish 0 "sport" "goal" }
  let d₂ : Database := { d₁ with committed := d₁.committed.publish 0 "news" "hello" }
  let p : Poller := .attached {} "news" "a" PubSub.start
  let body (_ : Unit) : Body Unit := Body.call (.publish "sport" "goal")
  let w₀ : Watched Unit Unit := .start (.start d₀) p
  let w₁ : Watched Unit Unit := w₀.observe (.start d₁)
  let w₂ : Watched Unit Unit := w₁.observe (.start d₂)
  let w₃ : Watched Unit Unit :=
    { w₂.withDatabase d₂ with poller := { p with phase := .handing [⟨2, "hello"⟩] } }
  let w₄ : Watched Unit Unit :=
    { w₃.withDatabase d₂ with poller := w₃.poller.handOver ⟨2, "hello"⟩ [] }
  have subscribes : Poller.subscribe served {} "news" "a" (.empty .file) = (.ok p, d₀) := by
    rw [Poller.subscribe, served_attach]
  have serves : Serves served := fun call d => Or.inl ⟨⟨0⟩, rfl⟩
  have elsewhere : Watched.Step body w₀ w₁ :=
    .handles (e := .statement 1 (.operate ⟨0⟩ (.publish "sport" "goal")) (.ok ())) (.statement rfl)
  have published : Watched.Step body w₁ w₂ :=
    .handles (e := .statement 1 (.operate ⟨0⟩ (.publish "news" "hello")) (.ok ())) (.statement rfl)
  have fetched : Watched.Step body w₂ w₃ := .poll serves rfl
  have handed : Watched.Step body w₃ w₄ := .next serves rfl
  have run : Watched.Run body w₀ w₄ :=
    ((((Watched.Run.refl w₀).tail elsewhere).tail published).tail fetched).tail handed
  have made : Handles.Run body (.start (.empty .file)) [] (.start (.empty .file)) := .nil _
  obtain ⟨hdelivered, -⟩ := delivered_in_order made serves subscribes run
  exact ⟨d₀, p, w₄, subscribes, run, hdelivered.trans rfl⟩

end SqlCache.PubSub
