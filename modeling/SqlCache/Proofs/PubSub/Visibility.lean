import SqlCache.Proofs.PubSub.Delivery
import SqlCache.Proofs.PubSub.Subscribers

/-!
Messages become visible in the order of their ids, and past every cursor. Ids are given out once,
whatever becomes of the messages; a cursor is written only by attaching, at the start, or with the
id of a message that was fetched. So what is committed later has an id that is greater than all that
was committed before, and than every cursor that is stored by then. Main result:
`Subscribers.visible_in_order`.
-/

set_option autoImplicit false

namespace SqlCache.PubSub.Subscribers

variable {τ α : Type} {body : τ → Body α} {s t x y z : Subscribers τ α} {e : Event τ α}
  {events before between : List (Event τ α)}

/-- No stored cursor is past the ids that have been given out. -/
structure Behind (s : Subscribers τ α) : Prop where
  given : 0 ≤ s.committed.lastMessageId
  cursors : ∀ place last, s.committed.cursor? place = some last →
    last ≤ s.committed.lastMessageId

namespace Behind

theorem start (sharing : Sharing) : Behind (start (.empty sharing) : Subscribers τ α) where
  given := Int.le_refl 0
  cursors place last h := by
    have hnone : Store.empty.cursor? place = none := by simp [Store.cursor?, Store.empty]
    have hsome : Store.empty.cursor? place = some last := h
    rw [hnone] at hsome
    cases hsome

/-- A subscription writes a cursor at the start, or with an id that has been given out. -/
theorem written_le (inv : Sound s) (behind : Behind s) {call : LogCall} (asks : s.Asks e call)
    {last : Int} (h : call.written? = some last) : last ≤ s.committed.lastMessageId := by
  cases e with
  | subscribe slot channel subscriber result =>
      obtain rfl : call = .attach channel subscriber := asks
      obtain rfl := Option.some.inj h
      have hgiven := behind.given
      unfold PubSub.start
      omega
  | record slot | stop slot =>
      obtain ⟨p, holds, rfl | ⟨id, rest, ready, rfl⟩⟩ := asks
      · cases h
      · obtain rfl := Option.some.inj h
        refine inv.fetched slot p holds id ?_
        rw [ready]
        exact List.mem_cons_self
  | handles | poll | handOver | turn | receive | leave | reopen => exact asks.elim

/-- No move takes a stored cursor past the ids that have been given out. -/
theorem step (inv : Sound s) (behind : Behind s) (step : Step body s e t) : Behind t := by
  have hlast := (inv.step step).2.last_le
  refine ⟨Int.le_trans behind.given hlast, ?_⟩
  intro place last hcursor
  refine Int.le_trans ?_ hlast
  cases hslot : e.slot? with
  | some slot =>
      obtain ⟨handle, calls, p?, serves, hcalls, rfl⟩ := step.served hslot
      rcases serves.cursor?_after_cases hcursor with hbefore | ⟨call, hcall, hwritten⟩
      · exact behind.cursors place last hbefore
      · exact written_le inv behind (hcalls call hcall) hwritten
  | none =>
      cases step with
      | handles spares move =>
          have hsame := (move.cursors inv.oneWriter spares inv.spares).1
          rw [committed, Store.cursor?_congr hsame] at hcursor
          exact behind.cursors place last hcursor
      | reopen file => exact behind.cursors place last hcursor
      | subscribed | unsubscribed | poll | handOver | record | turn | receive | stop | leave =>
          cases hslot

theorem run (inv : Sound s) (behind : Behind s) (run : Run body s events t) : Behind t := by
  induction run with
  | nil => exact behind
  | snoc run last ih => exact ih.step (inv.run run).1 last

end Behind

/-- On a file that was empty at first, and on which handles and subscriptions have done whatever
they do, a message becomes visible. Its id is greater than that of every message that was visible
at any time before, on any channel and whether or not it is still there, and greater than every
cursor that was stored; so a fetch that asks for enough messages from a cursor of its channel finds
it. -/
theorem visible_in_order (made : Run body (.start (.empty .file)) before x)
    (since : Run body x between y) (step : Step body y e z) {m : Int} {row : MessageRow}
    (hidden : y.committed.messages[m]? = none) (visible : z.committed.messages[m]? = some row) :
    (∀ (n : Int) (earlier : MessageRow), x.committed.messages[n]? = some earlier → n < m) ∧
    (∀ (place : String × String) (cursor : CursorRow),
      x.committed.cursors[place]? = some cursor → cursor.last < m) ∧
    ∀ (subscriber : String) (cursor : CursorRow),
      y.committed.cursors[(row.channel, subscriber)]? = some cursor →
      ∀ limit : Int, z.committed.messages.size ≤ limit.toNat →
        ⟨m, row.payload⟩ ∈ z.committed.messagesAfter row.channel cursor.last limit := by
  have sound : Sound (.start (.empty .file) : Subscribers τ α) := .start rfl Store.bounded_empty
  obtain ⟨soundx, -⟩ := sound.run made
  obtain ⟨soundy, evolvedy⟩ := soundx.run since
  have behindx : Behind x := (Behind.start .file).run sound made
  have behindy : Behind y := behindx.run soundx since
  have hnew : y.committed.lastMessageId < m := by
    by_contra hle
    have hkept := (soundy.step step).2.keeps (Int.not_lt.mp hle) visible
    rw [hidden] at hkept
    cases hkept
  have hgrown := evolvedy.last_le
  refine ⟨?_, ?_, ?_⟩
  · intro n earlier hearlier
    have hle := soundx.numbered.bounded hearlier
    exact Int.lt_of_le_of_lt (Int.le_trans hle hgrown) hnew
  · intro place cursor hcursor
    have hle := behindx.cursors place cursor.last (by rw [Store.cursor?, hcursor]; rfl)
    exact Int.lt_of_le_of_lt (Int.le_trans hle hgrown) hnew
  · intro subscriber cursor hcursor limit hlimit
    have hle := behindy.cursors (row.channel, subscriber) cursor.last
      (by rw [Store.cursor?, hcursor]; rfl)
    refine Store.mem_messagesAfter hlimit (Store.mem_messagesPast.mpr ?_)
    exact ⟨row, visible, rfl, Int.lt_of_le_of_lt hle hnew, rfl⟩

/-- A subscriber has attached to a file that was empty. -/
def newcomer : Subscribers Unit Unit :=
  (start (.empty .file)).put 0 (some (.attached {} "news" "a" PubSub.start))
    { Database.empty .file with committed := attended }

theorem run_newcomer (body : Unit → Body Unit) :
    Run body (start (.empty .file)) [.subscribe 0 "news" "a" (.ok PubSub.start)] newcomer := by
  let p : Poller := .attached {} "news" "a" PubSub.start
  have serves : Serves served := fun call d => Or.inl ⟨⟨0⟩, rfl⟩
  have subscribes : Poller.subscribe served {} "news" "a" (.empty .file) =
      (.ok p, { Database.empty .file with committed := attended }) := by
    rw [Poller.subscribe, served_attach]
  have free : (start (.empty .file) : Subscribers Unit Unit).pollers 0 = none := rfl
  have subscribed : Step body (start (.empty .file))
      (.subscribe 0 "news" "a" (.ok p.cursor)) newcomer := .subscribed serves free subscribes
  exact .snoc (.nil _) subscribed

/-- A message is published and purged before another one is published, which the subscriber that
has attached at first finds. -/
theorem visible_in_order_after_purge :
    let published := newcomer.execute (.operate ⟨0⟩ (.publish "sport" "hello"))
    let purged := published.execute (.purge (.messages ⟨1000000⟩))
    let again := purged.execute (.operate ⟨0⟩ (.publish "news" "again"))
    purged.committed.messages.isEmpty = true ∧
      ⟨2, "again"⟩ ∈ again.committed.messagesAfter "news" PubSub.start 1 := by
  intro published purged again
  let body (_ : Unit) : Body Unit := pure ()
  have publishes := Step.statement body newcomer 0 (.operate ⟨0⟩ (.publish "sport" "hello"))
    trivial
  have purges := Step.statement body published 0 (.purge (.messages ⟨1000000⟩)) trivial
  have appears := Step.statement body purged 0 (.operate ⟨0⟩ (.publish "news" "again")) trivial
  have hidden : purged.committed.messages[(2 : Int)]? = none := by decide +kernel
  have visible : again.committed.messages[(2 : Int)]? = some ⟨"news", "again", 0⟩ := by
    decide +kernel
  have cursor : purged.committed.cursors[("news", "a")]? = some ⟨PubSub.start, 0, 0⟩ := rfl
  have inOrder := visible_in_order ((run_newcomer body).snoc publishes) (.snoc (.nil _) purges)
    appears hidden visible
  exact ⟨by decide +kernel, inOrder.2.2 "a" _ cursor 1 (by decide +kernel)⟩

end SqlCache.PubSub.Subscribers
