import SqlCache.Proofs.PubSub.Visibility

/-!
Whether a subscription's cursor is there to be stored. A cursor belongs to a channel and a
subscriber, not to a subscription: whoever subscribes again under the same name shares it, and
whichever of them stops first takes it along. Main result:
`Subscribers.keeps_cursor_unless_displaced`, that nothing else does. The cursor of a subscription at
work is missing exactly if another one of that name has stopped meanwhile and nobody has attached
since; until somebody does, the ids of the messages handed over are stored nowhere, although every
call succeeds.
-/

set_option autoImplicit false

namespace SqlCache

open Std

/-! ## What adds a cursor, and what removes one -/

namespace Store

variable {s : Store} {now : Instant} {call : PubSub.LogCall} {place : String × String}

/-- Only a call to detach a subscriber removes its cursor. -/
theorem isSome_cursor?_applyLog (hcall : call ≠ .detach place.1 place.2)
    (h : (s.cursor? place).isSome = true) :
    ((s.applyLog now call).2.cursor? place).isSome = true := by
  cases call with
  | attach channel subscriber =>
      simp only [applyLog, cursor?_attach]
      split
      · rfl
      · exact h
  | fetchAfter => exact h
  | advance channel subscriber id =>
      simp only [applyLog, cursor?_advance]
      split
      · rw [Option.isSome_map]
        exact h
      · exact h
  | detach channel subscriber =>
      have hne : place ≠ (channel, subscriber) := by
        rintro rfl
        exact hcall rfl
      simp only [applyLog, cursor?_detach, if_neg hne]
      exact h

/-- Only a call to attach a subscriber adds its cursor. -/
theorem cursor?_applyLog_eq_none (hcall : call ≠ .attach place.1 place.2)
    (h : s.cursor? place = none) : (s.applyLog now call).2.cursor? place = none := by
  cases call with
  | attach channel subscriber =>
      have hne : place ≠ (channel, subscriber) := by
        rintro rfl
        exact hcall rfl
      simp only [applyLog, cursor?_attach, if_neg hne]
      exact h
  | fetchAfter => exact h
  | advance channel subscriber id =>
      simp only [applyLog, cursor?_advance]
      split
      · rw [h]
        rfl
      · exact h
  | detach channel subscriber =>
      simp only [applyLog, cursor?_detach]
      split
      · rfl
      · exact h

end Store

namespace PubSub

/-- What each of some calls on the log keeps of any tables, they keep together. -/
theorem Serves.keeps {handle : (call : LogCall) → Database → call.Reply × Database} {d : Database}
    (serves : Serves handle) (holds : Store → Prop) {calls : List LogCall}
    (keeps : ∀ call ∈ calls, ∀ now s, holds s → holds (s.applyLog now call).2)
    (h : holds d.committed) : holds (after handle d calls).committed := by
  induction calls generalizing d with
  | nil => exact h
  | cons call rest ih =>
      refine ih (fun later hlater => keeps later (List.mem_cons_of_mem _ hlater)) ?_
      show holds (handle call d).2.committed
      rcases hcall : handle call d with ⟨reply, d'⟩
      cases reply with
      | error e =>
          rw [serves.eq_of_error hcall]
          exact h
      | ok a =>
          obtain ⟨now, -, -, rfl⟩ := serves.of_ok hcall
          exact keeps call List.mem_cons_self now d.committed h

namespace Subscribers

variable {τ α : Type} {body : τ → Body α} {s t u v : Subscribers τ α} {e : Event τ α}
  {events : List (Event τ α)} {slot k : Nat} {place : String × String}

/-- A subscription of a channel and a subscriber is at work in a slot. -/
def Holds (s : Subscribers τ α) (slot : Nat) (place : String × String) : Prop :=
  ∃ p, s.pollers slot = some p ∧ (p.channel, p.subscriber) = place ∧ p.phase.isEnded = false

/-! ## What a move does to a cursor -/

namespace Step

/-- A poller that has ended makes no call when it is stopped again. -/
theorem eq_of_stop_ended {p : Poller} (step : Step body s (.stop slot) t)
    (hp : s.pollers slot = some p) (hended : p.phase = .ended) : t = s := by
  cases step with
  | @stop _ handle p' _ d serves holds stops =>
      rw [hp] at holds
      obtain rfl := Option.some.inj holds
      obtain ⟨hp', hcalls⟩ := Poller.stop_spec stops
      rw [← hended] at hp'
      rcases hcalls with ⟨-, rfl⟩ | ⟨id, rest, stored, d₁, reply, hphase, -⟩ | ⟨hphase, -⟩
      · rw [hp']
        exact s.put_self hp
      · rw [hended] at hphase
        cases hphase
      · rw [hended] at hphase
        rcases hphase with hphase | ⟨rest, hphase⟩
        · cases hphase
        · cases hphase

/-- Only a subscription at work that stops takes the cursor of its name along. -/
theorem removes_cursor (inv : Sound s) (step : Step body s e t)
    (hthere : (s.committed.cursor? place).isSome = true)
    (hgone : t.committed.cursor? place = none) :
    ∃ k, e = .stop k ∧ s.Holds k place := by
  -- Whatever detaches nobody of this name keeps the cursor.
  have detaches : ∀ {handle : (call : LogCall) → Database → call.Reply × Database}
      {calls : List LogCall}, Serves handle →
      t.committed = (after handle s.database calls).committed →
      .detach place.1 place.2 ∈ calls := by
    intro handle calls serves ht
    by_contra hcalls
    have hkept : (t.committed.cursor? place).isSome = true := by
      rw [ht]
      refine serves.keeps (fun s => (s.cursor? place).isSome = true) ?_ hthere
      intro call hcall now s h
      exact Store.isSome_cursor?_applyLog (fun heq => hcalls (heq ▸ hcall)) h
    rw [hgone] at hkept
    cases hkept
  cases e with
  | stop k =>
      obtain ⟨handle, p, calls, serves, holds, asks, rfl⟩ := step.stop_spec
      obtain ⟨q, hq, hcall | ⟨id, rest, -, hcall⟩⟩ := asks _ (detaches serves rfl)
      · obtain ⟨hchannel, hsubscriber⟩ := LogCall.detach.inj hcall
        refine ⟨k, rfl, q, hq, Prod.ext hchannel.symm hsubscriber.symm, ?_⟩
        cases hphase : q.phase with
        | ended =>
            rw [step.eq_of_stop_ended hq hphase] at hgone
            rw [hgone] at hthere
            cases hthere
        | idle | handing | recording => rfl
      · cases hcall
  | record k id reply =>
      obtain ⟨handle, p, rest, d, serves, -, -, hcall, rfl⟩ := step.record_spec
      have hafter : d.committed =
          (after handle s.database [.advance p.channel p.subscriber id]).committed :=
        (congrArg (fun r => r.2.committed) hcall).symm
      have hmem := detaches serves hafter
      cases List.mem_singleton.mp hmem
  | subscribe k | poll k | handOver k | turn k | receive k | leave k =>
      obtain ⟨handle, calls, p?, serves, asks, rfl⟩ := step.served rfl
      exact nomatch asks _ (detaches serves rfl)
  | handles e =>
      cases step with
      | handles spares move =>
          have hsame := (move.cursors inv.oneWriter spares inv.spares).1
          rw [committed, Store.cursor?_congr hsame] at hgone
          rw [hgone] at hthere
          cases hthere
  | reopen =>
      cases step with
      | reopen file =>
          have hsame : s.committed.cursor? place = none := hgone
          rw [hsame] at hthere
          cases hthere

/-- Only a subscription that attaches brings a cursor of its name. -/
theorem adds_cursor (inv : Sound s) (step : Step body s e t)
    (hgone : s.committed.cursor? place = none)
    (hthere : (t.committed.cursor? place).isSome = true) :
    ∃ k cursor, e = .subscribe k place.1 place.2 (.ok cursor) := by
  -- Whatever attaches nobody of this name adds no cursor.
  have attaches : ∀ {handle : (call : LogCall) → Database → call.Reply × Database}
      {calls : List LogCall}, Serves handle →
      t.committed = (after handle s.database calls).committed →
      .attach place.1 place.2 ∈ calls := by
    intro handle calls serves ht
    by_contra hcalls
    have hkept : t.committed.cursor? place = none := by
      rw [ht]
      refine serves.keeps (fun s => s.cursor? place = none) ?_ hgone
      intro call hcall now s h
      exact Store.cursor?_applyLog_eq_none (fun heq => hcalls (heq ▸ hcall)) h
    rw [hkept] at hthere
    cases hthere
  cases e with
  | subscribe k channel subscriber result =>
      cases result with
      | error e =>
          rw [step.eq_of_unsubscribed, hgone] at hthere
          cases hthere
      | ok cursor =>
          obtain ⟨handle, calls, p?, serves, asks, rfl⟩ := step.served rfl
          obtain ⟨rfl, rfl⟩ := LogCall.attach.inj (asks _ (attaches serves rfl))
          exact ⟨k, cursor, rfl⟩
  | record k | stop k =>
      obtain ⟨handle, calls, p?, serves, asks, rfl⟩ := step.served rfl
      obtain ⟨q, -, hcall | ⟨id, rest, -, hcall⟩⟩ := asks _ (attaches serves rfl)
      · cases hcall
      · cases hcall
  | poll k | handOver k | turn k | receive k | leave k =>
      obtain ⟨handle, calls, p?, serves, asks, rfl⟩ := step.served rfl
      exact nomatch asks _ (attaches serves rfl)
  | handles e =>
      cases step with
      | handles spares move =>
          have hsame := (move.cursors inv.oneWriter spares inv.spares).1
          rw [committed, Store.cursor?_congr hsame, hgone] at hthere
          cases hthere
  | reopen =>
      cases step with
      | reopen file =>
          have hsame : (s.committed.cursor? place).isSome = true := hthere
          rw [hgone] at hsame
          cases hsame

/-- Who attaches has a cursor. -/
theorem cursor?_of_subscribed {cursor : Int}
    (step : Step body s (.subscribe k place.1 place.2 (.ok cursor)) t) :
    t.committed.cursor? place = some cursor := by
  obtain ⟨handle, settings, d, serves, -, hcall, rfl⟩ := step.subscribed_spec
  exact (serves.attach_ok hcall).2

/-- A subscription that has ended stays so for as long as it is in its slot. -/
theorem ended_of_ended {p p' : Poller} (step : Step body s e t) (hp : s.pollers slot = some p)
    (hended : p.phase = .ended) (hp' : t.pollers slot = some p') : p'.phase = .ended := by
  by_cases hslot : e.slot? = some slot
  · have hkept : ∀ {r : Poller}, s.pollers slot = some r → r.phase = .ended := by
      intro r hr
      rw [hp] at hr
      exact Option.some.inj hr ▸ hended
    cases e with
    | handles | reopen => cases hslot
    | subscribe k channel subscriber result =>
        cases hslot
        cases result with
        | error e =>
            rw [step.eq_of_unsubscribed] at hp'
            exact hkept hp'
        | ok cursor =>
            obtain ⟨handle, settings, d, -, hfree, -⟩ := step.subscribed_spec
            rw [hp] at hfree
            cases hfree
    | poll k =>
        cases hslot
        rcases step.poll_spec with rfl | ⟨r, hr, hidle, -⟩
        · exact hkept hp'
        · cases hidle.symm.trans (hkept hr)
    | handOver k m =>
        cases hslot
        obtain ⟨r, rest, hr, ready, -⟩ := step.handOver_spec
        cases ready.symm.trans (hkept hr)
    | record k id reply =>
        cases hslot
        obtain ⟨handle, r, rest, d, -, hr, ready, -⟩ := step.record_spec
        cases ready.symm.trans (hkept hr)
    | turn k =>
        cases hslot
        obtain ⟨r, hr, ready, -⟩ := step.turn_spec
        cases ready.symm.trans (hkept hr)
    | receive k payload =>
        cases hslot
        obtain ⟨r, waiting, hr, rfl⟩ := step.receive_spec
        rw [pollers_put_self] at hp'
        obtain rfl := Option.some.inj hp'
        exact hkept (r := r) hr
    | stop k =>
        cases hslot
        obtain ⟨handle, r, calls, -, hr, -, rfl⟩ := step.stop_spec
        rw [pollers_put_self] at hp'
        exact Option.some.inj hp' ▸ rfl
    | leave k =>
        cases hslot
        rw [step.leave_spec.2, pollers_put_self] at hp'
        cases hp'
  · have hsame := step.pollers_elsewhere hslot hp'
    rw [hp] at hsame
    exact Option.some.inj hsame ▸ hended

/-- A subscription at work was so before, unless it has just been made. -/
theorem holds_cases (step : Step body s e t) (h : t.Holds slot place) :
    (∃ result, e = .subscribe slot place.1 place.2 result) ∨ s.Holds slot place := by
  obtain ⟨p, hp, rfl, hlive⟩ := h
  by_cases hslot : e.slot? = some slot
  · rcases step.poller_cases hslot hp with ⟨result, rfl, -⟩ | ⟨r, hr, hchannel, hsubscriber, -⟩
    · exact Or.inl ⟨result, rfl⟩
    · refine Or.inr ⟨r, hr, Prod.ext hchannel hsubscriber, ?_⟩
      cases hphase : r.phase with
      | ended =>
          rw [step.ended_of_ended hr hphase hp] at hlive
          exact hlive
      | idle | handing | recording => rfl
  · exact Or.inr ⟨p, step.pollers_elsewhere hslot hp, rfl, hlive⟩

/-- A subscription that stops is not at work any more. -/
theorem not_holds_of_stop (step : Step body s (.stop slot) t) : ¬ t.Holds slot place := by
  rintro ⟨p, hp, -, hlive⟩
  obtain ⟨handle, q, calls, -, -, -, rfl⟩ := step.stop_spec
  rw [pollers_put_self] at hp
  obtain rfl := Option.some.inj hp
  cases hlive

end Step

/-! ## Whether a subscription has its cursor -/

/-- While the subscription in a slot was there, another one of its name has stopped and taken along
the cursor they shared; and nobody of that name has attached since. -/
structure DisplacedAt (body : τ → Body α) (s t : Subscribers τ α) (slot : Nat)
    (place : String × String) (before : List (Event τ α)) (k : Nat) (after : List (Event τ α)) :
    Prop where
  other : k ≠ slot
  stops : ∃ u v, Run body s before u ∧ Step body u (.stop k) v ∧ Run body v after t ∧
    u.Holds k place ∧ (u.committed.cursor? place).isSome = true ∧
    v.Holds slot place ∧ v.committed.cursor? place = none
  unattached : ∀ n cursor, .subscribe n place.1 place.2 (.ok cursor) ∉ after

/-- The subscription in a slot has been displaced at some moment of a run. -/
def Displaced (body : τ → Body α) (s t : Subscribers τ α) (events : List (Event τ α)) (slot : Nat)
    (place : String × String) : Prop :=
  ∃ before k after, events = before ++ .stop k :: after ∧
    DisplacedAt body s t slot place before k after

/-- A cursor that is gone is so until somebody attaches. -/
theorem Run.cursor?_eq_none (inv : Sound s) (run : Run body s events t)
    (hgone : s.committed.cursor? place = none)
    (unattached : ∀ n cursor, .subscribe n place.1 place.2 (.ok cursor) ∉ events) :
    t.committed.cursor? place = none := by
  induction run with
  | nil => exact hgone
  | @snoc t u events e run last ih =>
      have hbefore := ih fun n cursor hmem =>
        unattached n cursor (List.mem_append_left _ hmem)
      cases hafter : u.committed.cursor? place with
      | none => rfl
      | some found =>
          have hthere : (u.committed.cursor? place).isSome = true := by rw [hafter]; rfl
          obtain ⟨n, cursor, rfl⟩ := last.adds_cursor (inv.run run).1 hbefore hthere
          exact absurd (List.mem_append_right _ List.mem_cons_self) (unattached n cursor)

/-- A subscription at work without a cursor has been displaced. -/
theorem Run.displaced (inv : Sound s) (free : ∀ slot, s.pollers slot = none)
    (run : Run body s events t) (holds : t.Holds slot place)
    (hgone : t.committed.cursor? place = none) : Displaced body s t events slot place := by
  induction run with
  | nil =>
      obtain ⟨p, hp, -⟩ := holds
      rw [free] at hp
      cases hp
  | @snoc t u events e run last ih =>
      have attaches : ∀ n cursor, e ≠ .subscribe n place.1 place.2 (.ok cursor) := by
        rintro n cursor rfl
        rw [last.cursor?_of_subscribed] at hgone
        cases hgone
      have hbefore : t.Holds slot place := by
        rcases last.holds_cases holds with ⟨result, rfl⟩ | hheld
        · cases result with
          | ok cursor => exact absurd rfl (attaches slot cursor)
          | error e =>
              rw [last.eq_of_unsubscribed] at holds
              exact holds
        · exact hheld
      cases hrow : t.committed.cursor? place with
      | none =>
          obtain ⟨before, k, after, rfl, displaced⟩ := ih hbefore hrow
          obtain ⟨x, y, first, stops, rest, hrest⟩ := displaced.stops
          refine ⟨before, k, after ++ [e], by simp, displaced.other,
            ⟨x, y, first, stops, rest.snoc last, hrest⟩, ?_⟩
          intro n cursor hmem
          rcases List.mem_append.mp hmem with hold | hnew
          · exact displaced.unattached n cursor hold
          · exact attaches n cursor (List.mem_singleton.mp hnew).symm
      | some cursor =>
          have hthere : (t.committed.cursor? place).isSome = true := by rw [hrow]; rfl
          obtain ⟨k, rfl, hk⟩ := last.removes_cursor (inv.run run).1 hthere hgone
          refine ⟨events, k, [], rfl, ?_, ⟨t, u, run, last, .nil u, hk, hthere, holds, hgone⟩, ?_⟩
          · rintro rfl
            exact last.not_holds_of_stop holds
          · intro n cursor hmem
            cases hmem

/-- On a database on which handles and subscriptions have done whatever they do, the cursor of a
subscription at work is stored unless the subscription has been displaced. The id of the message it
has handed over, once the store says that it is stored, is so in exactly these cases. -/
theorem keeps_cursor_unless_displaced {d : Database} (hidle : d.draft = none)
    (bounded : d.committed.Bounded) (run : Run body (start d) events s)
    (holds : s.Holds slot place) :
    ((s.committed.cursor? place).isSome = true ↔
      ¬ Displaced body (start d) s events slot place) ∧
    ∀ (id : Int) (t : Subscribers τ α), Step body s (.record slot id (.ok ())) t →
      (t.committed.cursor? place = some id ↔
        ¬ Displaced body (start d) s events slot place) := by
  have sound : Sound (start d : Subscribers τ α) := .start hidle bounded
  have hstored : (s.committed.cursor? place).isSome = true ↔
      ¬ Displaced body (start d) s events slot place := by
    constructor
    · rintro hthere ⟨before, k, after, rfl, displaced⟩
      obtain ⟨u, v, first, stops, rest, -, -, -, hgone⟩ := displaced.stops
      have soundv := ((sound.run first).1.step stops).1
      rw [rest.cursor?_eq_none soundv hgone displaced.unattached] at hthere
      cases hthere
    · intro hnot
      cases hrow : s.committed.cursor? place with
      | some cursor => rfl
      | none => exact absurd (run.displaced sound (fun _ => rfl) holds hrow) hnot
  refine ⟨hstored, ?_⟩
  intro id t step
  obtain ⟨handle, p, rest, d', serves, hp, -, hcall, rfl⟩ := step.record_spec
  obtain ⟨q, hq, rfl, -⟩ := holds
  rw [hp] at hq
  obtain rfl := Option.some.inj hq
  rw [← hstored, committed, database_put, serves.advance_ok hcall]
  cases (s.committed.cursor? (p.channel, p.subscriber)) with
  | none => simp
  | some last => simp

/-! ## A subscriber that comes back too early -/

/-- A subscriber attaches again before its earlier subscription has stopped. -/
def comeBack : List (Event Unit Unit) :=
  [.subscribe 0 "news" "a" (.ok PubSub.start), .subscribe 1 "news" "a" (.ok PubSub.start), .stop 0]

/-- What the earlier subscription leaves to the later one when it stops. -/
def robbed : Subscribers Unit Unit :=
  let p : Poller := .attached {} "news" "a" PubSub.start
  let both := newcomer.put 1 (some p) newcomer.database
  both.put 0 (some { p with phase := .ended })
    (served (.detach "news" "a") newcomer.database).2

theorem run_comeBack (body : Unit → Body Unit) :
    Run body (start (.empty .file)) comeBack robbed := by
  let p : Poller := .attached {} "news" "a" PubSub.start
  let both := newcomer.put 1 (some p) newcomer.database
  have serves : Serves served := fun call d => Or.inl ⟨⟨0⟩, rfl⟩
  have subscribes : Step body newcomer (.subscribe 1 "news" "a" (.ok PubSub.start)) both :=
    .subscribed (p := p) serves rfl rfl
  have stops : Step body both (.stop 0) robbed := .stop (p := p) serves rfl rfl
  exact ((run_newcomer body).snoc subscribes).snoc stops

theorem holds_robbed : robbed.Holds 1 ("news", "a") := ⟨_, rfl, rfl, rfl⟩

theorem cursor?_robbed : robbed.committed.cursor? ("news", "a") = none := by
  show (attended.detach "news" "a").cursor? ("news", "a") = none
  rw [Store.cursor?_detach, if_pos rfl]

theorem keeps_cursor_unless_displaced_comeBack :
    robbed.Holds 1 ("news", "a") ∧
      Displaced (fun _ => pure ()) (start (.empty .file)) robbed comeBack 1 ("news", "a") := by
  refine ⟨holds_robbed, ?_⟩
  have hkeeps := keeps_cursor_unless_displaced rfl Store.bounded_empty
    (run_comeBack fun _ => pure ()) holds_robbed
  by_contra hnot
  have hthere := hkeeps.1.mpr hnot
  rw [cursor?_robbed] at hthere
  cases hthere

/-- The later subscription hands over a message, and the store says that its id is stored; but there
is no cursor. -/
theorem comeBack_unstored :
    let message : LogEntry := ⟨1, "hello"⟩
    let publish : Statement := .operate ⟨0⟩ (.publish "news" "hello")
    ∃ s : Subscribers Unit Unit, Run (fun _ => pure ()) (start (.empty .file))
        (comeBack ++ [.handles (.statement 0 publish (.ok ())), .poll 1, .handOver 1 message,
          .record 1 1 (.ok ())]) s ∧
      s.Holds 1 ("news", "a") ∧ s.committed.cursor? ("news", "a") = none := by
  intro message publish
  let body (_ : Unit) : Body Unit := pure ()
  let p : Poller := .attached {} "news" "a" PubSub.start
  let published := robbed.execute publish
  let fetching := published.put 1 (some { p with phase := .handing [message] }) published.database
  let handing := fetching.put 1 (some (p.handOver message [])) fetching.database
  let recorded := handing.put 1 (some { p.handOver message [] with phase := .handing [] })
    (served (.advance "news" "a" 1) handing.database).2
  have serves : Serves served := fun call d => Or.inl ⟨⟨0⟩, rfl⟩
  have publishes : Step body robbed (.handles (.statement 0 publish (.ok ()))) published :=
    Step.statement body robbed 0 publish trivial
  have polls : Step body published (.poll 1) fetching := .poll serves rfl rfl
  have hands : Step body fetching (.handOver 1 message) handing := .handOver serves rfl rfl rfl
  have records : Step body handing (.record 1 1 (.ok ())) recorded := .record serves rfl rfl rfl
  have run := ((((run_comeBack body).snoc publishes).snoc polls).snoc hands).snoc records
  have hgone : handing.committed.cursor? ("news", "a") = none := cursor?_robbed
  refine ⟨recorded, run, ⟨_, rfl, rfl, rfl⟩, ?_⟩
  show (handing.committed.advance 0 "news" "a" 1).cursor? ("news", "a") = none
  rw [Store.cursor?_advance, if_pos rfl, hgone]
  rfl

end Subscribers

end PubSub

end SqlCache
