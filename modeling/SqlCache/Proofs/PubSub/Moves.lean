import SqlCache.PubSub.Poller

/-!
What a poller can do, on any log: one lemma for each of its moves, which says when the move is made,
which calls it makes, and what becomes of the poller and of the log.
-/

set_option autoImplicit false

namespace SqlCache.PubSub.Poller

variable {σ : Type} {handle : (call : LogCall) → σ → call.Reply × σ} {p q : Poller} {log log' : σ}

/-- A subscriber has what attaching has answered: an error, or a poller at the cursor found. -/
theorem subscribe_spec {settings : PubSubSettings} {channel subscriber : String}
    {result : Result Poller}
    (h : Poller.subscribe handle settings channel subscriber log = (result, log')) :
    ∃ reply, handle (.attach channel subscriber) log = (reply, log') ∧
      result = reply.map (attached settings channel subscriber) := by
  unfold subscribe at h
  rcases hcall : handle (.attach channel subscriber) log with ⟨reply, log₁⟩
  rw [hcall] at h
  cases reply with
  | ok cursor =>
      obtain ⟨rfl, rfl⟩ := Prod.mk.inj h
      exact ⟨_, rfl, rfl⟩
  | error e =>
      obtain ⟨rfl, rfl⟩ := Prod.mk.inj h
      exact ⟨_, rfl, rfl⟩

/-- A tick is one fetch past the cursor, whose batch is handed over next, for a poller that waits
for it, and nothing for any other one. -/
theorem poll_spec (h : p.poll handle log = (q, log')) :
    (p.phase ≠ .idle ∧ q = p ∧ log' = log) ∨
    p.phase = .idle ∧ ∃ reply,
      handle (.fetchAfter p.channel p.cursor p.limit) log = (reply, log') ∧
      ((∃ batch, reply = .ok batch ∧ q = { p with phase := .handing batch }) ∨
        ∃ e, reply = .error e ∧ q = p) := by
  unfold poll at h
  cases hphase : p.phase with
  | idle =>
      rw [hphase] at h
      rcases hcall : handle (.fetchAfter p.channel p.cursor p.limit) log with ⟨reply, log₁⟩
      simp only [hcall] at h
      cases reply with
      | ok batch =>
          obtain ⟨rfl, rfl⟩ := Prod.mk.inj h
          exact Or.inr ⟨rfl, _, rfl, Or.inl ⟨batch, rfl, rfl⟩⟩
      | error e =>
          obtain ⟨rfl, rfl⟩ := Prod.mk.inj h
          exact Or.inr ⟨rfl, _, rfl, Or.inr ⟨e, rfl, rfl⟩⟩
  | handing left | recording id left | ended =>
      rw [hphase] at h
      obtain ⟨rfl, rfl⟩ := Prod.mk.inj h
      exact Or.inl ⟨Phase.noConfusion, rfl, rfl⟩

/-- A poller goes on by itself at the end of a batch, when it has room for the next message, and
when it has to store an id. -/
theorem next_spec (h : p.next? handle log = some (q, log')) :
    (p.phase = .handing [] ∧ q = { p with phase := .idle } ∧ log' = log) ∨
    (∃ m left, p.phase = .handing (m :: left) ∧ p.waiting.length < p.capacity ∧
      q = p.handOver m left ∧ log' = log) ∨
    ∃ id left reply, p.phase = .recording id left ∧
      handle (.advance p.channel p.subscriber id) log = (reply, log') ∧
      q = { p with phase := .handing left } := by
  unfold next? at h
  cases hphase : p.phase with
  | idle | ended =>
      rw [hphase] at h
      cases h
  | handing left =>
      rw [hphase] at h
      cases left with
      | nil =>
          obtain ⟨rfl, rfl⟩ := Prod.mk.inj (Option.some.inj h)
          exact Or.inl ⟨rfl, rfl, rfl⟩
      | cons m left =>
          obtain ⟨room, h⟩ := Option.ite_none_right_eq_some.mp h
          obtain ⟨rfl, rfl⟩ := Prod.mk.inj (Option.some.inj h)
          exact Or.inr (Or.inl ⟨m, left, rfl, room, rfl, rfl⟩)
  | recording id left =>
      rw [hphase] at h
      obtain ⟨rfl, rfl⟩ := Prod.mk.inj (Option.some.inj h)
      exact Or.inr (Or.inr ⟨id, left, _, rfl, rfl, rfl⟩)

/-- A poller that is stopped has its cursor removed, and before that stores the id it was about to
store. One that has ended does nothing. -/
theorem stop_spec (h : p.stop handle log = (q, log')) :
    q = { p with phase := .ended } ∧
    ((p.phase = .ended ∧ log' = log) ∨
      (∃ id left stored log₁ reply, p.phase = .recording id left ∧
        handle (.advance p.channel p.subscriber id) log = (stored, log₁) ∧
        handle (.detach p.channel p.subscriber) log₁ = (reply, log')) ∨
      ((p.phase = .idle ∨ ∃ left, p.phase = .handing left) ∧
        ∃ reply, handle (.detach p.channel p.subscriber) log = (reply, log'))) := by
  unfold stop at h
  cases hphase : p.phase with
  | ended =>
      rw [hphase] at h
      obtain ⟨rfl, rfl⟩ := Prod.mk.inj h
      exact ⟨by rw [← hphase], Or.inl ⟨rfl, rfl⟩⟩
  | recording id left =>
      rw [hphase] at h
      obtain ⟨rfl, rfl⟩ := Prod.mk.inj h
      exact ⟨rfl, Or.inr (Or.inl ⟨id, left, _, _, _, rfl, rfl, rfl⟩)⟩
  | idle =>
      rw [hphase] at h
      obtain ⟨rfl, rfl⟩ := Prod.mk.inj h
      exact ⟨rfl, Or.inr (Or.inr ⟨Or.inl rfl, _, rfl⟩)⟩
  | handing left =>
      rw [hphase] at h
      obtain ⟨rfl, rfl⟩ := Prod.mk.inj h
      exact ⟨rfl, Or.inr (Or.inr ⟨Or.inr ⟨left, rfl⟩, _, rfl⟩)⟩

/-- What is received is the message that has waited longest. -/
theorem receive_spec {payload : String} (h : p.receive? = some (payload, q)) :
    ∃ waiting, p.waiting = payload :: waiting ∧ q = { p with waiting } := by
  unfold receive? at h
  cases hwaiting : p.waiting with
  | nil =>
      rw [hwaiting] at h
      cases h
  | cons first waiting =>
      rw [hwaiting] at h
      obtain ⟨rfl, rfl⟩ := Prod.mk.inj (Option.some.inj h)
      exact ⟨waiting, rfl, rfl⟩

end SqlCache.PubSub.Poller
