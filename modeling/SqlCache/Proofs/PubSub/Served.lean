import SqlCache.Proofs.Handles.Cursors
import SqlCache.Proofs.PubSub.Watched

/-!
What calls on the log do to a database, whoever serves them. A call fails and leaves everything as
it is, or it does to the committed tables what it does to any; calls that write do so only while no
transaction is open. A stored cursor is changed by the calls about it alone.
-/

set_option autoImplicit false

namespace SqlCache.PubSub

/-- A call on the log fails and leaves everything as it is, or does to the committed tables what it
does to any; one that writes does so while no transaction is open. -/
theorem applyLog_cases (d : Database) (now : Instant) (call : LogCall) :
    (∃ e, d.applyLog now call = (.error e, d)) ∨
      ∃ a, (call.isWrite = true → d.draft = none) ∧ (d.committed.applyLog now call).1 = .ok a ∧
        d.applyLog now call =
          (.ok a, { d with committed := (d.committed.applyLog now call).2 }) := by
  unfold Database.applyLog Database.direct
  cases hfault : d.writeFault? call.isWrite <|> d.conflict? call.isWrite (some call.table) with
  | some fault => exact Or.inl ⟨_, rfl⟩
  | none =>
      obtain ⟨a, ha⟩ : ∃ a, (d.committed.applyLog now call).1 = .ok a := by
        cases call <;> exact ⟨_, rfl⟩
      refine Or.inr ⟨a, ?_, ha, ?_⟩
      · intro hwrite
        rw [hwrite] at hfault
        exact Database.draft_eq_none_of_no_fault hfault
      · show ((d.committed.applyLog now call).1, _) = _
        rw [ha]
        rfl

/-- The database after calls on the log, one after another. -/
def after (handle : (call : LogCall) → Database → call.Reply × Database) (d : Database)
    (calls : List LogCall) : Database :=
  calls.foldl (fun d call => (handle call d).2) d

namespace Serves

variable {handle : (call : LogCall) → Database → call.Reply × Database} {d d' : Database}
  {call : LogCall} {channel subscriber : String} {place : String × String}

/-- A call that fails leaves everything as it is. -/
theorem eq_of_error (serves : Serves handle) {e : CacheError}
    (h : handle call d = (.error e, d')) : d' = d := by
  rcases serves call d with ⟨now, hserved⟩ | ⟨e', hserved⟩
  · rcases applyLog_cases d now call with ⟨e', happly⟩ | ⟨a, -, -, happly⟩
    · rw [hserved, happly] at h
      exact (Prod.mk.inj h).2.symm
    · rw [hserved, happly] at h
      cases (Prod.mk.inj h).1
  · rw [hserved] at h
    exact (Prod.mk.inj h).2.symm

/-- A call that succeeds does what the tables do; one that writes, while no transaction is open. -/
theorem of_ok (serves : Serves handle) {a : call.Answer} (h : handle call d = (.ok a, d')) :
    ∃ now, (call.isWrite = true → d.draft = none) ∧
      (d.committed.applyLog now call).1 = .ok a ∧
      d' = { d with committed := (d.committed.applyLog now call).2 } := by
  rcases serves call d with ⟨now, hserved⟩ | ⟨e', hserved⟩
  · rcases applyLog_cases d now call with ⟨e', happly⟩ | ⟨a', hidle, ha', happly⟩
    · rw [hserved, happly] at h
      cases (Prod.mk.inj h).1
    · rw [hserved, happly] at h
      obtain ⟨ha, rfl⟩ := Prod.mk.inj h
      exact ⟨now, hidle, ha'.trans ha, rfl⟩
  · rw [hserved] at h
    cases (Prod.mk.inj h).1

/-- A fetch leaves everything as it is. -/
theorem fetch_snd (serves : Serves handle) (channel : String) (after limit : Int) (d : Database) :
    (handle (.fetchAfter channel after limit) d).2 = d := by
  rcases hcall : handle (.fetchAfter channel after limit) d with ⟨reply, d'⟩
  cases reply with
  | error e => exact serves.eq_of_error hcall
  | ok batch =>
      obtain ⟨now, -, -, rfl⟩ := serves.of_ok hcall
      rfl

/-- An open transaction has still left the cursors alone. -/
theorem sparesCursors (serves : Serves handle) (c : d.SparesCursors) (call : LogCall) :
    (handle call d).2.SparesCursors := by
  rcases hcall : handle call d with ⟨reply, d'⟩
  cases reply with
  | error e =>
      rw [serves.eq_of_error hcall]
      exact c
  | ok a =>
      obtain ⟨now, hidle, -, rfl⟩ := serves.of_ok hcall
      cases hwrite : call.isWrite with
      | true => exact .of_draft_eq_none (hidle hwrite)
      | false =>
          rw [Store.applyLog_of_isWrite_eq_false hwrite]
          exact c

/-- A stored cursor is what it was before a call, or what the call writes. -/
theorem cursor?_cases (serves : Serves handle) (call : LogCall) {last : Int}
    (h : (handle call d).2.committed.cursor? place = some last) :
    d.committed.cursor? place = some last ∨ call.written? = some last := by
  rcases hcall : handle call d with ⟨reply, d'⟩
  rw [hcall] at h
  cases reply with
  | error e =>
      rw [serves.eq_of_error hcall] at h
      exact Or.inl h
  | ok a =>
      obtain ⟨now, -, -, rfl⟩ := serves.of_ok hcall
      exact Store.applyLog_cursor?_cases h

/-- A call is about the cursor of one place, and leaves all others. -/
theorem cursor?_elsewhere (serves : Serves handle) (call : LogCall)
    (h : call.place? ≠ some place) :
    (handle call d).2.committed.cursor? place = d.committed.cursor? place := by
  rcases hcall : handle call d with ⟨reply, d'⟩
  cases reply with
  | error e => rw [serves.eq_of_error hcall]
  | ok a =>
      obtain ⟨now, -, -, rfl⟩ := serves.of_ok hcall
      exact Store.applyLog_cursor?_elsewhere now h

/-- Attaching finds the cursor that is stored, or stores a new one. -/
theorem attach_ok (serves : Serves handle) {cursor : Int}
    (h : handle (.attach channel subscriber) d = (.ok cursor, d')) :
    cursor = (d.committed.cursor? (channel, subscriber)).getD start ∧
      d'.committed.cursor? (channel, subscriber) = some cursor := by
  obtain ⟨now, -, hreply, rfl⟩ := serves.of_ok h
  have hattached := d.committed.cursor?_attach now.millis channel subscriber (channel, subscriber)
  rw [if_pos rfl] at hattached
  have hcursor : ((d.committed.attach now.millis channel subscriber).cursor?
      (channel, subscriber)).getD start = cursor := Except.ok.inj hreply
  rw [hattached] at hcursor
  subst hcursor
  exact ⟨rfl, hattached⟩

/-- A cursor that is stored is stored where there is one. -/
theorem advance_ok (serves : Serves handle) {id : Int}
    (h : handle (.advance channel subscriber id) d = (.ok (), d')) :
    d'.committed.cursor? (channel, subscriber) =
      (d.committed.cursor? (channel, subscriber)).map fun _ => id := by
  obtain ⟨now, -, -, rfl⟩ := serves.of_ok h
  show (d.committed.advance now.millis channel subscriber id).cursor? _ = _
  rw [Store.cursor?_advance, if_pos rfl]

/-! ### One call after another -/

/-- Calls on the log leave the messages as they are. -/
theorem sameMessages_after (serves : Serves handle) (calls : List LogCall) (d : Database) :
    SameMessages d (after handle d calls) := by
  induction calls generalizing d with
  | nil => exact .refl d
  | cons call rest ih => exact (serves.sameMessages call).trans (ih _)

theorem sparesCursors_after (serves : Serves handle) (c : d.SparesCursors)
    (calls : List LogCall) : (after handle d calls).SparesCursors := by
  induction calls generalizing d with
  | nil => exact c
  | cons call rest ih => exact ih (serves.sparesCursors c call)

/-- A stored cursor is what it was before the calls, or what one of them writes. -/
theorem cursor?_after_cases (serves : Serves handle) {calls : List LogCall} {last : Int}
    (h : (after handle d calls).committed.cursor? place = some last) :
    d.committed.cursor? place = some last ∨ ∃ call ∈ calls, call.written? = some last := by
  induction calls generalizing d with
  | nil => exact Or.inl h
  | cons call rest ih =>
      rcases ih h with hbefore | ⟨later, hmem, hwritten⟩
      · rcases serves.cursor?_cases call hbefore with hold | hwritten
        · exact Or.inl hold
        · exact Or.inr ⟨call, List.mem_cons_self, hwritten⟩
      · exact Or.inr ⟨later, List.mem_cons_of_mem _ hmem, hwritten⟩

/-- Calls about other cursors leave a cursor as it is. -/
theorem cursor?_after_elsewhere (serves : Serves handle) {calls : List LogCall}
    (h : ∀ call ∈ calls, call.place? ≠ some place) :
    (after handle d calls).committed.cursor? place = d.committed.cursor? place := by
  induction calls generalizing d with
  | nil => rfl
  | cons call rest ih =>
      have hrest := ih (d := (handle call d).2) fun c hc => h c (List.mem_cons_of_mem _ hc)
      exact hrest.trans (serves.cursor?_elsewhere call (h call List.mem_cons_self))

end Serves

end SqlCache.PubSub
