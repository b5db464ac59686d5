import SqlCache.Backend

/-!
Clients that read the clock anew for every operation. `Backend.ticking` puts the readings still to
come beside the state of a store, and whatever works on the store takes the next one; a plan is
carried out as before, and a clock that stands still makes no difference
(`Backend.ticking_perform_const`). A relation between states that every single act preserves, with
the same answer, is preserved by every plan (`Bisimulation.perform`).
-/

set_option autoImplicit false

namespace SqlCache

/-! ## A clock beside a store -/

namespace Backend

variable {σ α : Type} (b : Backend σ)

/-- A store with the readings of the clock that are still to come. -/
def ticking : Backend (σ × (Nat → Instant)) :=
  let tick {β : Type} (act : Instant → σ → β × σ) (t : σ × (Nat → Instant)) :
      β × (σ × (Nat → Instant)) :=
    let (r, s) := act (t.2 0) t.1
    (r, s, fun n => t.2 (n + 1))
  { b.through Prod.fst (fun s t => (s, t.2)) with
    operate := fun _ op => tick fun now => b.operate now op
    within := fun _ c op => tick fun now => b.within now c op
    log := fun _ call => tick fun now => b.log now call }

/-! ## A clock that stands still -/

theorem ticking_run_const {now : Instant} (given : Instant) (c : Connection) (script : Script α)
    (s : σ) :
    script.run (b.ticking.within given c) (s, fun _ => now) =
      ((script.run (b.within now c) s).1, (script.run (b.within now c) s).2, fun _ => now) := by
  induction script generalizing s with
  | done a => rfl
  | ask op next ih => exact ih (b.within now c op s).1 (b.within now c op s).2

/-- The end of a transaction does not read the clock. -/
theorem ticking_finish (c : Connection) (result : Result α) (s : σ) (clock : Nat → Instant) :
    b.ticking.finish c result (s, clock) =
      ((b.finish c result s).1, (b.finish c result s).2, clock) := by
  unfold finish
  cases result with
  | error e => rfl
  | ok a =>
      have hcommit : b.ticking.commit c (s, clock) =
          ((b.commit c s).1, (b.commit c s).2, clock) := rfl
      rw [hcommit]
      rcases b.commit c s with ⟨done, s'⟩
      cases done <;> rfl

/-- The beginning of a transaction does not read the clock. -/
theorem ticking_transaction (given : Instant) (body : Body α) (s : σ) (clock : Nat → Instant) :
    b.ticking.transaction given body (s, clock) =
      match b.begin s with
      | (.error e, s') => (.error e, s', clock)
      | (.ok c, s') =>
        b.ticking.finish c (body.run.run (b.ticking.within given c) (s', clock)).1
          (body.run.run (b.ticking.within given c) (s', clock)).2 := by
  have hbegin : b.ticking.begin (s, clock) = ((b.begin s).1, (b.begin s).2, clock) := rfl
  unfold transaction
  rw [hbegin]
  rcases b.begin s with ⟨r, s'⟩
  cases r <;> rfl

/-- A clock that stands still shows what a plan is carried out at. -/
theorem ticking_perform_const (now given : Instant) (plan : Plan α) (s : σ) :
    b.ticking.perform given plan (s, fun _ => now) =
      ((b.perform now plan s).1, (b.perform now plan s).2, fun _ => now) := by
  cases plan with
  | answer result => rfl
  | single op read => rfl
  | atomic body =>
      show b.ticking.transaction given body _ = _
      rw [ticking_transaction, perform, transaction]
      rcases b.begin s with ⟨r, s'⟩
      cases r with
      | error e => rfl
      | ok c => simp only [ticking_run_const, ticking_finish]

end Backend

/-- Readings of a clock that does not go back, from an instant on. -/
structure Ticks (first : Instant) (clock : Nat → Instant) : Prop where
  first_le : ∀ i, first ≤ clock i
  ascending : ∀ {i j}, i ≤ j → clock i ≤ clock j

/-- An instant that has come when some of the readings have been taken. -/
def Shown (first : Instant) (clock : Nat → Instant) (now : Instant) : Prop :=
  now = first ∨ ∃ i, now = clock i

theorem Ticks.tail {first : Instant} {clock : Nat → Instant} (ticks : Ticks first clock) :
    Ticks (clock 0) fun n => clock (n + 1) where
  first_le _ := ticks.ascending (Nat.zero_le _)
  ascending h := ticks.ascending (Nat.succ_le_succ h)

theorem Shown.of_tail {first now : Instant} {clock : Nat → Instant}
    (h : Shown (clock 0) (fun n => clock (n + 1)) now) : Shown first clock now := by
  rcases h with h | ⟨i, h⟩
  · exact Or.inr ⟨0, h⟩
  · exact Or.inr ⟨i + 1, h⟩

/-! ## States that cannot be told apart -/

/-- Two outcomes with one answer, and with states that are alike. -/
def Agree {β σ : Type} (alike : σ → σ → Prop) (x y : β × σ) : Prop :=
  x.1 = y.1 ∧ alike x.2 y.2

/-- A relation between states at an instant that time and all acts of clients preserve. -/
structure Bisimulation {σ : Type} (b : Backend σ) (alike : Instant → σ → σ → Prop) : Prop where
  later : ∀ {now later s t}, now ≤ later → alike now s t → alike later s t
  operate : ∀ {now s t} op, alike now s t →
    Agree (alike now) (b.operate now op s) (b.operate now op t)
  begin : ∀ {now s t}, alike now s t → Agree (alike now) (b.begin s) (b.begin t)
  within : ∀ {now s t} c op, alike now s t →
    Agree (alike now) (b.within now c op s) (b.within now c op t)
  commit : ∀ {now s t} c, alike now s t → Agree (alike now) (b.commit c s) (b.commit c t)
  rollback : ∀ {now s t} c, alike now s t → alike now (b.rollback c s) (b.rollback c t)

namespace Bisimulation

variable {σ α : Type} {b : Backend σ} {alike : Instant → σ → σ → Prop}
  {first now : Instant} {clock : Nat → Instant} {s t : σ}

/-- A program in a transaction gets the same answers in states that are alike. -/
theorem run (bis : Bisimulation b alike) (given : Instant) (c : Connection) (script : Script α)
    (ticks : Ticks first clock) (h : alike first s t) :
    ∃ now, Shown first clock now ∧
      Agree (fun x y => alike now x.1 y.1 ∧ x.2 = y.2)
        (script.run (b.ticking.within given c) (s, clock))
        (script.run (b.ticking.within given c) (t, clock)) := by
  induction script generalizing s t first clock with
  | done a => exact ⟨first, Or.inl rfl, rfl, h, rfl⟩
  | ask op next ih =>
      obtain ⟨hreply, hnext⟩ := bis.within c op (bis.later (ticks.first_le 0) h)
      obtain ⟨now, hshown, hrest⟩ := ih (b.within (clock 0) c op s).1 ticks.tail hnext
      refine ⟨now, hshown.of_tail, ?_⟩
      show Agree _ ((next (b.within (clock 0) c op s).1).run _ _)
        ((next (b.within (clock 0) c op t).1).run _ _)
      rw [← hreply]
      exact hrest

theorem finish (bis : Bisimulation b alike) (c : Connection) (result : Result α)
    (h : alike now s t) : Agree (alike now) (b.finish c result s) (b.finish c result t) := by
  unfold Backend.finish
  cases result with
  | error e => exact ⟨rfl, bis.rollback c h⟩
  | ok a =>
      have hcommit := bis.commit c h
      revert hcommit
      rcases b.commit c s with ⟨done, s'⟩
      rcases b.commit c t with ⟨done', t'⟩
      rintro ⟨rfl, hnext⟩
      cases done with
      | error e => exact ⟨rfl, hnext⟩
      | ok u => exact ⟨rfl, hnext⟩

theorem transaction (bis : Bisimulation b alike) (given : Instant) (body : Body α)
    (ticks : Ticks first clock) (h : alike first s t) :
    ∃ now, Shown first clock now ∧
      Agree (fun x y => alike now x.1 y.1) (b.ticking.transaction given body (s, clock))
        (b.ticking.transaction given body (t, clock)) := by
  rw [Backend.ticking_transaction, Backend.ticking_transaction]
  have hbegin := bis.begin h
  revert hbegin
  rcases b.begin s with ⟨r, s'⟩
  rcases b.begin t with ⟨r', t'⟩
  rintro ⟨rfl, hnext⟩
  cases r with
  | error e => exact ⟨first, Or.inl rfl, rfl, hnext⟩
  | ok c =>
      obtain ⟨now, hshown, hresult, halike, -⟩ := bis.run given c body.run ticks hnext
      refine ⟨now, hshown, ?_⟩
      show Agree _ (b.ticking.finish c _ (_, _)) (b.ticking.finish c _ (_, _))
      rw [Backend.ticking_finish, Backend.ticking_finish, hresult]
      exact bis.finish c _ halike

/-- A plan gets the same answer in states that are alike, and they stay alike. -/
theorem perform (bis : Bisimulation b alike) (given : Instant) (plan : Plan α)
    (ticks : Ticks first clock) (h : alike first s t) :
    ∃ now, Shown first clock now ∧
      Agree (fun x y => alike now x.1 y.1) (b.ticking.perform given plan (s, clock))
        (b.ticking.perform given plan (t, clock)) := by
  cases plan with
  | answer result => exact ⟨first, Or.inl rfl, rfl, h⟩
  | single op read =>
      obtain ⟨hreply, hnext⟩ := bis.operate op (bis.later (ticks.first_le 0) h)
      refine ⟨clock 0, Or.inr ⟨0, rfl⟩, ?_, hnext⟩
      show (b.operate (clock 0) op s).1.bind read = (b.operate (clock 0) op t).1.bind read
      rw [hreply]
  | atomic body => exact bis.transaction given body ticks h

end Bisimulation

end SqlCache
