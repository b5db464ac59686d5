import SqlCache.Proofs.Reaper.Task

/-!
A client and its reaper loops. A client owns at most one running loop: a loop that is started takes
the place of the one before it, which is told to stop, and closing the client takes the loop away,
tells it to stop and waits for its end. Loops work on the client's database while anybody else does,
and time passes for all of them. Each loop is a task with a run of its own, and whatever a client
does, all of its loops but the one that it owns have been told to stop (`Owner.Sound`, kept by
`Owner.Sound.step` and hence by `Owner.Run.sound`). What has become of a loop stays with it
(`Owner.Run.later`): one that was told starts no pass at a later time (`Owner.Run.told`), and none
that was not due already (`Owner.Run.not_isDue`).
-/

set_option autoImplicit false

namespace SqlCache.Reaper

/-- A loop that a client has started. -/
structure Owned where
  settings : ReaperSettings
  began : Nat
  task : Task

namespace Owned

/-- Tell the loop to stop. -/
def stop (now : Nat) (o : Owned) : Owned := { o with task := o.task.stop now }

/-- What becomes of a loop: it is still the same one, it has been told to stop when it was told, and
if it had ended it has. -/
structure Later (o o' : Owned) : Prop where
  settings : o'.settings = o.settings
  began : o'.began = o.began
  stopped : ∀ {time}, o.task.stopped = some time → o'.task.stopped = some time
  ended : o.task.activity = .ended → o'.task.activity = .ended

theorem Later.refl (o : Owned) : Later o o := ⟨rfl, rfl, id, id⟩

theorem Later.trans {o o' o'' : Owned} (first : Later o o') (rest : Later o' o'') : Later o o'' :=
  ⟨rest.settings.trans first.settings, rest.began.trans first.began,
    fun h => rest.stopped (first.stopped h), fun h => rest.ended (first.ended h)⟩

theorem later_stop (now : Nat) (o : Owned) : Later o (o.stop now) :=
  ⟨rfl, rfl, fun h => by rw [stop, Task.stop, h, Option.some_or], id⟩

theorem stopped_stop (now : Nat) (o : Owned) : (o.stop now).task.stopped ≠ none := by
  simp [stop, Task.stop]

end Owned

/-- The loop waits for a pass that is due. -/
def Owned.IsDue (now : Nat) (o : Owned) : Prop :=
  o.task.activity = .waiting ∧ o.task.loop.due ≤ now

/-- A task that goes on with a pass has no other one to start now. -/
theorem Task.lt_due_goOn {now : Nat} {p : Pass} {t : Task} {rest : Rest}
    (interval : 0 < t.loop.intervalMs) (waits : (t.goOn now p rest).activity = .waiting) :
    now < (t.goOn now p rest).loop.due := by
  unfold goOn at waits ⊢
  split at waits
  · cases waits
  · cases waits
  · exact Nat.lt_add_of_pos_right interval

/-- Whether a task has been told to stop changes only when it is told. -/
theorem Task.Step.stopped_eq {now : Nat} {t u : Task} {e : Task.Event} (step : Step now t e u)
    (h : e ≠ .stop) : u.stopped = t.stopped := by
  cases step with
  | begins | answered => exact stopped_goOn _ _ _ _
  | stopped => exact absurd rfl h
  | quits | joined => rfl

/-- The database answers a call of a loop, and is left alone by all else that a loop does. -/
def Task.Event.Served (d d' : Database) : Task.Event → Prop
  | .answer call reply => d.applyPurge call = (reply, d')
  | .begin _ | .quit => d' = d
  | .stop | .joined | .elapse _ => False

/-- A client with all the loops it has ever started, and the database it works on. -/
structure Owner where
  now : Nat
  database : Database
  /-- In the order in which they were started. -/
  loops : List Owned
  /-- Which of them the client owns. -/
  slot : Option Nat
  /-- The calls of `close` that have not returned yet, by the loops they have taken. -/
  closing : List (Option Nat)

namespace Owner

/-- A client that has not started a loop. -/
def start (d : Database) : Owner := ⟨0, d, [], none, []⟩

/-- Something happens to a loop. -/
def modify (s : Owner) (i : Nat) (f : Owned → Owned) : Owner :=
  { s with loops := s.loops.modify i f }

/-- Give up the loop and tell it to stop. -/
def release (s : Owner) : Owner :=
  match s.slot with
  | none => s
  | some i => { s.modify i (Owned.stop s.now) with slot := none }

/-- A loop has come to another state, and the database too. -/
def goOn (s : Owner) (i : Nat) (t : Task) (d : Database) : Owner :=
  { s.modify i fun o => { o with task := t } with database := d }

/-- Start a loop in place of the one there is. -/
def startReaper (s : Owner) (settings : ReaperSettings) : Owner :=
  { s.release with
    loops := s.release.loops ++ [⟨settings, s.now, .start settings s.now⟩]
    slot := some s.loops.length }

/-- Take the loop away; what remains is to wait for its end. -/
def close (s : Owner) : Owner := { s.release with closing := s.slot :: s.closing }

/-- What happens. -/
inductive Event where
  | startReaper (settings : ReaperSettings)
  | close
  /-- A call of `close` returns. -/
  | closed (call : Nat) (result : Result Unit)
  /-- A loop goes on. -/
  | loop (i : Nat) (e : Task.Event)
  | elapse (ms : Nat)
  /-- Somebody else works on the database. -/
  | others (d : Database)

/-- Does it change which loop the client owns? -/
def Event.isOwning : Event → Bool
  | startReaper _ | close => true
  | closed .. | loop .. | elapse _ | others _ => false

/-- One thing that happens. -/
inductive Step : Owner → Event → Owner → Prop where
  | startReaper (s : Owner) (settings : ReaperSettings) :
      Step s (.startReaper settings) (s.startReaper settings)
  | close (s : Owner) : Step s .close s.close
  | closed {s : Owner} {call : Nat} {taken : Option Nat} (waits : s.closing[call]? = some taken)
      (isOver : ∀ i, taken = some i → ∃ o, s.loops[i]? = some o ∧ o.task.activity = .ended) :
      Step s (.closed call (.ok ())) { s with closing := s.closing.eraseIdx call }
  | loop {s : Owner} {i : Nat} {o : Owned} {e : Task.Event} {t : Task} {d : Database}
      (has : s.loops[i]? = some o) (served : e.Served s.database d)
      (step : Task.Step s.now o.task e t) :
      Step s (.loop i e) (s.goOn i t d)
  | elapse {s : Owner} {ms : Nat} (lets : ∀ o ∈ s.loops, o.task.Lets s.now ms) :
      Step s (.elapse ms) { s with now := s.now + ms }
  | others (s : Owner) (d : Database) : Step s (.others d) { s with database := d }

/-- One thing after the other. -/
inductive Run (first : Owner) : List Event → Owner → Prop where
  | nil : Run first [] first
  | snoc {s t : Owner} {events : List Event} {e : Event} (run : Run first events s)
      (step : Step s e t) : Run first (events ++ [e]) t

variable {s t u : Owner} {e : Event} {events : List Event} {Read : Nat → Instant → Prop}

theorem getElem?_modify (s : Owner) (i k : Nat) (f : Owned → Owned) :
    (s.modify i f).loops[k]? = if i = k then (s.loops[k]?).map f else s.loops[k]? := by
  rw [modify, List.getElem?_modify]
  split
  · rfl
  · simp

/-- A loop in the state after something has happened to one. -/
theorem modify_cases {i k : Nat} {f : Owned → Owned} {o : Owned}
    (has : (s.modify i f).loops[k]? = some o) :
    (i = k ∧ ∃ before, s.loops[i]? = some before ∧ o = f before) ∨
      (i ≠ k ∧ s.loops[k]? = some o) := by
  rw [getElem?_modify] at has
  split at has
  · next heq =>
      obtain ⟨before, hbefore, rfl⟩ := Option.map_eq_some_iff.mp has
      exact Or.inl ⟨heq, before, heq ▸ hbefore, rfl⟩
  · next hne => exact Or.inr ⟨hne, has⟩

theorem loops_goOn (s : Owner) (i k : Nat) (t : Task) (d : Database) :
    (s.goOn i t d).loops[k]? =
      if i = k then (s.loops[k]?).map fun o => { o with task := t } else s.loops[k]? :=
  s.getElem?_modify i k _

/-- The loop in the state to which it has gone on. -/
theorem loops_goOn_self {i : Nat} {o : Owned} (has : s.loops[i]? = some o) (u : Task)
    (d : Database) : (s.goOn i u d).loops[i]? = some { o with task := u } := by
  rw [loops_goOn, if_pos rfl, has, Option.map_some]

/-! ## What becomes of a loop -/

theorem later_modify {i k : Nat} {f : Owned → Owned} {o : Owned} (has : s.loops[k]? = some o)
    (h : i = k → o.Later (f o)) : ∃ o', (s.modify i f).loops[k]? = some o' ∧ o.Later o' := by
  rw [getElem?_modify, has]
  split
  · next heq => exact ⟨f o, rfl, h heq⟩
  · exact ⟨o, rfl, .refl o⟩

theorem loops_release {k : Nat} {o : Owned} (has : s.loops[k]? = some o) :
    s.release.loops[k]? = some o ∨ s.release.loops[k]? = some (o.stop s.now) := by
  unfold release
  split
  · exact Or.inl has
  · next i _ =>
      show (s.modify i (Owned.stop s.now)).loops[k]? = _ ∨ (s.modify i _).loops[k]? = _
      rw [getElem?_modify, has]
      split
      · exact Or.inr rfl
      · exact Or.inl rfl

theorem later_release {k : Nat} {o : Owned} (has : s.loops[k]? = some o) :
    ∃ o', s.release.loops[k]? = some o' ∧ o.Later o' := by
  rcases loops_release has with hsame | hstopped
  · exact ⟨o, hsame, .refl o⟩
  · exact ⟨_, hstopped, Owned.later_stop s.now o⟩

theorem length_release (s : Owner) : s.release.loops.length = s.loops.length := by
  unfold release
  split
  · rfl
  · simp [modify]

theorem now_release (s : Owner) : s.release.now = s.now := by
  unfold release
  split <;> rfl

theorem closing_release (s : Owner) : s.release.closing = s.closing := by
  unfold release
  split <;> rfl

/-- The loops that there are stay where they are when one is started. -/
theorem loops_startReaper_of_release {settings : ReaperSettings} {i : Nat} {o : Owned}
    (has : s.release.loops[i]? = some o) : (s.startReaper settings).loops[i]? = some o :=
  (List.getElem?_append_left (List.getElem?_eq_some_iff.mp has).1).trans has

/-- The loops after one has been started: those before it, and this one. -/
theorem loops_startReaper {settings : ReaperSettings} {i : Nat} {o : Owned}
    (has : (s.startReaper settings).loops[i]? = some o) :
    (i < s.loops.length ∧ s.release.loops[i]? = some o) ∨
      (i = s.loops.length ∧ o = ⟨settings, s.now, .start settings s.now⟩) := by
  rw [startReaper, List.getElem?_append, length_release] at has
  split at has
  · next hlt => exact Or.inl ⟨hlt, has⟩
  · next hge =>
      obtain ⟨hzero, ho⟩ := List.getElem?_eq_some_iff.mp has
      simp only [List.length_singleton, List.getElem_singleton] at hzero ho
      exact Or.inr ⟨by omega, ho.symm⟩

/-- Loops are never forgotten. -/
theorem Step.later (step : Step s e t) {k : Nat} {o : Owned} (has : s.loops[k]? = some o) :
    ∃ o', t.loops[k]? = some o' ∧ o.Later o' := by
  cases step with
  | startReaper settings =>
      obtain ⟨o', hreleased, hlater⟩ := later_release has
      exact ⟨o', loops_startReaper_of_release hreleased, hlater⟩
  | close => exact later_release has
  | closed | elapse | others => exact ⟨o, has, .refl o⟩
  | @loop i first e t d hasLoop served step =>
      have hstop : e ≠ .stop := by
        rintro rfl
        exact served
      refine later_modify has fun heq => ?_
      subst heq
      obtain rfl := Option.some.inj (hasLoop.symm.trans has)
      exact ⟨rfl, rfl, fun htime => (step.stopped_eq hstop).trans htime,
        fun isOver => (step.of_ended isOver).2.1⟩

theorem Run.later (run : Run s events t) {k : Nat} {o : Owned} (has : s.loops[k]? = some o) :
    ∃ o', t.loops[k]? = some o' ∧ o.Later o' := by
  induction run with
  | nil => exact ⟨o, has, .refl o⟩
  | snoc _ step ih =>
      obtain ⟨o', has', hlater⟩ := ih
      obtain ⟨o'', has'', hlater'⟩ := step.later has'
      exact ⟨o'', has'', hlater.trans hlater'⟩

/-- What is known of a client at any time, if the clocks that its loops read have a property. -/
structure Sound (Read : Nat → Instant → Prop) (s : Owner) : Prop where
  /-- Every loop is a task in a run of its own. -/
  tasks : ∀ {i : Nat} {o : Owned}, s.loops[i]? = some o →
    ∃ events, Task.Run o.began (.start o.settings o.began) events s.now o.task ∧
      ∀ clock, .begin clock ∈ events → Read i clock
  /-- The client owns the loop that was started last, if any. -/
  latest : ∀ {i : Nat}, s.slot = some i → i + 1 = s.loops.length
  /-- This is the one that has not been told to stop. -/
  stopped : ∀ {i : Nat} {o : Owned}, s.loops[i]? = some o →
    (o.task.stopped = none ↔ s.slot = some i)
  closing : ∀ {i : Nat}, some i ∈ s.closing → ∃ o, s.loops[i]? = some o ∧ o.task.stopped ≠ none

theorem sound_start (d : Database) : Sound Read (start d) where
  tasks h := nomatch h
  latest h := nomatch h
  stopped h := nomatch h
  closing h := nomatch h

namespace Sound

/-- A loop that was taken away has been told to stop, and stays told. -/
theorem closing_later (sound : Sound Read s) {i : Nat} (taken : some i ∈ s.closing)
    (later : ∀ {o}, s.loops[i]? = some o → ∃ o', t.loops[i]? = some o' ∧ o.Later o') :
    ∃ o, t.loops[i]? = some o ∧ o.task.stopped ≠ none := by
  obtain ⟨o, has, told⟩ := sound.closing taken
  obtain ⟨time, htime⟩ := Option.ne_none_iff_exists'.mp told
  obtain ⟨o', has', hlater⟩ := later has
  exact ⟨o', has', by simp [hlater.stopped htime]⟩

theorem release (sound : Sound Read s) : Sound Read s.release := by
  unfold Owner.release
  split
  · exact sound
  · next i hslot =>
      refine ⟨fun {k o} has => ?_, (nomatch ·), fun {k o} has => ?_, fun taken => ?_⟩
      · rcases modify_cases (f := Owned.stop s.now) has with ⟨rfl, before, hbefore, rfl⟩ | ⟨-, has⟩
        · obtain ⟨events, run, reads⟩ := sound.tasks hbefore
          exact ⟨_, .step run (.stopped _), fun clock h => reads clock (by simpa using h)⟩
        · exact sound.tasks has
      · rcases modify_cases (f := Owned.stop s.now) has with ⟨rfl, before, -, rfl⟩ | ⟨hne, has⟩
        · simp [Owned.stopped_stop]
        · have htold := (sound.stopped has).not.mpr (by simp [hslot, hne])
          simp [htold]
      · exact sound.closing_later taken fun has =>
          later_modify has fun _ => Owned.later_stop s.now _

theorem stopped_release (sound : Sound Read s) {i : Nat} {o : Owned}
    (has : s.release.loops[i]? = some o) : o.task.stopped ≠ none := by
  intro hnone
  have hslot := (sound.release.stopped has).mp hnone
  unfold Owner.release at hslot
  split at hslot
  · next hfree =>
      rw [hfree] at hslot
      cases hslot
  · cases hslot

theorem startReaper (sound : Sound Read s) (settings : ReaperSettings) :
    Sound Read (s.startReaper settings) where
  tasks {i o} has := by
    rcases loops_startReaper has with ⟨-, has⟩ | ⟨-, rfl⟩
    · exact sound.release.tasks has
    · refine ⟨[], ?_, fun clock h => absurd h List.not_mem_nil⟩
      show Task.Run s.now _ [] s.release.now _
      rw [now_release]
      exact .nil
  latest h := by
    obtain rfl := Option.some.inj h
    simp [Owner.startReaper, length_release]
  stopped {i o} has := by
    rcases loops_startReaper has with ⟨hlt, has⟩ | ⟨rfl, rfl⟩
    · have hne : s.loops.length ≠ i := Nat.ne_of_gt hlt
      simp [sound.stopped_release has, Owner.startReaper, hne]
    · exact iff_of_true rfl rfl
  closing taken :=
    sound.closing_later (s.closing_release ▸ taken) fun has =>
      (Step.startReaper s settings).later has

theorem close (sound : Sound Read s) : Sound Read s.close where
  tasks has := sound.release.tasks has
  latest h := sound.release.latest h
  stopped has := sound.release.stopped has
  closing {i} taken := by
    rcases List.mem_cons.mp taken with hslot | taken
    · have hlt : i < s.release.loops.length := by
        have hlatest := sound.latest hslot.symm
        rw [length_release]
        omega
      have has := List.getElem?_eq_getElem hlt
      exact ⟨_, has, sound.stopped_release has⟩
    · exact sound.closing_later taken fun has => (Step.close s).later has

/-- A loop goes on with its own run. -/
theorem loop (sound : Sound Read s) {i : Nat} {o : Owned} {e : Task.Event} {t : Task}
    {d : Database} (has : s.loops[i]? = some o) (served : e.Served s.database d)
    (step : Task.Step s.now o.task e t) (reads : ∀ clock, e = .begin clock → Read i clock) :
    Sound Read (s.goOn i t d) where
  tasks {k o'} has' := by
    rcases modify_cases has' with ⟨rfl, before, hbefore, rfl⟩ | ⟨-, has'⟩
    · obtain rfl := Option.some.inj (has.symm.trans hbefore)
      obtain ⟨events, run, earlier⟩ := sound.tasks has
      refine ⟨_, .step run step, fun clock h => ?_⟩
      rcases List.mem_append.mp h with h | h
      · exact earlier clock h
      · exact reads clock (List.mem_singleton.mp h).symm
    · exact sound.tasks has'
  latest h := by
    have hlatest := sound.latest h
    simpa [goOn, modify] using hlatest
  stopped {k o'} has' := by
    rcases modify_cases has' with ⟨rfl, before, hbefore, rfl⟩ | ⟨-, has'⟩
    · obtain rfl := Option.some.inj (has.symm.trans hbefore)
      have hstop : e ≠ .stop := by
        rintro rfl
        exact served
      show t.stopped = none ↔ s.slot = some i
      rw [← sound.stopped has, step.stopped_eq hstop]
    · exact sound.stopped has'
  closing taken := sound.closing_later taken fun has' => (Step.loop has served step).later has'

/-- What is known of a client is known whatever happens. -/
theorem step (sound : Sound Read s) (step : Step s e t)
    (reads : ∀ i clock, e = .loop i (.begin clock) → Read i clock) : Sound Read t := by
  cases step with
  | startReaper settings => exact sound.startReaper settings
  | close => exact sound.close
  | @closed call taken waits isOver =>
      exact ⟨sound.tasks, sound.latest, sound.stopped,
        fun taken => sound.closing (List.mem_of_mem_eraseIdx taken)⟩
  | @loop i o e t d has served step =>
      refine sound.loop has served step fun clock h => reads i clock ?_
      rw [h]
  | @elapse ms lets =>
      refine ⟨fun {i o} has => ?_, sound.latest, sound.stopped, sound.closing⟩
      obtain ⟨events, run, earlier⟩ := sound.tasks has
      refine ⟨_, .elapse run (lets o (List.mem_of_getElem? has)), fun clock h => ?_⟩
      exact earlier clock (by simpa using h)
  | others d => exact ⟨sound.tasks, sound.latest, sound.stopped, sound.closing⟩

end Sound

/-- What is known of a client is known throughout. -/
theorem Run.sound (run : Run s events t) (sound : Sound Read s)
    (reads : ∀ i clock, .loop i (.begin clock) ∈ events → Read i clock) : Sound Read t := by
  induction run with
  | nil => exact sound
  | snoc _ step ih =>
      refine (ih fun i clock h => reads i clock (List.mem_append_left _ h)).step step ?_
      intro i clock h
      exact reads i clock (List.mem_append_right _ (h ▸ List.mem_singleton_self _))

theorem Run.append {first : Owner} {more : List Event} (run : Run first events s)
    (rest : Run s more t) : Run first (events ++ more) t := by
  induction rest with
  | nil => rwa [List.append_nil]
  | snoc _ step ih =>
      rw [← List.append_assoc]
      exact .snoc ih step

/-! ## Which loop a client owns -/

theorem Step.slot_eq (step : Step s e t) (h : e.isOwning = false) : t.slot = s.slot := by
  cases step with
  | startReaper | close => cases h
  | closed | loop | elapse | others => rfl

theorem Run.slot_eq (run : Run s events t) (h : ∀ e ∈ events, e.isOwning = false) :
    t.slot = s.slot := by
  induction run with
  | nil => rfl
  | snoc _ step ih =>
      rw [List.forall_mem_append] at h
      exact (step.slot_eq (h.2 _ (List.mem_singleton_self _))).trans (ih h.1)

/-- A loop that has been told to stop stays told, and starts no pass at a later time. -/
theorem Run.told (run : Run s events t) (sound : Sound Read s) (sound' : Sound Read t) {i : Nat}
    {o : Owned} (has : s.loops[i]? = some o) (told : o.task.stopped ≠ none) :
    ∃ o', t.loops[i]? = some o' ∧ o'.task.stopped ≠ none ∧
      ∀ time ∈ o'.task.starts, time ≤ s.now := by
  obtain ⟨last, hlast⟩ := Option.ne_none_iff_exists'.mp told
  obtain ⟨o', has', hlater⟩ := run.later has
  have hlast' := hlater.stopped hlast
  obtain ⟨_, hrun, -⟩ := sound.tasks has
  obtain ⟨_, hrun', -⟩ := sound'.tasks has'
  have hpast := (hrun.sound.stopped hlast).1
  have hstarts := (hrun'.sound.stopped hlast').2.1
  exact ⟨o', has', by simp [hlast'], fun time htime => Nat.le_trans (hstarts time htime) hpast⟩

/-- A loop that has been told to stop starts no pass unless it was due then. -/
theorem Step.not_isDue (step : Step s e t) (sound : Sound Read s) {i : Nat} {o : Owned}
    (has : s.loops[i]? = some o) (told : o.task.stopped ≠ none) (h : ¬ o.IsDue s.now) :
    (∀ clock, e ≠ .loop i (.begin clock)) ∧ ∃ o', t.loops[i]? = some o' ∧ ¬ o'.IsDue t.now := by
  have hreleased : ∃ o', s.release.loops[i]? = some o' ∧ ¬ o'.IsDue s.release.now := by
    rw [now_release]
    rcases loops_release has with hsame | hstopped
    · exact ⟨o, hsame, h⟩
    · exact ⟨o.stop s.now, hstopped, h⟩
  cases step with
  | startReaper settings =>
      obtain ⟨o', has', h'⟩ := hreleased
      exact ⟨nofun, o', loops_startReaper_of_release has', h'⟩
  | close => exact ⟨nofun, hreleased⟩
  | closed | others => exact ⟨nofun, o, has, h⟩
  | elapse lets =>
      refine ⟨nofun, o, has, fun due => told ?_⟩
      exact (lets o (List.mem_of_getElem? has) due.1).1
  | @loop j first e u d hasLoop served step =>
      by_cases heq : j = i
      · subst heq
        obtain rfl := Option.some.inj (hasLoop.symm.trans has)
        rw [loops_goOn_self has]
        obtain ⟨_, hrun, -⟩ := sound.tasks has
        have hpos := hrun.sound.intervalMs_pos
        cases step with
        | begins waits due => exact absurd ⟨waits, due⟩ h
        | answered asks reply =>
            refine ⟨by simp, _, rfl, fun due => ?_⟩
            exact Nat.not_le.mpr (Task.lt_due_goOn hpos due.1) due.2
        | quits => exact ⟨by simp, _, rfl, fun due => nomatch due.1⟩
        | stopped | joined => exact served.elim
      · rw [loops_goOn, if_neg heq]
        exact ⟨by simp [heq], o, has, h⟩

theorem Run.not_isDue (run : Run s events t) (sound : Sound (fun _ _ => True) s) {i : Nat}
    {o : Owned} (has : s.loops[i]? = some o) (told : o.task.stopped ≠ none)
    (h : ¬ o.IsDue s.now) : (∀ clock, .loop i (.begin clock) ∉ events) ∧
      ∃ o', t.loops[i]? = some o' ∧ ¬ o'.IsDue t.now := by
  induction run with
  | nil => exact ⟨fun _ => List.not_mem_nil, o, has, h⟩
  | snoc run step ih =>
      obtain ⟨hnone, o', has', h'⟩ := ih
      have mid := run.sound sound fun _ _ _ => trivial
      obtain ⟨o'', hsame, told', -⟩ := run.told sound mid has told
      obtain rfl := Option.some.inj (has'.symm.trans hsame)
      obtain ⟨hstep, hafter⟩ := step.not_isDue mid has' told' h'
      refine ⟨fun clock hmem => ?_, hafter⟩
      rcases List.mem_append.mp hmem with hmem | hmem
      · exact hnone clock hmem
      · exact hstep clock (List.mem_singleton.mp hmem).symm

/-- A loop that has ended makes no call. -/
theorem Run.no_call_of_ended (run : Run s events t) {i : Nat} {o : Owned}
    (has : s.loops[i]? = some o) (isOver : o.task.activity = .ended) :
    ∀ e, .loop i e ∈ events → e.isCall = false := by
  induction run with
  | nil => exact fun e h => absurd h List.not_mem_nil
  | snoc run step ih =>
      intro e h
      rcases List.mem_append.mp h with h | h
      · exact ih e h
      · obtain ⟨o', has', hlater⟩ := run.later has
        obtain rfl := List.mem_singleton.mp h
        cases step with
        | loop hasLoop _ step =>
            obtain rfl := Option.some.inj (hasLoop.symm.trans has')
            exact (step.of_ended (hlater.ended isOver)).1

end Owner

end SqlCache.Reaper
