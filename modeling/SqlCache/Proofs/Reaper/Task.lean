import Mathlib.Data.List.Basic
import SqlCache.Proofs.Reaper.Cutoff

/-!
A reaper loop as a task of its own. It waits until its next pass is due, and then makes it, call by
call: the store may take its time to answer, and answer what it likes. The task can be told to stop
at any moment; it heeds this while it waits, and whoever shuts it down waits until it has ended.
Time passes for all, but never beyond the moment at which a task that waits has something to do.
What is known of a task in any state is `Task.Sound`; it holds at the start (`Task.sound_start`) and
after every move (`Task.Sound.step`), hence throughout every run (`Task.Run.sound`).
-/

set_option autoImplicit false

namespace SqlCache.Reaper

/-! ## The course of a pass -/

/-- What remains of a pass. -/
abbrev Rest := Dialogue PurgeCall PurgeCall.Reply (Except Failure Stats)

/-- The end of a pass, when the messages have been purged. -/
def counted (expired : Nat) : Result Nat → Rest
  | .ok n => .done (.ok ⟨expired, n⟩)
  | .error e => .done (.error (.store e))

/-- What remains of a pass when the expired keys have been purged. -/
def purged (clock : Instant) (retention : Duration) : Result Nat → Rest
  | .error e => .done (.error (.store e))
  | .ok n =>
    if retention.isZero || !retention.isAddable then .done (.ok ⟨n, 0⟩)
    else match clock.sub? retention with
      | some cutoff => .ask (.messages cutoff) (counted n)
      | none => .done (.error .cutoffOutOfRange)

/-- A pass, spelled out. -/
theorem pass_run (clock : Instant) (retention : Duration) :
    (pass clock retention).run = .ask (.expired clock) (purged clock retention) := by
  show Dialogue.ask _ _ = Dialogue.ask _ _
  congr 1
  funext first
  cases first with
  | error e => rfl
  | ok n =>
      show (purgeMessages clock retention >>= fun messages => return ⟨n, messages⟩ :
        Program Stats).run = purged clock retention (.ok n)
      rw [purgeMessages, purged]
      split
      · rfl
      · cases clock.sub? retention with
        | none => rfl
        | some cutoff =>
            show Dialogue.ask _ _ = Dialogue.ask _ _
            congr 1
            funext second
            cases second <;> rfl

/-- How a pass goes: what it has been told, and what remains of it. -/
inductive Course (clock : Instant) (retention : Duration) :
    List (PurgeCall × Result Nat) → Rest → Prop where
  | fresh : Course clock retention [] (.ask (.expired clock) (purged clock retention))
  | refused (e : CacheError) :
      Course clock retention [(.expired clock, .error e)] (.done (.error (.store e)))
  | kept (n : Nat) (keeps : retention.isZero = true ∨ retention.isAddable = false) :
      Course clock retention [(.expired clock, .ok n)] (.done (.ok ⟨n, 0⟩))
  | sweeping (n : Nat) {cutoff : Instant} (limited : retention.isZero = false)
      (cuts : clock.sub? retention = some cutoff) :
      Course clock retention [(.expired clock, .ok n)] (.ask (.messages cutoff) (counted n))
  | swept (n : Nat) {cutoff : Instant} (limited : retention.isZero = false)
      (cuts : clock.sub? retention = some cutoff) (reply : Result Nat) :
      Course clock retention [(.expired clock, .ok n), (.messages cutoff, reply)]
        (counted n reply)
  | lost (n : Nat) (limited : retention.isZero = false) (addable : retention.isAddable = true)
      (lost : clock.sub? retention = none) :
      Course clock retention [(.expired clock, .ok n)] (.done (.error .cutoffOutOfRange))

/-- A pass goes on with the answer to its call. -/
theorem Course.next {clock : Instant} {retention : Duration}
    {said : List (PurgeCall × Result Nat)} {call : PurgeCall} {next : Result Nat → Rest}
    (course : Course clock retention said (.ask call next)) (reply : Result Nat) :
    Course clock retention (said ++ [(call, reply)]) (next reply) := by
  generalize hrest : (Dialogue.ask call next : Rest) = rest at course
  cases course with
  | fresh =>
      cases hrest
      cases reply with
      | error e => exact .refused e
      | ok n =>
          rw [purged]
          split
          · next hkeeps => exact .kept n (by simpa using hkeeps)
          · next hkeeps =>
              obtain ⟨limited, addable⟩ :
                  retention.isZero = false ∧ retention.isAddable = true := by simpa using hkeeps
              cases hcut : clock.sub? retention with
              | some cutoff => exact .sweeping n limited hcut
              | none => exact .lost n limited addable hcut
  | sweeping n limited cuts =>
      cases hrest
      exact .swept n limited cuts reply
  | swept n limited cuts reply' => cases reply' <;> cases hrest
  | refused | kept | lost => cases hrest

/-- A pass that breaks off has no cutoff. -/
theorem Course.cutoff_eq_none {clock : Instant} {retention : Duration}
    {said : List (PurgeCall × Result Nat)}
    (course : Course clock retention said (.done (.error .cutoffOutOfRange))) :
    retention.isZero = false ∧ retention.isAddable = true ∧ clock.sub? retention = none := by
  generalize hrest : (Dialogue.done (.error .cutoffOutOfRange) : Rest) = rest at course
  cases course with
  | lost n limited addable lost => exact ⟨limited, addable, lost⟩
  | swept n limited cuts reply => cases reply <;> cases hrest
  | fresh | refused | kept | sweeping => cases hrest

/-! ## Tasks -/

/-- A pass: when it started, what the clock said then, and what it has been told so far. -/
structure Pass where
  started : Nat
  clock : Instant
  said : List (PurgeCall × Result Nat)

/-- The pass with one more answer. -/
def Pass.hear (p : Pass) (call : PurgeCall) (reply : Result Nat) : Pass :=
  { p with said := p.said ++ [(call, reply)] }

/-- A pass that has come to its end. -/
structure Made extends Pass where
  finished : Nat

/-- What a task is doing. -/
inductive Activity where
  /-- Waiting until a pass is due. -/
  | waiting
  /-- Making a pass, whose call has not been answered yet. -/
  | passing (p : Pass) (call : PurgeCall) (next : Result Nat → Rest)
  | ended

/-- A loop as a task, with all that it has done. -/
structure Task where
  loop : Loop
  activity : Activity
  /-- When it was told to stop. -/
  stopped : Option Nat
  /-- The passes that are over, in order. -/
  made : List Made

namespace Task

/-- The task of a loop that is started at a time. -/
def start (settings : ReaperSettings) (time : Nat) : Task :=
  ⟨.start settings time, .waiting, none, []⟩

/-- A pass is over, and the next one is an interval away. -/
def pause (now : Nat) (p : Pass) (t : Task) : Task :=
  { t with
    activity := .waiting
    loop := { t.loop with due := now + t.loop.intervalMs }
    made := t.made ++ [⟨p, now⟩] }

/-- A pass is over, and has taken the task with it. -/
def breakOff (now : Nat) (p : Pass) (t : Task) : Task :=
  { t with activity := .ended, made := t.made ++ [⟨p, now⟩] }

/-- Go on with a pass: with its next call, or with what comes after it. -/
def goOn (now : Nat) (p : Pass) (t : Task) : Rest → Task
  | .ask call next => { t with activity := .passing p call next }
  | .done (.error .cutoffOutOfRange) => t.breakOff now p
  | .done _ => t.pause now p

/-- Tell the task to stop. Only the first time counts. -/
def stop (now : Nat) (t : Task) : Task := { t with stopped := t.stopped.or (some now) }

/-- What happens to a task. -/
inductive Event where
  /-- A pass starts, with a reading of the clock. -/
  | begin (clock : Instant)
  /-- The store answers a call. -/
  | answer (call : PurgeCall) (reply : Result Nat)
  /-- The task is told to stop. -/
  | stop
  /-- The task heeds this. -/
  | quit
  /-- Whoever shut it down has waited for its end. -/
  | joined
  /-- Time passes. -/
  | elapse (ms : Nat)

/-- Does the task call its store, or hear of it? -/
def Event.isCall : Event → Bool
  | begin _ | answer .. => true
  | stop | quit | joined | elapse _ => false

/-- One move of a task at a time. If a pass is due when the task is told to stop, either may come
first. -/
inductive Step (now : Nat) : Task → Event → Task → Prop where
  | begins {t : Task} {clock : Instant} (waits : t.activity = .waiting) (due : t.loop.due ≤ now) :
      Step now t (.begin clock) (t.goOn now ⟨now, clock, []⟩ (pass clock t.loop.retention).run)
  | answered {t : Task} {p : Pass} {call : PurgeCall} {next : Result Nat → Rest}
      (asks : t.activity = .passing p call next) (reply : Result Nat) :
      Step now t (.answer call reply) (t.goOn now (p.hear call reply) (next reply))
  | stopped (t : Task) : Step now t .stop (t.stop now)
  | quits {t : Task} (waits : t.activity = .waiting) (told : t.stopped ≠ none) :
      Step now t .quit { t with activity := .ended }
  | joined {t : Task} (told : t.stopped ≠ none) (isOver : t.activity = .ended) :
      Step now t .joined t

/-- Time may pass: a task that waits has nothing to do until then. -/
def Lets (now ms : Nat) (t : Task) : Prop :=
  t.activity = .waiting → t.stopped = none ∧ now + ms ≤ t.loop.due

/-- What happens to a task from one moment to another. -/
inductive Run (began : Nat) (first : Task) : List Event → Nat → Task → Prop where
  | nil : Run began first [] began first
  | step {now : Nat} {t u : Task} {events : List Event} {e : Event}
      (run : Run began first events now t) (step : Step now t e u) :
      Run began first (events ++ [e]) now u
  | elapse {now ms : Nat} {t : Task} {events : List Event} (run : Run began first events now t)
      (lets : t.Lets now ms) : Run began first (events ++ [.elapse ms]) (now + ms) t

/-- A run can be cut after any of its events. -/
theorem Run.cut {began now : Nat} {first t : Task} {events before after : List Event}
    (run : Run began first events now t) (h : events = before ++ after) :
    ∃ mid u, Run began first before mid u ∧ Run mid u after now t := by
  induction run generalizing after with
  | nil =>
      obtain ⟨rfl, rfl⟩ := List.append_eq_nil_iff.mp h.symm
      exact ⟨_, _, .nil, .nil⟩
  | @step now t u events e run step ih =>
      rcases List.eq_nil_or_concat' after with rfl | ⟨after, e', rfl⟩
      · rw [List.append_nil] at h
        rw [← h]
        exact ⟨_, _, .step run step, .nil⟩
      · rw [← List.append_assoc] at h
        obtain ⟨hevents, hlast⟩ := List.append_inj' h rfl
        obtain rfl := List.singleton_inj.mp hlast
        obtain ⟨mid, v, hbefore, hafter⟩ := ih hevents
        exact ⟨mid, v, hbefore, .step hafter step⟩
  | @elapse now ms t events run lets ih =>
      rcases List.eq_nil_or_concat' after with rfl | ⟨after, e', rfl⟩
      · rw [List.append_nil] at h
        rw [← h]
        exact ⟨_, _, .elapse run lets, .nil⟩
      · rw [← List.append_assoc] at h
        obtain ⟨hevents, hlast⟩ := List.append_inj' h rfl
        obtain rfl := List.singleton_inj.mp hlast
        obtain ⟨mid, v, hbefore, hafter⟩ := ih hevents
        exact ⟨mid, v, hbefore, .elapse hafter lets⟩

/-! ## The schedule -/

/-- When the next pass is due: the first one a delay after the start, and any other one an interval
after the end of the one before it. -/
def dueAfter (first interval : Nat) (made : List Made) : Nat :=
  match made.getLast? with
  | none => first
  | some p => p.finished + interval

@[simp] theorem dueAfter_nil (first interval : Nat) : dueAfter first interval [] = first := rfl

@[simp] theorem dueAfter_concat (first interval : Nat) (made : List Made) (p : Made) :
    dueAfter first interval (made ++ [p]) = p.finished + interval := by
  simp [dueAfter]

/-- The passes have started when they were due, and gone through. -/
inductive OnSchedule (first interval : Nat) (retention : Duration) : List Made → Prop where
  | nil : OnSchedule first interval retention []
  | concat {made : List Made} {p : Made} {result : Except Failure Stats}
      (earlier : OnSchedule first interval retention made)
      (due : p.started = dueAfter first interval made) (lasts : p.started ≤ p.finished)
      (course : Course p.clock retention p.said (.done result)) :
      OnSchedule first interval retention (made ++ [p])

theorem OnSchedule.of_mid {first interval : Nat} {retention : Duration}
    {made before after : List Made} {p : Made} (h : OnSchedule first interval retention made)
    (hmade : made = before ++ p :: after) :
    p.started = dueAfter first interval before ∧ p.started ≤ p.finished ∧
      ∃ result, Course p.clock retention p.said (.done result) := by
  induction h generalizing after with
  | nil => simp at hmade
  | @concat made q result earlier due lasts course ih =>
      rcases List.eq_nil_or_concat' after with rfl | ⟨after, q', rfl⟩
      · obtain ⟨rfl, hlast⟩ := List.append_inj' hmade rfl
        obtain rfl := List.singleton_inj.mp hlast
        exact ⟨due, lasts, result, course⟩
      · rw [← List.cons_append, ← List.append_assoc] at hmade
        exact ih (List.append_inj' hmade rfl).1

/-- When the passes have started, those that are over and the one under way. -/
def starts (t : Task) : List Nat :=
  t.made.map (fun p => p.started) ++
    match t.activity with
    | .passing p _ _ => [p.started]
    | .waiting | .ended => []

/-- Its pass has taken the task with it. -/
def Broken (retention : Duration) (p : Made) : Prop :=
  retention.isZero = false ∧ retention.isAddable = true ∧ p.clock.sub? retention = none

/-- What is known of a task with some settings at any time. -/
structure Sound (settings : ReaperSettings) (began now : Nat) (t : Task) : Prop where
  intervalMs : t.loop.intervalMs = Loop.delayMs (max settings.intervalSecs 1)
  retention : t.loop.retention = .ofSeconds settings.messageRetentionSecs
  onSchedule : OnSchedule (began + Loop.delayMs settings.initialDelaySecs) t.loop.intervalMs
    t.loop.retention t.made
  waiting : t.activity = .waiting → now ≤ t.loop.due ∧ t.loop.due =
    dueAfter (began + Loop.delayMs settings.initialDelaySecs) t.loop.intervalMs t.made
  passing : ∀ {p call next}, t.activity = .passing p call next →
    Course p.clock t.loop.retention p.said (.ask call next) ∧ p.started =
      dueAfter (began + Loop.delayMs settings.initialDelaySecs) t.loop.intervalMs t.made
  ended : t.activity = .ended → t.stopped ≠ none ∨ ∃ p ∈ t.made, Broken t.loop.retention p
  past : ∀ s ∈ t.starts, s ≤ now
  /-- A task that was told to stop has not started a pass since, and will not while it waits. -/
  stopped : ∀ {time}, t.stopped = some time → time ≤ now ∧ (∀ s ∈ t.starts, s ≤ time) ∧
    (t.activity = .waiting → now ≤ time ∨ now < t.loop.due)

variable {settings : ReaperSettings} {began now : Nat} {t u : Task}

theorem sound_start (settings : ReaperSettings) (began : Nat) :
    Sound settings began began (start settings began) where
  intervalMs := rfl
  retention := rfl
  onSchedule := .nil
  waiting _ := ⟨Nat.le_add_right _ _, rfl⟩
  passing h := nomatch h
  ended h := nomatch h
  past _ h := nomatch h
  stopped h := nomatch h

/-- The pass that goes on is the last one that the task has started. -/
theorem starts_goOn (now : Nat) (p : Pass) (t : Task) (rest : Rest) :
    (t.goOn now p rest).starts = t.made.map (fun q => q.started) ++ [p.started] := by
  unfold goOn
  split <;> simp [starts, pause, breakOff]

theorem stopped_goOn (now : Nat) (p : Pass) (t : Task) (rest : Rest) :
    (t.goOn now p rest).stopped = t.stopped := by
  unfold goOn
  split <;> rfl

theorem made_starts {s : Nat} (h : s ∈ t.made.map fun q => q.started) : s ∈ t.starts :=
  List.mem_append_left _ h

namespace Sound

theorem intervalMs_pos (sound : Sound settings began now t) : 0 < t.loop.intervalMs := by
  rw [sound.intervalMs]
  exact Loop.intervalMs_start_pos settings began

section GoOn

variable {p : Pass} (sound : Sound settings began now t)
  (due : p.started =
    dueAfter (began + Loop.delayMs settings.initialDelaySecs) t.loop.intervalMs t.made)
  (past : p.started ≤ now) (intime : ∀ {time}, t.stopped = some time → p.started ≤ time)

include sound past in
theorem past_goOn (rest : Rest) : ∀ s ∈ (t.goOn now p rest).starts, s ≤ now := by
  intro s hs
  rw [starts_goOn] at hs
  rcases List.mem_append.mp hs with hs | hs
  · exact sound.past s (made_starts hs)
  · rw [List.mem_singleton.mp hs]
    exact past

include sound intime in
theorem stopped_goOn {time : Nat} (h : t.stopped = some time) (rest : Rest) :
    time ≤ now ∧ ∀ s ∈ (t.goOn now p rest).starts, s ≤ time := by
  obtain ⟨htold, hstarts, -⟩ := sound.stopped h
  refine ⟨htold, fun s hs => ?_⟩
  rw [starts_goOn] at hs
  rcases List.mem_append.mp hs with hs | hs
  · exact hstarts s (made_starts hs)
  · rw [List.mem_singleton.mp hs]
    exact intime h

include sound due past intime in
/-- A pass goes on with its next call. -/
theorem ask {call : PurgeCall} {next : Result Nat → Rest}
    (course : Course p.clock t.loop.retention p.said (.ask call next)) :
    Sound settings began now { t with activity := .passing p call next } where
  intervalMs := sound.intervalMs
  retention := sound.retention
  onSchedule := sound.onSchedule
  waiting h := nomatch h
  passing := by
    rintro _ _ _ ⟨⟩
    exact ⟨course, due⟩
  ended h := nomatch h
  past := sound.past_goOn past (.ask call next)
  stopped h :=
    have hstopped := sound.stopped_goOn intime h (.ask call next)
    ⟨hstopped.1, hstopped.2, fun hwaits => nomatch hwaits⟩

include sound due past intime in
/-- A pass comes to its end. -/
theorem pause {result : Except Failure Stats} (hresult : result ≠ .error .cutoffOutOfRange)
    (course : Course p.clock t.loop.retention p.said (.done result)) :
    Sound settings began now (t.pause now p) := by
  have hgoOn : t.goOn now p (.done result) = t.pause now p := by
    unfold goOn
    split <;> simp_all
  exact
    { intervalMs := sound.intervalMs
      retention := sound.retention
      onSchedule := sound.onSchedule.concat due past course
      waiting := fun _ => ⟨Nat.le_add_right _ _, (dueAfter_concat _ _ t.made ⟨p, now⟩).symm⟩
      passing := fun h => nomatch h
      ended := fun h => nomatch h
      past := hgoOn ▸ sound.past_goOn past (.done result)
      stopped := fun h =>
        have hstopped := sound.stopped_goOn intime h (.done result)
        ⟨hstopped.1, hgoOn ▸ hstopped.2,
          fun _ => Or.inr (Nat.lt_add_of_pos_right sound.intervalMs_pos)⟩ }

include sound due past intime in
/-- A pass breaks off. -/
theorem breakOff
    (course : Course p.clock t.loop.retention p.said (.done (.error .cutoffOutOfRange))) :
    Sound settings began now (t.breakOff now p) where
  intervalMs := sound.intervalMs
  retention := sound.retention
  onSchedule := sound.onSchedule.concat due past course
  waiting h := nomatch h
  passing h := nomatch h
  ended _ := Or.inr ⟨⟨p, now⟩, List.mem_append_right _ (List.mem_singleton_self _),
    course.cutoff_eq_none⟩
  past := sound.past_goOn past (.done (.error .cutoffOutOfRange))
  stopped h :=
    have hstopped := sound.stopped_goOn intime h (.done (.error .cutoffOutOfRange))
    ⟨hstopped.1, hstopped.2, fun hwaits => nomatch hwaits⟩

include sound due past intime in
/-- A pass goes on, whatever remains of it. -/
theorem goOn {rest : Rest} (course : Course p.clock t.loop.retention p.said rest) :
    Sound settings began now (t.goOn now p rest) := by
  unfold Task.goOn
  split
  · exact sound.ask due past intime course
  · exact sound.breakOff due past intime course
  · next result hresult => exact sound.pause due past intime hresult course

end GoOn

/-- What is known of a task is known after each of its moves. -/
theorem step {e : Event} (sound : Sound settings began now t) (step : Step now t e u) :
    Sound settings began now u := by
  cases step with
  | @begins clock waits due =>
      obtain ⟨hnow, hdue⟩ := sound.waiting waits
      have hstarts : now = dueAfter (began + Loop.delayMs settings.initialDelaySecs)
          t.loop.intervalMs t.made := by omega
      refine sound.goOn (p := ⟨now, clock, []⟩) hstarts (Nat.le_refl now) (fun htime => ?_) ?_
      · obtain ⟨-, -, hwaits⟩ := sound.stopped htime
        rcases hwaits waits with hle | hlt
        · exact hle
        · omega
      · rw [pass_run]
        exact .fresh
  | @answered p call next asks reply =>
      obtain ⟨course, hdue⟩ := sound.passing asks
      have hstarted : p.started ∈ t.starts := by simp [starts, asks]
      exact sound.goOn (p := p.hear call reply) hdue (sound.past _ hstarted)
        (fun htime => (sound.stopped htime).2.1 _ hstarted) (course.next reply)
  | stopped =>
      refine { sound with ended := fun _ => Or.inl ?_, stopped := ?_ }
      · simp [Task.stop]
      · intro time htime
        cases htold : t.stopped with
        | some earlier =>
            simp only [Task.stop, htold, Option.some_or, Option.some.injEq] at htime
            subst htime
            exact sound.stopped htold
        | none =>
            simp only [Task.stop, htold, Option.none_or, Option.some.injEq] at htime
            subst htime
            exact ⟨Nat.le_refl _, sound.past, fun _ => Or.inl (Nat.le_refl _)⟩
  | quits waits told =>
      have hstarts : ({ t with activity := .ended } : Task).starts = t.starts := by
        simp [starts, waits]
      exact
        { sound with
          waiting := fun h => nomatch h
          passing := fun h => nomatch h
          ended := fun _ => Or.inl told
          past := hstarts ▸ sound.past
          stopped := fun h => ⟨(sound.stopped h).1, hstarts ▸ (sound.stopped h).2.1,
            fun hwaits => nomatch hwaits⟩ }
  | joined => exact sound

/-- What is known of a task is known when time has passed. -/
theorem elapse {ms : Nat} (sound : Sound settings began now t) (lets : t.Lets now ms) :
    Sound settings began (now + ms) t :=
  { sound with
    waiting := fun h => ⟨(lets h).2, (sound.waiting h).2⟩
    past := fun s hs => Nat.le_add_right_of_le (sound.past s hs)
    stopped := fun htime => by
      obtain ⟨htold, hstarts, -⟩ := sound.stopped htime
      refine ⟨Nat.le_add_right_of_le htold, hstarts, fun hwaits => ?_⟩
      rw [(lets hwaits).1] at htime
      cases htime }

end Sound

/-- What is known of a task is known throughout. -/
theorem Run.sound {events : List Event} (run : Run began (.start settings began) events now t) :
    Sound settings began now t := by
  induction run with
  | nil => exact sound_start settings began
  | step _ step ih => exact ih.step step
  | elapse _ lets ih => exact ih.elapse lets

/-! ## The end of a task -/

/-- A task that has ended makes no call any more. -/
theorem Step.of_ended {e : Event} (step : Step now t e u) (isOver : t.activity = .ended) :
    e.isCall = false ∧ u.activity = .ended ∧ u.made = t.made := by
  cases step with
  | begins waits => simp [isOver] at waits
  | answered asks => simp [isOver] at asks
  | quits waits => simp [isOver] at waits
  | stopped | joined => exact ⟨rfl, isOver, rfl⟩

theorem Run.of_ended {events : List Event} (run : Run began u events now t)
    (isOver : u.activity = .ended) :
    (∀ e ∈ events, e.isCall = false) ∧ t.activity = .ended ∧ t.made = u.made := by
  induction run with
  | nil => exact ⟨List.forall_mem_nil _, isOver, rfl⟩
  | step _ step ih =>
      obtain ⟨hevents, hended, hmade⟩ := ih
      obtain ⟨hcall, hover, hsame⟩ := step.of_ended hended
      refine ⟨?_, hover, hsame.trans hmade⟩
      rw [List.forall_mem_append]
      exact ⟨hevents, List.forall_mem_singleton.mpr hcall⟩
  | elapse _ _ ih =>
      obtain ⟨hevents, hended⟩ := ih
      refine ⟨?_, hended⟩
      rw [List.forall_mem_append]
      exact ⟨hevents, List.forall_mem_singleton.mpr rfl⟩

/-- Nobody has waited for the end of a task before its last call. -/
theorem Run.no_call_after_joined {events before after : List Event}
    (run : Run began u events now t) (h : events = before ++ .joined :: after) :
    ∀ e ∈ after, e.isCall = false := by
  have hcut : events = (before ++ [.joined]) ++ after := by simpa using h
  obtain ⟨mid, v, first, rest⟩ := run.cut hcut
  have hover : v.activity = .ended := by
    generalize hall : before ++ [.joined] = all at first
    cases first with
    | nil => simp at hall
    | step _ step =>
        obtain rfl := List.singleton_inj.mp (List.append_inj' hall rfl).2
        cases step with
        | joined _ isOver => exact isOver
    | elapse => simp at hall
  exact (rest.of_ended hover).1

end Task

end SqlCache.Reaper
