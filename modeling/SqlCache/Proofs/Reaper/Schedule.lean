import SqlCache.Proofs.Dialogue.Transcript
import SqlCache.Proofs.Reaper.Removal
import SqlCache.Proofs.Reaper.Task

/-!
The schedule of a reaper loop. Whatever the store answers, however long it takes and whenever the
loop is told to stop, its passes start when they are due, put their calls in order, and come to an
end for good (`Task.Keeps`). The recording loop is such a task, on a store that answers at once
(`Timeline.Mirrors`). Main result: `keeps_schedule`.
-/

set_option autoImplicit false

namespace SqlCache.Reaper

/-! ## The calls of a pass -/

/-- The pass has had the expired keys purged, once and at its own clock, and then the messages, once
and as far back as the retention leads, if and only if the first purge succeeded and the retention
is not zero and can be subtracted. -/
def Pass.IsWhole (retention : Duration) (p : Pass) : Prop :=
  ∃ first rest, p.said = (.expired p.clock, first) :: rest ∧
    rest.map Prod.fst =
      if first.isOk && !retention.isZero && retention.isAddable then
        [.messages ⟨p.clock.nanos - retention.nanos⟩]
      else []

/-- A reading of the clock from which the retention can be counted back, if it can be at all. -/
def Reaches (retention : Duration) (clock : Instant) : Prop :=
  clock.isRepresentable = true ∧ ¬ CutoffLost clock retention

section Course

variable {clock : Instant} {retention : Duration} {said : List (PurgeCall × Result Nat)}

/-- A pass of a clock from which the retention can be counted back does not break off. -/
theorem Reaches.sub?_ne_none (reaches : Reaches retention clock)
    (addable : retention.isAddable = true) : clock.sub? retention ≠ none := by
  intro hnone
  rcases (Instant.sub?_eq_none_iff reaches.1).mp hnone with hlong | hbefore
  · rw [addable] at hlong
    cases hlong
  · exact reaches.2 ⟨addable, hbefore⟩

/-- A pass that is over is whole. -/
theorem Course.isWhole {result : Except Failure Stats} {started : Nat}
    (course : Course clock retention said (.done result)) (reaches : Reaches retention clock) :
    Pass.IsWhole retention ⟨started, clock, said⟩ := by
  generalize hrest : (Dialogue.done result : Rest) = rest at course
  cases course with
  | fresh | sweeping => cases hrest
  | refused e => exact ⟨.error e, [], rfl, rfl⟩
  | kept n keeps =>
      refine ⟨.ok n, [], rfl, ?_⟩
      rw [if_neg]
      · rfl
      · rcases keeps with hzero | hlong
        · simp [hzero]
        · simp [hlong]
  | swept n limited cuts reply =>
      have haddable : retention.isAddable = true := by
        simp only [Instant.sub?, Option.ite_none_right_eq_some, Bool.and_eq_true] at cuts
        exact cuts.1.1
      refine ⟨.ok n, _, rfl, ?_⟩
      rw [if_pos, Instant.eq_of_sub?_eq_some cuts]
      · rfl
      · simp [limited, haddable, Except.isOk, Except.toBool]
  | lost n limited addable lost => exact absurd lost (reaches.sub?_ne_none addable)

/-- A pass can be brought to its end, whatever it has been told. -/
theorem Course.completes {rest : Rest} (course : Course clock retention said rest) :
    ∃ later result, Course clock retention (said ++ later) (.done result) := by
  cases course with
  | fresh => exact ⟨_, _, Course.fresh.next (.error .notFound)⟩
  | sweeping n limited cuts => exact ⟨_, _, (Course.sweeping n limited cuts).next (.ok 0)⟩
  | refused e => exact ⟨[], _, .refused e⟩
  | kept n keeps => exact ⟨[], _, .kept n keeps⟩
  | lost n limited addable lost => exact ⟨[], _, .lost n limited addable lost⟩
  | swept n limited cuts reply =>
      cases reply with
      | ok m => exact ⟨[], _, .swept n limited cuts (.ok m)⟩
      | error e => exact ⟨[], _, .swept n limited cuts (.error e)⟩

end Course

/-! ## What a task keeps to -/

namespace Task

/-- The schedule, in a state that a task with some settings has come to. -/
structure Keeps (settings : ReaperSettings) (began now : Nat) (events : List Event) (t : Task) :
    Prop where
  /-- Every pass has started when it was due after the ones before it, and is whole. -/
  made : ∀ before p after, t.made = before ++ p :: after →
    p.started = dueAfter (began + settings.initialDelaySecs * 1000)
      (max settings.intervalSecs 1 * 1000) before ∧
    p.IsWhole (.ofSeconds settings.messageRetentionSecs)
  /-- So has the one under way, and its call is one of a whole pass. -/
  passing : ∀ p call next, t.activity = .passing p call next →
    p.started = dueAfter (began + settings.initialDelaySecs * 1000)
      (max settings.intervalSecs 1 * 1000) t.made ∧
    ∀ reply, ∃ later, Pass.IsWhole (.ofSeconds settings.messageRetentionSecs)
      { p with said := p.said ++ (call, reply) :: later }
  /-- A task that has not been told to stop makes a pass, or waits until the next one is due, and
  can start it then. -/
  goesOn : t.stopped = none → (∃ p call next, t.activity = .passing p call next) ∨
    t.activity = .waiting ∧ now ≤ dueAfter (began + settings.initialDelaySecs * 1000)
      (max settings.intervalSecs 1 * 1000) t.made ∧
    (now = dueAfter (began + settings.initialDelaySecs * 1000)
      (max settings.intervalSecs 1 * 1000) t.made → ∀ clock, ∃ u, Step now t (.begin clock) u)
  /-- One that has been told to stop has started no pass since. -/
  stopped : ∀ time, t.stopped = some time → ∀ start ∈ t.starts, start ≤ time
  /-- If that was during the initial delay, it has started none at all. -/
  early : ∀ time, t.stopped = some time → time < began + settings.initialDelaySecs * 1000 →
    t.starts = []
  /-- It ends before any time passes, unless it makes a pass. -/
  heeds : t.stopped ≠ none → t.activity = .waiting →
    (∃ u, Step now t .quit u) ∧ ∀ ms, ¬ t.Lets now ms
  /-- After its end has been waited for it makes no call. -/
  joined : ∀ before after, events = before ++ .joined :: after → ∀ e ∈ after, e.isCall = false

variable {settings : ReaperSettings} {began now : Nat} {events : List Event} {t : Task}

/-- The first of the passes has started first. -/
theorem first_mem_starts {first interval : Nat}
    (made : ∀ before p after, t.made = before ++ p :: after →
      p.started = dueAfter first interval before)
    (passing : ∀ p call next, t.activity = .passing p call next →
      p.started = dueAfter first interval t.made) (h : t.starts ≠ []) : first ∈ t.starts := by
  cases hmade : t.made with
  | cons p rest =>
      have hfirst : p.started = first := made [] p rest hmade
      simp [starts, hmade, hfirst]
  | nil =>
      cases hactivity : t.activity with
      | waiting | ended => simp [starts, hmade, hactivity] at h
      | passing p call next =>
          have hfirst := passing p call next hactivity
          rw [hmade, dueAfter_nil] at hfirst
          simp [starts, hmade, hactivity, hfirst]

theorem Sound.broken_mem (sound : Sound settings began now t) (isOver : t.activity = .ended)
    (unstopped : t.stopped = none) : ∃ p ∈ t.made, Broken t.loop.retention p :=
  (sound.ended isOver).resolve_left fun h => h unstopped

/-- The clocks of all passes have a property. -/
def Reads (P : Instant → Prop) (t : Task) : Prop :=
  (∀ p ∈ t.made, P p.clock) ∧ ∀ p call next, t.activity = .passing p call next → P p.clock

theorem Reads.goOn {P : Instant → Prop} (h : t.Reads P) {p : Pass} (hp : P p.clock) (now : Nat)
    (rest : Rest) : (t.goOn now p rest).Reads P := by
  have hmore : ∀ q ∈ t.made ++ [(⟨p, now⟩ : Made)], P q.clock := by
    rw [List.forall_mem_append]
    exact ⟨h.1, List.forall_mem_singleton.mpr hp⟩
  unfold Task.goOn
  split
  · refine ⟨h.1, ?_⟩
    rintro q call next ⟨⟩
    exact hp
  · exact ⟨hmore, fun q call next h => nomatch h⟩
  · exact ⟨hmore, fun q call next h => nomatch h⟩

/-- The clock of a pass is read when it begins. -/
theorem Run.reads {P : Instant → Prop} (run : Run began (.start settings began) events now t)
    (reads : ∀ clock, .begin clock ∈ events → P clock) : t.Reads P := by
  induction run with
  | nil => exact ⟨List.forall_mem_nil _, fun p call next h => nomatch h⟩
  | elapse _ _ ih => exact ih fun clock h => reads clock (List.mem_append_left _ h)
  | step _ step ih =>
      have earlier := ih fun clock h => reads clock (List.mem_append_left _ h)
      cases step with
      | @begins clock waits due =>
          have hclock : P clock :=
            reads clock (List.mem_append_right _ (List.mem_singleton_self _))
          exact earlier.goOn hclock _ _
      | @answered p call next asks reply =>
          have hclock : P (p.hear call reply).clock := earlier.2 p call next asks
          exact earlier.goOn hclock _ _
      | stopped | joined => exact earlier
      | quits => exact ⟨earlier.1, fun p call next h => nomatch h⟩

/-- A task whose delays and cutoffs can be represented keeps to its schedule. -/
theorem Run.keeps (run : Run began (.start settings began) events now t)
    (hinitial : settings.initialDelaySecs * 1000 ≤ Timer.longestMs)
    (hinterval : max settings.intervalSecs 1 * 1000 ≤ Timer.longestMs)
    (reaches : ∀ clock, .begin clock ∈ events →
      Reaches (.ofSeconds settings.messageRetentionSecs) clock) :
    Keeps settings began now events t := by
  have sound := run.sound
  have hreads := run.reads reaches
  have hfirst : Loop.delayMs settings.initialDelaySecs = settings.initialDelaySecs * 1000 :=
    Nat.min_eq_left hinitial
  have hnext : t.loop.intervalMs = max settings.intervalSecs 1 * 1000 :=
    sound.intervalMs.trans (Nat.min_eq_left hinterval)
  have hschedule := sound.onSchedule
  have hwaiting := sound.waiting
  rw [hfirst, hnext] at hschedule hwaiting
  have hpassing {p : Pass} {call : PurgeCall} {next : Result Nat → Rest}
      (hp : t.activity = .passing p call next) :
      p.started = dueAfter (began + settings.initialDelaySecs * 1000)
        (max settings.intervalSecs 1 * 1000) t.made := by
    rw [← hfirst, ← hnext]
    exact (sound.passing hp).2
  refine ⟨?_, ?_, ?_, ?_, ?_, ?_, ?_⟩
  · intro before p after hp
    obtain ⟨hdue, -, result, course⟩ := hschedule.of_mid hp
    have hreaches : Reaches (.ofSeconds settings.messageRetentionSecs) p.clock :=
      hreads.1 p (by simp [hp])
    rw [sound.retention] at course
    exact ⟨hdue, course.isWhole hreaches⟩
  · intro p call next hp
    have course := (sound.passing hp).1
    rw [sound.retention] at course
    refine ⟨hpassing hp, fun reply => ?_⟩
    obtain ⟨later, result, whole⟩ := (course.next reply).completes
    rw [List.append_assoc] at whole
    exact ⟨later, whole.isWhole (hreads.2 p call next hp)⟩
  · intro hunstopped
    cases hactivity : t.activity with
    | passing p call next => exact Or.inl ⟨p, call, next, rfl⟩
    | waiting =>
        obtain ⟨hle, hdue⟩ := hwaiting hactivity
        rw [hdue] at hle
        exact Or.inr ⟨rfl, hle, fun heq clock =>
          ⟨_, .begins hactivity (Nat.le_of_eq (hdue.trans heq.symm))⟩⟩
    | ended =>
        obtain ⟨p, hp, -, addable, lost⟩ := sound.broken_mem hactivity hunstopped
        rw [sound.retention] at addable lost
        exact absurd lost ((hreads.1 p hp).sub?_ne_none addable)
  · exact fun time htime => (sound.stopped htime).2.1
  · intro time htime hearly
    by_contra hstarts
    have hmem := first_mem_starts (fun before p after hp => (hschedule.of_mid hp).1)
      (fun p call next hp => hpassing hp) hstarts
    have hle := (sound.stopped htime).2.1 _ hmem
    omega
  · exact fun told waits => ⟨⟨_, .quits waits told⟩, fun ms lets => told (lets waits).1⟩
  · exact fun before after h => run.no_call_after_joined h

end Task

/-! ## The recording loop -/

/-- What a recording store keeps of a pass that takes no time. -/
def Made.records (p : Made) : List PurgeRecord :=
  p.said.map fun (call, reply) => ⟨p.started, call, reply.toOption⟩

namespace RecordingStore

theorem record_handle (time : Nat) (call : PurgeCall) (s : RecordingStore) :
    (handle time call s).2.record = ⟨time, call, (handle time call s).1.toOption⟩ :: s.record := by
  cases call with
  | expired clock =>
      simp only [handle]
      split <;> rfl
  | messages cutoff =>
      simp only [handle]
      split <;> rfl

/-- Everything that is asked of the store is recorded, with its answer. -/
theorem record_run (time : Nat) (rest : Rest) (s : RecordingStore) :
    (rest.run (handle time) s).2.record =
      ((rest.transcript (handle time) s).map fun said =>
        ⟨time, said.1, said.2.toOption⟩).reverse ++ s.record := by
  induction rest generalizing s with
  | done result => rfl
  | ask call next ih =>
      rw [Dialogue.run_ask, ih, record_handle, Dialogue.transcript, List.map_cons,
        List.reverse_cons, List.append_assoc]
      rfl

end RecordingStore

namespace Task

variable {σ : Type} {settings : ReaperSettings} {began now : Nat} {events : List Event}
  {t first : Task}

theorem goOn_passing (now : Nat) (p : Pass) (t : Task) (a : Activity) (rest : Rest) :
    ({ t with activity := a } : Task).goOn now p rest = t.goOn now p rest := by
  unfold goOn
  split <;> rfl

theorem made_goOn_done (now : Nat) (p : Pass) (t : Task) (result : Except Failure Stats) :
    (t.goOn now p (.done result)).made = t.made ++ [⟨p, now⟩] := by
  unfold goOn
  split <;> simp_all [pause, breakOff]

/-- A task whose pass is over makes none. -/
theorem activity_goOn_done (now : Nat) (p : Pass) (t : Task) (result : Except Failure Stats)
    (q : Pass) (call : PurgeCall) (next : Result Nat → Rest) :
    (t.goOn now p (.done result)).activity ≠ .passing q call next := by
  unfold goOn
  split <;> simp_all [pause, breakOff]

/-- Where messages are kept for ever, a pass is over with the answer to its first call. -/
theorem Run.pass_of_isZero (run : Run began first events now t) (waits : t.activity = .waiting)
    (due : t.loop.due ≤ now) (hzero : t.loop.retention.isZero = true) (clock : Instant) (ms : Nat)
    (reply : Result Nat) :
    Run began first (events ++ [.begin clock, .elapse ms, .answer (.expired clock) reply])
      (now + ms) (t.pause (now + ms) ⟨now, clock, [(.expired clock, reply)]⟩) := by
  have hover (later : Nat) (p : Pass) :
      t.goOn later p (purged clock t.loop.retention reply) = t.pause later p := by
    cases reply with
    | error e => rfl
    | ok n => simp [purged, hzero, goOn]
  have begun := Run.step run (@Step.begins now t clock waits due)
  rw [pass_run, goOn] at begun
  have asked := @Run.elapse _ _ _ ms _ _ begun Activity.noConfusion
  have answered := Run.step asked (.answered rfl reply)
  rw [goOn_passing, hover] at answered
  simpa [Pass.hear] using answered

/-- A pass to the end, on a store that answers at once. -/
theorem Run.answers (handle : (call : PurgeCall) → σ → call.Reply × σ) {p : Pass} {rest : Rest}
    (s : σ) (run : Run began first events now (t.goOn now p rest)) :
    ∃ more, (∀ clock, .begin clock ∉ more) ∧ Run began first (events ++ more) now
      (t.goOn now { p with said := p.said ++ (rest.transcript handle s).map fun q => (q.1, q.2) }
        (.done (rest.run handle s).1)) := by
  induction rest generalizing p events s with
  | done result =>
      refine ⟨[], fun _ => List.not_mem_nil, ?_⟩
      simpa [Dialogue.transcript] using run
  | ask call next ih =>
      let reply := (handle call s).1
      have hanswered := Run.step run (.answered rfl reply)
      rw [goOn_passing] at hanswered
      obtain ⟨more, hmore, hrun⟩ := ih reply (handle call s).2 hanswered
      refine ⟨.answer call reply :: more, fun clock h => ?_, ?_⟩
      · rcases List.mem_cons.mp h with h | h
        · cases h
        · exact hmore clock h
      · simpa [Pass.hear, Dialogue.transcript, Dialogue.run_ask] using hrun

/-- The loop of a task that has not ended. -/
def loop? (t : Task) : Option Loop :=
  match t.activity with
  | .ended => none
  | .waiting | .passing .. => some t.loop

/-- What becomes of a loop with a pass. -/
theorem loop?_goOn (handle : (call : PurgeCall) → σ → call.Reply × σ) (clock : Instant)
    (time : Nat) (p : Pass) (s : σ) :
    (t.goOn time p (.done ((pass clock t.loop.retention).run.run handle s).1)).loop? =
      (t.loop.runPass handle clock time s).1 := by
  unfold Loop.runPass
  rcases (pass clock t.loop.retention).run.run handle s with ⟨result, s'⟩
  unfold goOn
  split <;> simp_all [loop?, pause, breakOff]

end Task

theorem Loop.due_of_runPass {σ : Type} {handle : (call : PurgeCall) → σ → call.Reply × σ}
    {clock : Instant} {time : Nat} {l l' : Loop} {s : σ}
    (h : (l.runPass handle clock time s).1 = some l') : l'.due = time + l.intervalMs := by
  unfold runPass at h
  split at h
  · cases h
  · cases h
    rfl

namespace Timeline

variable {settings : ReaperSettings} {began : Nat} {earlier : List PurgeRecord}
  {Read : Instant → Prop} {t : Timeline} {events : List Task.Event} {task : Task}

/-- A recording loop stands where a task stands that has not been told to stop, and has recorded the
passes of this task after what was recorded earlier. -/
structure Mirrors (settings : ReaperSettings) (began : Nat) (earlier : List PurgeRecord)
    (Read : Instant → Prop) (t : Timeline) (events : List Task.Event) (task : Task) : Prop where
  run : Task.Run began (.start settings began) events t.now task
  reads : ∀ clock, .begin clock ∈ events → Read clock
  unstopped : task.stopped = none
  rests : ∀ p call next, task.activity ≠ .passing p call next
  loop : t.loop = task.loop?
  record : t.store.record = (task.made.flatMap Made.records).reverse ++ earlier

namespace Mirrors

/-- A task waits as long as there is a loop. -/
theorem waiting {l : Loop} (h : Mirrors settings began earlier Read t events task)
    (hloop : t.loop = some l) : task.activity = .waiting ∧ task.loop = l := by
  have hsome := h.loop.symm.trans hloop
  cases hactivity : task.activity with
  | waiting =>
      simp only [Task.loop?, hactivity, Option.some.injEq] at hsome
      exact ⟨rfl, hsome⟩
  | passing p call next => exact absurd hactivity (h.rests p call next)
  | ended => simp [Task.loop?, hactivity] at hsome

/-- Time passes until a moment before which no pass is due. -/
theorem later (h : Mirrors settings began earlier Read t events task) {time : Nat}
    (hnow : t.now ≤ time) (hdue : ∀ {l}, t.loop = some l → time ≤ l.due) :
    ∃ more, Mirrors settings began earlier Read { t with now := time } (events ++ more) task := by
  obtain ⟨ms, rfl⟩ := Nat.exists_eq_add_of_le hnow
  have lets : task.Lets t.now ms := by
    intro hwaits
    refine ⟨h.unstopped, hdue ?_⟩
    rw [h.loop, Task.loop?, hwaits]
  refine ⟨[.elapse ms], ⟨.elapse h.run lets, fun clock hclock => ?_, h.unstopped, h.rests, h.loop,
    h.record⟩⟩
  exact h.reads clock (by simpa using hclock)

/-- The loop makes a pass that is due. -/
theorem pass (h : Mirrors settings began earlier Read t events task) (hread : Read t.clock)
    {l : Loop} (hloop : t.loop = some l) (hdue : l.due ≤ t.now) :
    let after := l.runPass (RecordingStore.handle t.now) t.clock t.now t.store
    ∃ more task', Mirrors settings began earlier Read
      { t with loop := after.1, store := after.2 } (events ++ more) task' := by
  intro after
  obtain ⟨hwaits, rfl⟩ := h.waiting hloop
  let handle := RecordingStore.handle t.now
  let whole := (Reaper.pass t.clock task.loop.retention).run
  let p : Pass := ⟨t.now, t.clock, (whole.transcript handle t.store).map fun q => (q.1, q.2)⟩
  have hbegun := Task.Run.step h.run (@Task.Step.begins t.now task t.clock hwaits hdue)
  obtain ⟨more, hmore, hrun⟩ := hbegun.answers handle t.store
  rw [List.append_assoc] at hrun
  refine ⟨.begin t.clock :: more, task.goOn t.now p (.done (whole.run handle t.store).1),
    ⟨hrun, ?_, ?_, ?_, ?_, ?_⟩⟩
  · intro clock hclock
    rcases List.mem_append.mp hclock with hclock | hclock
    · exact h.reads clock hclock
    · rcases List.mem_cons.mp hclock with hclock | hclock
      · cases hclock
        exact hread
      · exact absurd hclock (hmore clock)
  · rw [Task.stopped_goOn]
    exact h.unstopped
  · exact Task.activity_goOn_done t.now p task _
  · exact (Task.loop?_goOn handle t.clock t.now p t.store).symm
  · have hmade : (task.goOn t.now p (.done (whole.run handle t.store).1)).made =
        task.made ++ [⟨p, t.now⟩] := Task.made_goOn_done t.now p task _
    show after.2.record = _
    rw [hmade, Loop.runPass_store, RecordingStore.record_run, h.record]
    simp [Made.records, p, whole, handle]

/-- All passes are made that come due until a moment. -/
theorem runPasses (h : Mirrors settings began earlier Read t events task) (hread : Read t.clock)
    {horizon fuel : Nat} (hnow : t.now ≤ horizon)
    (hfuel : ∀ {l}, t.loop = some l → horizon < l.due + fuel) :
    ∃ more task', Mirrors settings began earlier Read
      { Timeline.runPasses horizon fuel t with now := horizon } (events ++ more) task' := by
  induction fuel generalizing t events task with
  | zero =>
      obtain ⟨more, hlater⟩ := h.later hnow fun hloop => Nat.le_of_lt (hfuel hloop)
      exact ⟨more, task, hlater⟩
  | succ fuel ih =>
      cases hloop : t.loop with
      | none =>
          have hsame : Timeline.runPasses horizon (fuel + 1) t = t := by
            simp only [Timeline.runPasses, hloop]
          rw [hsame]
          obtain ⟨more, hlater⟩ := h.later hnow fun hsome => by simp [hloop] at hsome
          exact ⟨more, task, hlater⟩
      | some l =>
          rcases Nat.lt_or_ge horizon l.due with hfar | hdue
          · rw [runPasses_of_lt_due hloop hfar]
            obtain ⟨more, hlater⟩ := h.later hnow fun hsome => by
              obtain rfl := Option.some.inj (hloop.symm.trans hsome)
              exact Nat.le_of_lt hfar
            exact ⟨more, task, hlater⟩
          · obtain ⟨hwaits, rfl⟩ := h.waiting hloop
            obtain ⟨hle, -⟩ := h.run.sound.waiting hwaits
            have hpos := h.run.sound.intervalMs_pos
            obtain ⟨first, hthen⟩ := h.later hle fun hsome => by
              obtain rfl := Option.some.inj (hloop.symm.trans hsome)
              exact Nat.le_refl _
            obtain ⟨second, task', hpassed⟩ := hthen.pass hread hloop (Nat.le_refl _)
            rw [runPasses_of_due hloop hdue, Nat.max_eq_right hle]
            obtain ⟨third, task'', hrest⟩ := ih hpassed hread hdue fun {l'} hsome => by
              have hnext : l'.due = task.loop.due + task.loop.intervalMs :=
                Loop.due_of_runPass hsome
              have hall := hfuel hloop
              omega
            refine ⟨first ++ second ++ third, task'', ?_⟩
            simpa only [List.append_assoc] using hrest

/-- The loop goes on while time passes. -/
theorem sleep (h : Mirrors settings began earlier Read t events task) (hread : Read t.clock)
    (ms : Nat) :
    ∃ more task', Mirrors settings began earlier Read (t.sleep ms) (events ++ more) task' :=
  h.runPasses hread (Nat.le_add_right _ _) fun _ => by omega

theorem elapse (h : Mirrors settings began earlier Read t events task)
    (spans : List (Instant × Nat)) (hread : ∀ span ∈ spans, Read span.1) :
    ∃ more task', Mirrors settings began earlier Read (t.elapse spans) (events ++ more) task' := by
  induction spans generalizing t events task with
  | nil =>
      refine ⟨[], task, ?_⟩
      rw [List.append_nil]
      exact h
  | cons span spans ih =>
      rw [List.forall_mem_cons] at hread
      have hset : Mirrors settings began earlier Read { t with clock := span.1 } events task :=
        ⟨h.run, h.reads, h.unstopped, h.rests, h.loop, h.record⟩
      obtain ⟨first, task', hslept⟩ := hset.sleep hread.1 span.2
      obtain ⟨rest, task'', helapsed⟩ := ih hslept hread.2
      refine ⟨first ++ rest, task'', ?_⟩
      rw [← List.append_assoc]
      exact helapsed

end Mirrors

/-- A loop that is started and left to itself. -/
theorem mirrors_spawn_elapse (t : Timeline) (settings : ReaperSettings)
    (spans : List (Instant × Nat)) (hread : ∀ clock ∈ t.clock :: spans.map Prod.fst, Read clock) :
    ∃ events task, Mirrors settings t.now t.store.record Read ((t.spawn settings).elapse spans)
      events task := by
  have hstart : Mirrors settings t.now t.store.record Read
      { t with loop := some (Loop.start settings t.now) } [] (.start settings t.now) :=
    ⟨.nil, fun _ h => absurd h List.not_mem_nil, rfl, fun _ _ _ => Activity.noConfusion, rfl, rfl⟩
  rw [List.forall_mem_cons] at hread
  obtain ⟨first, task, hspawned⟩ := hstart.sleep hread.1 0
  obtain ⟨rest, task', helapsed⟩ :=
    hspawned.elapse spans fun span hspan => hread.2 _ (List.mem_map_of_mem hspan)
  exact ⟨_, task', helapsed⟩

/-- Without a loop time passes and nothing else happens. -/
theorem store_elapse_stop (t : Timeline) (spans : List (Instant × Nat)) :
    (t.stop.elapse spans).store = t.store := by
  have hidle (t : Timeline) (hloop : t.loop = none) :
      (t.elapse spans).store = t.store := by
    induction spans generalizing t with
    | nil => rfl
    | cons span spans ih =>
        have hsleep : ({ t with clock := span.1 } : Timeline).sleep span.2 =
            { t with clock := span.1, now := t.now + Timer.wait span.2 } := by
          simp only [sleep, runPasses, hloop]
        show (elapse (({ t with clock := span.1 } : Timeline).sleep span.2) spans).store = _
        rw [hsleep]
        exact ih _ hloop
  exact hidle t.stop rfl

end Timeline

/-! ## The schedule -/

/-- A loop whose delays and cutoffs can be represented keeps to its schedule in every run: whatever
the store answers and however long it takes, and whenever the loop is told to stop. The recording
loop makes such a run, and after it has been stopped it records nothing more. -/
theorem keeps_schedule (settings : ReaperSettings)
    (hinitial : settings.initialDelaySecs * 1000 ≤ Timer.longestMs)
    (hinterval : max settings.intervalSecs 1 * 1000 ≤ Timer.longestMs) :
    (∀ (began : Nat) (events : List Task.Event) (now : Nat) (t : Task),
      Task.Run began (.start settings began) events now t →
      (∀ clock, .begin clock ∈ events →
        Reaches (.ofSeconds settings.messageRetentionSecs) clock) →
      Task.Keeps settings began now events t) ∧
    (∀ (t : Timeline) (spans more : List (Instant × Nat)),
      (∀ clock ∈ t.clock :: spans.map Prod.fst,
        Reaches (.ofSeconds settings.messageRetentionSecs) clock) →
      let t' := (t.spawn settings).elapse spans
      (∃ events task, Task.Run t.now (.start settings t.now) events t'.now task ∧
        Task.Keeps settings t.now t'.now events task ∧ task.activity = .waiting ∧
        t'.loop = some task.loop ∧
        t'.store.record = (task.made.flatMap Made.records).reverse ++ t.store.record) ∧
      (t'.stop.elapse more).store = t'.store) := by
  refine ⟨fun began events now t run reaches => run.keeps hinitial hinterval reaches,
    fun t spans more reaches => ⟨?_, Timeline.store_elapse_stop _ more⟩⟩
  obtain ⟨events, task, mirrors⟩ := t.mirrors_spawn_elapse settings spans reaches
  have keeps := mirrors.run.keeps hinitial hinterval mirrors.reads
  have hwaits : task.activity = .waiting := by
    rcases keeps.goesOn mirrors.unstopped with ⟨p, call, next, hpassing⟩ | ⟨hwaits, -⟩
    · exact absurd hpassing (mirrors.rests p call next)
    · exact hwaits
  refine ⟨events, task, mirrors.run, keeps, hwaits, ?_, mirrors.record⟩
  rw [mirrors.loop, Task.loop?, hwaits]

/-- A store that fails the first purge after a quarter of a second, and a loop that is stopped while
it waits for the third pass. -/
theorem keeps_schedule_flaky :
    let settings : ReaperSettings :=
      { initialDelaySecs := 2, intervalSecs := 0, messageRetentionSecs := 0 }
    ∃ events t, Task.Run 0 (.start settings 0) events 3650 t ∧
      Task.Keeps settings 0 3650 events t ∧ t.starts = [2000, 3250] ∧ t.stopped = some 3650 ∧
      events.getLast? = some .joined := by
  intro settings
  have waited := @Task.Run.elapse 0 (.start settings 0) 0 2000 _ [] .nil fun _ => ⟨rfl, by decide⟩
  have failed := waited.pass_of_isZero rfl (by decide) (by decide) present 250
    (.error (.store (.other "disk I/O error")))
  have paused := @Task.Run.elapse _ _ _ 1000 _ _ failed fun _ => ⟨rfl, by decide⟩
  have again := paused.pass_of_isZero rfl (by decide) (by decide) present 0 (.ok 3)
  have stopped := Task.Run.step (@Task.Run.elapse _ _ _ 400 _ _ again fun _ => ⟨rfl, by decide⟩)
    (.stopped _)
  have quit := Task.Run.step stopped (@Task.Step.quits _ _ rfl (by decide))
  have joined := Task.Run.step quit (.joined (by decide) rfl)
  refine ⟨_, _, joined, ?_, rfl, rfl, rfl⟩
  refine (keeps_schedule settings (by decide) (by decide)).1 0 _ 3650 _ joined fun clock h => ?_
  have hclock : clock = present := by simpa using h
  rw [hclock]
  exact ⟨present_isRepresentable, fun lost => absurd lost.before (by decide)⟩

end SqlCache.Reaper
