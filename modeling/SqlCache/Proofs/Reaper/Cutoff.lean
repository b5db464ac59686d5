import SqlCache.Database
import SqlCache.Proofs.Time.Expiry
import SqlCache.Reaper.Timeline

/-!
When the reaper stops by itself. A retention that reaches back before all years keeps every message.
One too long to be subtracted at all does so quietly; a shorter one is subtracted, and as there is
no such instant the pass breaks off, after it has removed the expired keys, and takes the loop with
it (`CutoffLost`). Main result: `Reaper.endures_unless_cutoffLost`, that nothing else ends a loop:
whatever the store answers, each pass starts an interval after the one before.
-/

set_option autoImplicit false

namespace SqlCache

/-- A span cannot be subtracted if it is too long for any instant, or for this one. -/
theorem Instant.sub?_eq_none_iff {now : Instant} {d : Duration}
    (hnow : now.isRepresentable = true) :
    now.sub? d = none ↔ d.isAddable = false ∨ now.nanos - d.nanos < earliest.nanos := by
  obtain ⟨hearly, hlate⟩ := isRepresentable_iff.mp hnow
  have hbefore : (⟨now.nanos - d.nanos⟩ : Instant).isRepresentable = false ↔
      now.nanos - d.nanos < earliest.nanos := by
    simp only [isRepresentable, Bool.and_eq_false_iff, decide_eq_false_iff_not, le_def]
    omega
  rw [← hbefore, ← Bool.and_eq_false_iff]
  simp [sub?, -Bool.and_eq_true, -Bool.and_eq_false_imp]

namespace Reaper

variable {now : Instant} {retention : Duration} {σ : Type}

/-- The retention can be subtracted from an instant, but not from this one: what it leads to lies
before all years. -/
structure CutoffLost (now : Instant) (retention : Duration) : Prop where
  isAddable : retention.isAddable = true
  before : now.nanos - retention.nanos < Instant.earliest.nanos

/-! ## One pass -/

theorem purgeMessages_of_cutoffLost (hnow : now.isRepresentable = true)
    (h : CutoffLost now retention) :
    purgeMessages now retention = throw .cutoffOutOfRange := by
  have hsome : retention.isZero = false := by
    have hearly := (Instant.isRepresentable_iff.mp hnow).1
    have hbefore := h.before
    simp only [Duration.isZero, beq_eq_false_iff_ne]
    omega
  have hsub : now.sub? retention = none := (Instant.sub?_eq_none_iff hnow).mpr (.inr h.before)
  simp [purgeMessages, hsome, h.isAddable, hsub]

/-- Unless its cutoff is lost, a pass keeps all messages or purges those of before the instant that
the retention leads to. -/
theorem purgeMessages_of_not_cutoffLost (hnow : now.isRepresentable = true)
    (h : ¬ CutoffLost now retention) :
    purgeMessages now retention = pure 0 ∨
      (Instant.earliest.nanos ≤ now.nanos - retention.nanos ∧
        ∃ cutoff, purgeMessages now retention = purge (.messages cutoff)) := by
  unfold purgeMessages
  split
  · exact Or.inl rfl
  · next hkeeps =>
      have hadd : retention.isAddable = true := by simp_all
      have hbefore : ¬ now.nanos - retention.nanos < Instant.earliest.nanos :=
        fun hbefore => h ⟨hadd, hbefore⟩
      cases hsub : now.sub? retention with
      | none =>
          rcases (Instant.sub?_eq_none_iff hnow).mp hsub with hlong | hfar
          · rw [hadd] at hlong
            cases hlong
          · exact absurd hfar hbefore
      | some cutoff => exact Or.inr ⟨Int.not_lt.mp hbefore, cutoff, rfl⟩

theorem run_purge (call : PurgeCall) (handle : (call : PurgeCall) → σ → call.Reply × σ) (s : σ) :
    (purge call).run.run handle s =
      ((handle call s).1.mapError Failure.store, (handle call s).2) := rfl

variable {handle : (call : PurgeCall) → σ → call.Reply × σ} {s : σ}

theorem run_purge_of_error {call : PurgeCall} {e : CacheError} {s' : σ}
    (h : handle call s = (.error e, s')) :
    (purge call).run.run handle s = (.error (.store e), s') := by
  rw [run_purge, h]
  rfl

theorem run_purge_of_ok {call : PurgeCall} {n : Nat} {s' : σ} (h : handle call s = (.ok n, s')) :
    (purge call).run.run handle s = (.ok n, s') := by
  rw [run_purge, h]
  rfl

/-- A pass whose keys cannot be purged fails before it comes to the messages. -/
theorem run_pass_of_error {e : CacheError} {s' : σ} (h : handle (.expired now) s = (.error e, s')) :
    (pass now retention).run.run handle s = (.error (.store e), s') := by
  simp [pass, ExceptT.run_bind, Dialogue.run_bind, run_purge_of_error h]

/-- A pass whose keys are purged ends as its messages part does. -/
theorem run_pass_of_ok {n : Nat} {s' : σ} (h : handle (.expired now) s = (.ok n, s')) :
    (pass now retention).run.run handle s =
      (((purgeMessages now retention).run.run handle s').1.map (Stats.mk n),
        ((purgeMessages now retention).run.run handle s').2) := by
  simp only [pass, ExceptT.run_bind, Dialogue.run_bind, run_purge_of_ok h]
  cases ((purgeMessages now retention).run.run handle s').1 with
  | ok removed => rfl
  | error e => rfl

/-- The messages part of a pass is answered, or the store fails at it. -/
theorem run_purgeMessages_of_not_cutoffLost (hnow : now.isRepresentable = true)
    (h : ¬ CutoffLost now retention) (handle : (call : PurgeCall) → σ → call.Reply × σ) (s : σ) :
    (∃ removed, ((purgeMessages now retention).run.run handle s).1 = .ok removed) ∨
      ∃ e, ((purgeMessages now retention).run.run handle s).1 = .error (.store e) := by
  rcases purgeMessages_of_not_cutoffLost hnow h with hkeeps | ⟨-, cutoff, hpurges⟩
  · rw [hkeeps]
    exact Or.inl ⟨0, rfl⟩
  · rw [hpurges, run_purge]
    cases (handle (.messages cutoff) s).1 with
    | ok removed => exact Or.inl ⟨removed, rfl⟩
    | error e => exact Or.inr ⟨e, rfl⟩

/-- A pass breaks off if its cutoff is lost, as soon as the expired keys are purged, and otherwise
only if the store fails. -/
theorem run_pass_cases (hnow : now.isRepresentable = true) (retention : Duration)
    (handle : (call : PurgeCall) → σ → call.Reply × σ) (s : σ) :
    (CutoffLost now retention ∧ (∃ n, (handle (.expired now) s).1 = .ok n) ∧
      (pass now retention).run.run handle s =
        (.error .cutoffOutOfRange, (handle (.expired now) s).2)) ∨
    (¬ (CutoffLost now retention ∧ ∃ n, (handle (.expired now) s).1 = .ok n) ∧
      ((∃ stats, ((pass now retention).run.run handle s).1 = .ok stats) ∨
        ∃ e, ((pass now retention).run.run handle s).1 = .error (.store e))) := by
  rcases hexpired : handle (.expired now) s with ⟨reply, s'⟩
  cases reply with
  | error e =>
      rw [run_pass_of_error hexpired]
      refine Or.inr ⟨?_, Or.inr ⟨e, rfl⟩⟩
      rintro ⟨-, n, hn⟩
      cases hn
  | ok n =>
      rw [run_pass_of_ok hexpired]
      by_cases hlost : CutoffLost now retention
      · rw [purgeMessages_of_cutoffLost hnow hlost]
        exact Or.inl ⟨hlost, ⟨n, rfl⟩, rfl⟩
      · refine Or.inr ⟨fun h => hlost h.1, ?_⟩
        rcases run_purgeMessages_of_not_cutoffLost hnow hlost handle s' with
          ⟨removed, hok⟩ | ⟨e, herror⟩
        · rw [hok]
          exact Or.inl ⟨⟨n, removed⟩, rfl⟩
        · rw [herror]
          exact Or.inr ⟨e, rfl⟩

/-! ## The messages -/

/-- A retention that does not lead to an instant, or is zero, has no message asked for. -/
theorem purgeMessages_eq_or (hnow : now.isRepresentable = true)
    (h : retention.isZero = true ∨ now.nanos - retention.nanos < Instant.earliest.nanos) :
    purgeMessages now retention = pure 0 ∨
      purgeMessages now retention = throw .cutoffOutOfRange := by
  by_cases hlost : CutoffLost now retention
  · exact Or.inr (purgeMessages_of_cutoffLost hnow hlost)
  · rcases purgeMessages_of_not_cutoffLost hnow hlost with hkeeps | ⟨hbefore, -⟩
    · exact Or.inl hkeeps
    · rcases h with hzero | hfar
      · exact Or.inl (by simp [purgeMessages, hzero])
      · omega

/-- A pass keeps every message if its retention is zero or reaches back before all years, whatever
else it comes to. -/
theorem reap_messages (hnow : now.isRepresentable = true)
    (h : retention.isZero = true ∨ now.nanos - retention.nanos < Instant.earliest.nanos)
    (d : Database) :
    (Database.backend.reap now retention d).2.committed.messages = d.committed.messages := by
  have hexpired : (Database.backend.purge (.expired now) d).2.committed.messages =
      d.committed.messages := by
    show (d.direct true _ _).2.committed.messages = _
    unfold Database.direct
    split <;> rfl
  have hquiet (s : Database) :
      ((purgeMessages now retention).run.run Database.backend.purge s).2 = s := by
    rcases purgeMessages_eq_or hnow h with hkeeps | hbreaks
    · rw [hkeeps]
      rfl
    · rw [hbreaks]
      rfl
  rw [← hexpired, Backend.reap]
  rcases hpurge : Database.backend.purge (.expired now) d with ⟨reply, d'⟩
  cases reply with
  | error e => rw [run_pass_of_error hpurge]
  | ok n => rw [run_pass_of_ok hpurge, hquiet]

/-! ## One pass of a loop -/

namespace Loop

/-- The loop goes on after a pass, an interval later, unless that pass broke off. -/
theorem runPass_cases (hnow : now.isRepresentable = true)
    (handle : (call : PurgeCall) → σ → call.Reply × σ) (time : Nat) (l : Loop) (s : σ) :
    (CutoffLost now l.retention ∧ (∃ n, (handle (.expired now) s).1 = .ok n) ∧
      (l.runPass handle now time s).1 = none) ∨
    (¬ (CutoffLost now l.retention ∧ ∃ n, (handle (.expired now) s).1 = .ok n) ∧
      (l.runPass handle now time s).1 = some { l with due := time + l.intervalMs }) := by
  unfold runPass
  rcases run_pass_cases hnow l.retention handle s with ⟨hlost, hok, hrun⟩ | ⟨hnot, hrest⟩
  · rw [hrun]
    exact Or.inl ⟨hlost, hok, rfl⟩
  · refine Or.inr ⟨hnot, ?_⟩
    rcases hrun : (pass now l.retention).run.run handle s with ⟨r, s'⟩
    rw [hrun] at hrest
    rcases hrest with ⟨stats, hr⟩ | ⟨e, hr⟩
    · cases hr
      rfl
    · cases hr
      rfl

/-- The store after a pass of a loop is the store after the pass. -/
theorem runPass_store (handle : (call : PurgeCall) → σ → call.Reply × σ) (time : Nat) (l : Loop)
    (s : σ) :
    (l.runPass handle now time s).2 = ((pass now l.retention).run.run handle s).2 := by
  unfold runPass
  split
  · next hrun => rw [hrun]
  · next hrun => rw [hrun]

theorem intervalMs_start_pos (settings : ReaperSettings) (time : Nat) :
    0 < (start settings time).intervalMs := by
  simp only [start, delayMs, Timer.wait, Timer.longestMs]
  omega

end Loop

/-! ## The passes of a loop -/

/-- When the recorded passes started, in order: each of them begins with the expired keys. -/
def RecordingStore.passTimes (s : RecordingStore) : List Nat :=
  s.record.reverse.filterMap fun r =>
    match r.call with
    | .expired _ => some r.time
    | .messages _ => none

theorem RecordingStore.passTimes_expired (time : Nat) (now : Instant) (s : RecordingStore) :
    (RecordingStore.handle time (.expired now) s).2.passTimes = s.passTimes ++ [time] := by
  simp only [handle]
  split <;> simp [passTimes]

theorem RecordingStore.passTimes_messages (time : Nat) (cutoff : Instant) (s : RecordingStore) :
    (RecordingStore.handle time (.messages cutoff) s).2.passTimes = s.passTimes := by
  simp only [handle]
  split <;> simp [passTimes]

/-- A pass is recorded with the time it started at, whatever comes of it. -/
theorem passTimes_pass (hnow : now.isRepresentable = true) (time : Nat) (s : RecordingStore) :
    ((pass now retention).run.run (RecordingStore.handle time) s).2.passTimes =
      s.passTimes ++ [time] := by
  have hmessages (s : RecordingStore) :
      ((purgeMessages now retention).run.run (RecordingStore.handle time) s).2.passTimes =
        s.passTimes := by
    by_cases hlost : CutoffLost now retention
    · rw [purgeMessages_of_cutoffLost hnow hlost]
      rfl
    · rcases purgeMessages_of_not_cutoffLost hnow hlost with hkeeps | ⟨-, cutoff, hpurges⟩
      · rw [hkeeps]
        rfl
      · rw [hpurges, run_purge]
        exact RecordingStore.passTimes_messages time cutoff s
  rw [← RecordingStore.passTimes_expired time now]
  rcases hexpired : RecordingStore.handle time (.expired now) s with ⟨reply, s'⟩
  cases reply with
  | error e => rw [run_pass_of_error hexpired]
  | ok n => rw [run_pass_of_ok hexpired, hmessages]

namespace Timeline

/-- A loop has made `k` passes since it was started, the first when it was due and each further one
an interval later, and goes on with the next one. -/
structure Caught (earlier : List Nat) (l : Loop) (k : Nat) (t : Timeline) : Prop where
  loop : t.loop = some { l with due := l.due + k * l.intervalMs }
  times : t.store.passTimes =
    earlier ++ (List.range k).map fun i => l.due + i * l.intervalMs

variable {t : Timeline} {l : Loop} {earlier : List Nat} {k horizon fuel : Nat}

/-- The next pass of a loop whose cutoff is not lost. -/
theorem Caught.next (h : Caught earlier l k t) (hclock : t.clock.isRepresentable = true)
    (hkept : ¬ CutoffLost t.clock l.retention) {time : Nat}
    (htime : time = l.due + k * l.intervalMs)
    {after : Option Loop × RecordingStore} (hafter : after =
      Loop.runPass (RecordingStore.handle time) t.clock time { l with due := time } t.store) :
    Caught earlier l (k + 1) { t with now := time, loop := after.1, store := after.2 } where
  loop := by
    rcases Loop.runPass_cases hclock (RecordingStore.handle time) time { l with due := time }
      t.store with ⟨hlost, -⟩ | ⟨-, hloop⟩
    · exact absurd hlost hkept
    · have hdue : time + l.intervalMs = l.due + (k + 1) * l.intervalMs := by
        rw [htime, Nat.succ_mul, Nat.add_assoc]
      show after.1 = _
      rw [hafter, hloop, hdue]
  times := by
    show after.2.passTimes = _
    rw [hafter, Loop.runPass_store, passTimes_pass hclock, h.times, List.range_succ,
      List.map_append, List.append_assoc, htime]
    rfl

theorem runPasses_of_due (hloop : t.loop = some l) (hdue : l.due ≤ horizon) :
    let time := max t.now l.due
    let after := l.runPass (RecordingStore.handle time) t.clock time t.store
    runPasses horizon (fuel + 1) t =
      runPasses horizon fuel { t with now := time, loop := after.1, store := after.2 } := by
  simp only [runPasses, hloop, if_pos hdue]

theorem runPasses_of_lt_due (hloop : t.loop = some l) (hdue : horizon < l.due) :
    runPasses horizon (fuel + 1) t = t := by
  simp only [runPasses, hloop, if_neg (Nat.not_le.mpr hdue)]

/-- All passes are made that are due until a time. -/
theorem runPasses_caught (hclock : t.clock.isRepresentable = true)
    (hkept : ¬ CutoffLost t.clock l.retention) (hpos : 0 < l.intervalMs) (h : Caught earlier l k t)
    (hnow : t.now ≤ l.due + k * l.intervalMs)
    (hfuel : horizon < l.due + k * l.intervalMs + fuel) :
    ∃ k', Caught earlier l k' (runPasses horizon fuel t) ∧
      horizon < l.due + k' * l.intervalMs := by
  induction fuel generalizing t k with
  | zero => exact ⟨k, h, hfuel⟩
  | succ fuel ih =>
      rcases Nat.lt_or_ge horizon (l.due + k * l.intervalMs) with hlater | hdue
      · rw [runPasses_of_lt_due h.loop hlater]
        exact ⟨k, h, hlater⟩
      · have hnext := h.next hclock hkept (Nat.max_eq_right hnow) rfl
        have hinterval : l.due + (k + 1) * l.intervalMs =
            l.due + k * l.intervalMs + l.intervalMs := by
          rw [Nat.succ_mul, Nat.add_assoc]
        rw [runPasses_of_due h.loop hdue]
        refine ih hclock hkept hnext ?_ ?_
        · show max t.now (l.due + k * l.intervalMs) ≤ _
          omega
        · omega

/-- While time passes the passes that come due are made, and the next one lies ahead. -/
theorem sleep_caught (hclock : t.clock.isRepresentable = true)
    (hkept : ¬ CutoffLost t.clock l.retention) (hpos : 0 < l.intervalMs) (h : Caught earlier l k t)
    (hnow : t.now ≤ l.due + k * l.intervalMs) (ms : Nat) :
    ∃ k', Caught earlier l k' (t.sleep ms) ∧ (t.sleep ms).now < l.due + k' * l.intervalMs := by
  have hfuel : t.now + Timer.wait ms <
      l.due + k * l.intervalMs + (t.now + Timer.wait ms + 1) := by omega
  obtain ⟨k', hcaught, hlater⟩ := runPasses_caught hclock hkept hpos h hnow hfuel
  exact ⟨k', ⟨hcaught.loop, hcaught.times⟩, hlater⟩

/-- Time passes bit by bit, with the wall clock set anew before each bit. -/
def elapse (t : Timeline) (spans : List (Instant × Nat)) : Timeline :=
  spans.foldl (fun t span => { t with clock := span.1 }.sleep span.2) t

theorem elapse_caught (spans : List (Instant × Nat))
    (hclock : ∀ span ∈ spans, span.1.isRepresentable = true)
    (hkept : ∀ span ∈ spans, ¬ CutoffLost span.1 l.retention) (hpos : 0 < l.intervalMs)
    (h : Caught earlier l k t) (hnow : t.now < l.due + k * l.intervalMs) :
    ∃ k', Caught earlier l k' (t.elapse spans) ∧
      (t.elapse spans).now < l.due + k' * l.intervalMs := by
  induction spans generalizing t k with
  | nil => exact ⟨k, h, hnow⟩
  | cons span spans ih =>
      have hreset : Caught earlier l k { t with clock := span.1 } := ⟨h.loop, h.times⟩
      obtain ⟨k', hcaught, hlater⟩ := sleep_caught (hclock span List.mem_cons_self)
        (hkept span List.mem_cons_self) hpos hreset (Nat.le_of_lt hnow) span.2
      exact ih (fun span hspan => hclock span (List.mem_cons_of_mem _ hspan))
        (fun span hspan => hkept span (List.mem_cons_of_mem _ hspan)) hcaught hlater

/-- A loop that is started and left to itself makes a pass when it is due and then at every
interval, as long as no reading of the clock loses its cutoff. -/
theorem spawn_elapse (t : Timeline) (settings : ReaperSettings) (spans : List (Instant × Nat))
    (hclock : ∀ now ∈ t.clock :: spans.map Prod.fst, now.isRepresentable = true)
    (hkept : ∀ now ∈ t.clock :: spans.map Prod.fst,
      ¬ CutoffLost now (.ofSeconds settings.messageRetentionSecs)) :
    let l := Loop.start settings t.now
    ∃ k, Caught t.store.passTimes l k ((t.spawn settings).elapse spans) ∧
      ((t.spawn settings).elapse spans).now < l.due + k * l.intervalMs := by
  intro l
  have hpos : 0 < l.intervalMs := Loop.intervalMs_start_pos settings t.now
  have hstart : Caught t.store.passTimes l 0 { t with loop := some l } := by
    refine ⟨?_, ?_⟩
    · simp
    · simp
  have hdue : t.now ≤ l.due + 0 * l.intervalMs := by
    simp only [l, Loop.start]
    omega
  obtain ⟨k, hcaught, hlater⟩ := sleep_caught (t := { t with loop := some l })
    (hclock _ List.mem_cons_self) (hkept _ List.mem_cons_self) hpos hstart hdue 0
  refine elapse_caught spans ?_ ?_ hpos hcaught hlater
  · intro span hspan
    exact hclock _ (List.mem_cons_of_mem _ (List.mem_map_of_mem hspan))
  · intro span hspan
    exact hkept _ (List.mem_cons_of_mem _ (List.mem_map_of_mem hspan))

end Timeline

/-! ## When the reaper stops -/

/-- Exactly where a cutoff is lost and the expired keys can be purged, a pass neither succeeds nor
fails with the store, and the loop that makes it ends. Messages are kept whenever the retention
reaches back before all years; and a loop that never comes into that position makes all its
passes. -/
theorem endures_unless_cutoffLost {now : Instant} (hnow : now.isRepresentable = true)
    (retention : Duration) :
    (∀ {σ : Type} (handle : (call : PurgeCall) → σ → call.Reply × σ) (s : σ),
      let breaksOff := CutoffLost now retention ∧ ∃ n, (handle (.expired now) s).1 = .ok n
      ((∃ stats, ((pass now retention).run.run handle s).1 = .ok stats) ∨
        (∃ e, ((pass now retention).run.run handle s).1 = .error (.store e)) ↔ ¬ breaksOff) ∧
      ∀ (time : Nat) (l : Loop), l.retention = retention →
        (breaksOff → (l.runPass handle now time s).1 = none) ∧
        (¬ breaksOff →
          (l.runPass handle now time s).1 = some { l with due := time + l.intervalMs })) ∧
    (retention.isZero = true ∨ now.nanos - retention.nanos < Instant.earliest.nanos →
      ∀ d : Database,
        (Database.backend.reap now retention d).2.committed.messages = d.committed.messages) ∧
    (¬ CutoffLost now retention →
      ∀ (t : Timeline) (settings : ReaperSettings) (spans : List (Instant × Nat)),
        t.clock = now → .ofSeconds settings.messageRetentionSecs = retention →
        (∀ span ∈ spans, span.1.isRepresentable = true ∧ ¬ CutoffLost span.1 retention) →
        let l := Loop.start settings t.now
        let t' := (t.spawn settings).elapse spans
        ∃ k, t'.loop = some { l with due := l.due + k * l.intervalMs } ∧
          t'.now < l.due + k * l.intervalMs ∧
          t'.store.passTimes = t.store.passTimes ++
            (List.range k).map fun i => l.due + i * l.intervalMs) := by
  refine ⟨fun {σ} handle s => ⟨?_, fun time l hl => ?_⟩, fun hback d => ?_,
    fun hkept t settings spans hclock hretention hspans => ?_⟩
  · rcases run_pass_cases hnow retention handle s with ⟨hlost, hok, hrun⟩ | ⟨hnot, hends⟩
    · rw [hrun]
      simp [hlost, hok]
    · exact iff_of_true hends hnot
  · subst hl
    rcases Loop.runPass_cases hnow handle time l s with ⟨hlost, hok, hnone⟩ | ⟨hnot, hsome⟩
    · exact ⟨fun _ => hnone, fun hnot => absurd ⟨hlost, hok⟩ hnot⟩
    · exact ⟨fun hbreaks => absurd hbreaks hnot, fun _ => hsome⟩
  · exact reap_messages hnow hback d
  · subst hclock hretention
    obtain ⟨k, hcaught, hlater⟩ := t.spawn_elapse settings spans
      (by simpa [hnow] using fun a b hab => (hspans (a, b) hab).1)
      (by simpa [hkept] using fun a b hab => (hspans (a, b) hab).2)
    exact ⟨k, hcaught.loop, hlater, hcaught.times⟩

/-- A moment of the year 2023. -/
def present : Instant := .ofParts 1700000000 0

theorem present_isRepresentable : present.isRepresentable = true := by decide

/-- Messages can be kept for an hour: no pass breaks off, and a loop is there after any time. -/
theorem endures_anHour :
    present.isRepresentable = true ∧ ¬ CutoffLost present (.ofSeconds 3600) ∧
      ((∃ stats, (Database.backend.reap present (.ofSeconds 3600) (.empty .file)).1 = .ok stats) ∨
        ∃ e, (Database.backend.reap present (.ofSeconds 3600) (.empty .file)).1 =
          .error (.store e)) ∧
      ∃ k, ((({ clock := present } : Timeline).spawn {}).elapse [(present, 400000)]).loop =
        some ⟨300000 + k * 60000, 60000, .ofSeconds 3600⟩ := by
  have hkept : ¬ CutoffLost present (.ofSeconds 3600) := fun h => absurd h.before (by decide)
  obtain ⟨hends, -, hgoesOn⟩ :=
    endures_unless_cutoffLost present_isRepresentable (.ofSeconds 3600)
  refine ⟨present_isRepresentable, hkept, ?_, ?_⟩
  · exact (hends Database.backend.purge (.empty .file)).1.mpr fun h => hkept h.1
  · obtain ⟨k, hloop, -⟩ := hgoesOn hkept { clock := present } {} [(present, 400000)] rfl rfl
      (by simpa using ⟨present_isRepresentable, hkept⟩)
    exact ⟨k, hloop⟩

/-- To keep messages for nine million million seconds takes a pass back before all years. -/
theorem cutoffLost_farBack :
    (Database.backend.reap present (.ofSeconds 9000000000000) (.empty .file)).1 =
        .error .cutoffOutOfRange ∧
      (({ clock := present } : Timeline).spawn
        { initialDelaySecs := 0, messageRetentionSecs := 9000000000000 }).loop = none := by
  refine ⟨?_, ?_⟩
  · rfl
  · rfl

end Reaper

end SqlCache
