import SqlCache.Proofs.Handles.Tables
import SqlCache.Proofs.Lifetime.Basic
import SqlCache.Proofs.Time.Expiry

/-!
How accurate a span to live is. A key is written at one reading of the clock and asked for at a
later one, with the deadline cut off at `Instant.never` and stored in whole milliseconds, and with
the clock rounded to milliseconds as well. For readings and spans of any kind the key is gone when
its span is over, is there until a millisecond before, and has as long to live as is left of the
span, up to a millisecond (`Accurate`).

The main result is `accurate`: so it is for whoever sees what was written, until somebody writes the
key again, whatever handles do in the meantime and however often expired keys are purged.
-/

set_option autoImplicit false

namespace SqlCache

open Handles (Event Step Run OneWriter)

namespace Lifetime

/-- How long a key is said to have to live (`none` if it is absent, `some none` if it never expires)
agrees, up to a millisecond, with a span that began when the key was written. -/
structure Accurate (written : Instant) (ttl : Duration) (now : Instant)
    (left : Option (Option Duration)) : Prop where
  absent : written.nanos + ttl.nanos ≤ now.nanos → left = none
  present : now.nanos ≤ written.nanos + ttl.nanos - 1000000 → left ≠ none
  forever : ∀ rest, left = some rest →
    (rest = none ↔ Instant.never.nanos ≤ written.nanos + ttl.nanos)
  close : ∀ rest, left = some (some rest) → 0 < rest.nanos ∧
    (rest.nanos : Int) ≤ written.nanos + ttl.nanos - now.nanos ∧
    written.nanos + ttl.nanos - now.nanos - 1000000 < rest.nanos

variable {key : String} {ttl : Duration} {written now : Instant}

/-! ## Rounding -/

/-- The time left until a deadline that was computed in nanoseconds and stored in milliseconds. -/
theorem accurate_of_deadline (hwritten : written.isRepresentable = true)
    (hnow : now.isRepresentable = true) (hnever : now < .never) (hspan : ttl.isZero = false) :
    Accurate written ttl now (if (written.expiry ttl).millis ≤ now.millis then none
      else some (now.remaining (.ofMillis (written.expiry ttl).millis))) := by
  have hexpiry := Instant.expiry_of_isZero_eq_false hwritten hspan
  have hnever' : now.nanos < Instant.never.nanos := hnever
  have hdeadline : (written.expiry ttl).millis =
      min (written.nanos + ttl.nanos) Instant.never.nanos / 1000000 := by
    rw [hexpiry]
    rfl
  have hsentinel : Instant.never.nanos = 253402300799999 * 1000000 := by decide
  have hmillis : now.millis = now.nanos / 1000000 := rfl
  -- what is told depends on the stored deadline: whether it has come, and whether it is `never`
  by_cases hover : (written.expiry ttl).millis ≤ now.millis
  · rw [if_pos hover]
    refine ⟨fun _ => rfl, ?_, ?_, ?_⟩
    · intro hearly
      omega
    · intro rest hrest
      cases hrest
    · intro rest hrest
      cases hrest
  · have hstored : Instant.ofMillis (written.expiry ttl).millis =
        ⟨(written.expiry ttl).millis * 1000000⟩ :=
      Instant.ofMillis_of_between hnow (by omega)
        (Instant.millis_le_millis Instant.expiry_le_never)
    have habsent (hpast : written.nanos + ttl.nanos ≤ now.nanos) : False := by omega
    rw [if_neg hover, hstored, Instant.remaining]
    simp only [Instant.le_def]
    by_cases hforever : Instant.never.nanos ≤ (written.expiry ttl).millis * 1000000
    · have hreached : Instant.never.nanos ≤ written.nanos + ttl.nanos := by omega
      rw [if_pos hforever]
      refine ⟨fun hpast => (habsent hpast).elim, fun _ => by simp, ?_, ?_⟩
      · intro rest hrest
        obtain rfl := Option.some.inj hrest
        exact iff_of_true rfl hreached
      · intro rest hrest
        cases Option.some.inj hrest
    · have hshort : ¬ Instant.never.nanos ≤ written.nanos + ttl.nanos := by omega
      rw [if_neg hforever]
      refine ⟨fun hpast => (habsent hpast).elim, fun _ => by simp, ?_, ?_⟩
      · intro rest hrest
        obtain rfl := Option.some.inj hrest
        exact iff_of_false (by simp) hshort
      · intro rest hrest
        obtain rfl := Option.some.inj (Option.some.inj hrest)
        simp only [Instant.upTo]
        omega

/-- A key that was written to live forever does so. -/
theorem forever_of_deadline (hnever : now < .never) :
    (if Instant.never.millis ≤ now.millis then none
      else some (now.remaining (.ofMillis Instant.never.millis))) = some none := by
  have hahead : ¬ Instant.never.millis ≤ now.millis := by
    simp only [Instant.lt_def, Instant.millis, Instant.never] at hnever ⊢
    omega
  have hstored : Instant.ofMillis Instant.never.millis = Instant.never := by decide
  have hreached : Instant.never ≤ Instant.never := Int.le_refl _
  rw [if_neg hahead, hstored, Instant.remaining, if_pos hreached]

/-! ## Through the moves of handles -/

variable {τ α : Type} {body : τ → Body α} {s t : Handles τ α}

/-- The move has written a key at a reading of the clock, to live for a span: to the committed
tables, or in a transaction. -/
inductive Writes (key : String) (ttl : Duration) (written : Instant) :
    Event τ α → Standing → Prop where
  | statement {handle : Nat} {op : Operation} {reply : op.Reply} (wrote : Wrote key ttl op reply) :
      Writes key ttl written (.statement handle (.operate written op) reply) .kept
  | within {handle : Nat} {task : τ} {op : Operation} {reply : op.Reply}
      (wrote : Wrote key ttl op reply) :
      Writes key ttl written (.within handle task written op reply) .pending

/-- The key that a move has written, by what it was told. -/
def written? : Event τ α → Option String
  | .statement _ (.operate _ op) reply | .within _ _ _ op reply => op.written? reply
  | _ => none

/-- Has the move written the key? -/
def overwrites (key : String) (e : Event τ α) : Bool := written? e == some key

/-- A move that writes a key gives it its deadline, where the move is seen. -/
theorem Writes.stands {e : Event τ α} {standing : Standing}
    (writes : Writes key ttl written e standing) (w : OneWriter s) (step : Step body s e t)
    (clock : Int) :
    t.database.Stands (Expires key (written.expiry ttl).millis clock) standing := by
  cases writes with
  | @statement _ op reply wrote =>
      obtain ⟨answer, hok⟩ := wrote.eq_ok
      cases step with
      | statement answers =>
          rcases s.database.apply_cases written op with ⟨e, hsame⟩ | ⟨hlock, happlied⟩
          · cases hsame.symm.trans answers
            cases hok
          · cases happlied.symm.trans answers
            exact .kept_of_draft_eq_none (hlock wrote.isWrite) (wrote.expires clock)
  | @within _ _ op reply wrote =>
      obtain ⟨answer, hok⟩ := wrote.eq_ok
      cases step with
      | within running answers =>
          obtain ⟨draft, hd⟩ := w.open_of_running running
          rcases Database.applyInside_cases hd written op with ⟨e, hsame⟩ | ⟨touched, happlied⟩
          · cases hsame.symm.trans answers
            cases hok
          · cases happlied.symm.trans answers
            exact ⟨_, rfl, wrote.expires clock⟩

/-- A move before a reading of the clock that does not write the key keeps its deadline until
then. -/
theorem keeps_expires {e : Event τ α} {deadline : Int} (hwrites : overwrites key e = false)
    (hclock : ∀ r ∈ e.readings, r ≤ now) : e.Keeps (Expires key deadline now.millis) := by
  have hother : written? e ≠ some key := beq_eq_false_iff_ne.mp hwrites
  cases e with
  | statement h q reply =>
      cases q with
      | operate ms op =>
          intro s hreply expires
          refine expires.of_same (Store.apply_scalars_of_written?_ne ?_)
          rw [hreply]
          exact hother
      | log ms call =>
          intro s expires
          exact expires.of_same (by rw [Store.applyLog_scalars])
      | purge call =>
          intro s expires
          cases call with
          | expired ms =>
              have hms : ms ≤ now := hclock ms (by simp [Event.readings])
              exact expires.purgeExpired (Instant.millis_le_millis hms)
          | messages olderThan => exact expires.of_same rfl
  | within h task ms op reply =>
      intro s hreply expires
      refine expires.of_same (Store.apply_scalars_of_written?_ne ?_)
      rw [hreply]
      exact hother
  | begin | nested | finish => exact trivial

/-- A key that has been written to live for a span is there and has as long to live as is left of
the span, up to a millisecond; with an empty span it is there and lives forever. This holds at every
reading of the clock before `Instant.never`, for everybody who sees what was written, until this is
written over or rolled back, unless locks keep him from reading. -/
theorem accurate {d : Database} {before between : List (Event τ α)} {write : Event τ α}
    {standing : Standing} {isInside : Bool} (hwritten : written.isRepresentable = true)
    (hnow : now.isRepresentable = true) (hnever : now < .never)
    (run : Run body (Handles.start d) (before ++ write :: between) t)
    (writes : Writes key ttl written write standing)
    (hclock : ∀ e ∈ between, ∀ r ∈ e.readings, r ≤ now)
    (seen : (between.foldl (Event.leaves (overwrites key)) standing).Seen isInside)
    (hreads : (⟨t.database, now, isInside⟩ : Occasion).Reads .scalars) :
    ∃ held, Told ⟨t.database, now, isInside⟩ key held ∧
      (ttl.isZero = true → held.map Prod.snd = some none) ∧
      (ttl.isZero = false → Accurate written ttl now (held.map Prod.snd)) := by
  obtain ⟨s, first, rest⟩ := Run.split before run
  obtain ⟨next, step, last⟩ := rest.uncons
  have w := first.oneWriter (OneWriter.start d)
  have stands := last.stands (w.step step) (writes.stands w step now.millis)
    fun e he hwrites => keeps_expires hwrites (hclock e he)
  have expires : Expires key (written.expiry ttl).millis now.millis
      (⟨t.database, now, isInside⟩ : Occasion).store := stands.store seen
  refine ⟨_, told_of_reads hreads key, ?_, ?_⟩
  · intro hzero
    rw [expires.held?_eq, Instant.expiry_of_isZero hzero]
    exact forever_of_deadline hnever
  · intro hspan
    rw [expires.held?_eq]
    exact accurate_of_deadline hwritten hnow hnever hspan

/-- A transaction takes a key for two milliseconds, a millisecond and a half before 1970, and a
reaper looks for expired keys once it is committed. -/
def taken : List (Event Unit Bool) :=
  [.begin 0 () (.ok ()),
    .within 0 () ⟨-1500001⟩ (.setNx "lease" "a".toUTF8 ⟨2000000⟩) (.ok true),
    .finish 0 () (.ok true),
    .statement 1 (.purge (.expired ⟨-500001⟩)) (.ok 0)]

theorem accurate_taken : ∃ final,
    Run (fun _ => Body.call (.setNx "lease" "a".toUTF8 ⟨2000000⟩)) (Handles.start (.empty .file))
      taken final ∧
    (∃ rest, (⟨final.database, ⟨-500001⟩, false⟩ : Occasion).ask (.ttl "lease") = .ok (some rest) ∧
      0 < rest.nanos ∧ rest.nanos ≤ 1000000) ∧
    (⟨final.database, ⟨499999⟩, false⟩ : Occasion).ask (.getBytes "lease") = .error .notFound := by
  let op : Operation := .setNx "lease" "a".toUTF8 ⟨2000000⟩
  let body : Unit → Body Bool := fun _ => Body.call op
  let d₀ : Database := .empty .file
  let d₁ := d₀.begin.2
  let d₂ := (d₁.applyInside ⟨-1500001⟩ op).2
  let s₁ : Handles Unit Bool :=
    ⟨d₁, Function.update (fun _ => none) 0 (some ((), (body ()).run))⟩
  let s₂ : Handles Unit Bool :=
    ⟨d₂, Function.update s₁.running 0 (some ((), .done (.ok true)))⟩
  let s₃ : Handles Unit Bool := ⟨d₂.commit, Function.update s₂.running 0 none⟩
  let d₄ := (d₂.commit.execute (.purge (.expired ⟨-500001⟩))).2
  let s₄ : Handles Unit Bool := ⟨d₄, s₃.running⟩
  have begins : Step body (Handles.start d₀) (.begin 0 () (.ok ())) s₁ :=
    .begun rfl (by decide) rfl
  have takes : Step body s₁ (.within 0 () ⟨-1500001⟩ op (.ok true)) s₂ := .within rfl rfl
  have commits : Step body s₂ (.finish 0 () (.ok true)) s₃ := .finish rfl rfl
  have reaps : Step body s₃ (.statement 1 (.purge (.expired ⟨-500001⟩)) (.ok 0)) s₄ :=
    .statement (Prod.ext (by decide +kernel) rfl)
  have run : Run body (Handles.start d₀) ([.begin 0 () (.ok ())] ++
      .within 0 () ⟨-1500001⟩ op (.ok true) :: taken.drop 2) s₄ :=
    .cons begins (.cons takes (.cons commits (.single reaps)))
  have hreads (now : Instant) : (⟨s₄.database, now, false⟩ : Occasion).Reads .scalars :=
    Occasion.reads_of_file rfl .scalars
  have told (now : Instant) (hnow : now.isRepresentable = true) (hnever : now < .never)
      (hlate : (⟨-500001⟩ : Instant) ≤ now) :=
    accurate (by decide) hnow hnever run (.within (.setNx "a".toUTF8))
      (by simp [taken, Event.readings, hlate]) trivial (hreads now)
  refine ⟨s₄, run, ?_, ?_⟩
  · obtain ⟨held, htold, -, haccurate⟩ := told ⟨-500001⟩ (by decide) (by decide) (by decide)
    obtain ⟨-, hpresent, hforever, hclose⟩ := haccurate rfl
    obtain ⟨rest, hrest⟩ := Option.ne_none_iff_exists'.mp (hpresent (by decide))
    obtain ⟨span, rfl⟩ := Option.ne_none_iff_exists'.mp
      (mt (hforever rest hrest).mp (by decide))
    obtain ⟨hpositive, hbound, -⟩ := hclose span hrest
    have hmillisecond : (span.nanos : Int) ≤ 1000000 := by simpa using hbound
    refine ⟨span, ?_, hpositive, by omega⟩
    rw [htold.ttl, hrest]
    rfl
  · obtain ⟨held, htold, -, haccurate⟩ := told ⟨499999⟩ (by decide) (by decide) (by decide)
    have habsent := (haccurate rfl).absent (by decide)
    rw [Option.map_eq_none_iff] at habsent
    rw [htold.bytes, habsent]
    rfl

end Lifetime

end SqlCache
