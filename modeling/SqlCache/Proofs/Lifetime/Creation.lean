import SqlCache.Proofs.Handles.Replay
import SqlCache.Proofs.Time.Expiry
import Mathlib.Data.List.Basic
import Mathlib.Data.List.Induction

/-!
When a key was created. The present life of a key begins with the write that found it absent and
after which it has been there ever since (`Life`). The row of a key is dated from this write, unless
that was a `set` which found the expired row of an earlier life: this row keeps its date, whereas
`setNx` brings a new one (`creation`). So the date depends on whether a reaper has removed the
expired row in the meantime.

The main result is `created_with_life`, for any handles that work on a database at the same time.
-/

set_option autoImplicit false

namespace SqlCache

open Std

open Handles (Event Run history)

namespace Lifetime

variable {key : String} {base s : Store} {q : Statement} {now : Instant} {op : Operation}

/-- The operation makes a key present that it finds absent. -/
inductive Enters (key : String) : Operation → Prop where
  | set (value : ByteArray) (ttl : Duration) : Enters key (.set key value ttl)
  | setNx (value : ByteArray) (ttl : Duration) : Enters key (.setNx key value ttl)

/-- The date that a key has once it is written: a `set` leaves the date of a row that is there, be
it live or not, and otherwise the key is dated from the write. -/
def creation (s : Store) (key : String) (now : Instant) : Operation → Int
  | .set .. => ((s.scalars[key]?).map ScalarRow.createdAt).getD now.millis
  | _ => now.millis

/-- A key that is written is dated from the write, or has the date of a row that is there. -/
theorem creation_cases (s : Store) (key : String) (now : Instant) (op : Operation) :
    creation s key now op = now.millis ∨
      ∃ old, s.scalars[key]? = some old ∧ creation s key now op = old.createdAt := by
  cases op with
  | set other value ttl =>
      cases hold : s.scalars[key]? with
      | none => exact Or.inl (by simp [creation, hold])
      | some old => exact Or.inr ⟨old, rfl, by simp [creation, hold]⟩
  | getBytes | delete | count | setField | getField | deleteField | getFields | scan | setNx
  | expire | ttl | lock | publish => exact Or.inl rfl

/-! ## One statement -/

theorem apply_set_scalars (s : Store) (key : String) (value : ByteArray) (ttl : Duration)
    (now : Instant) : (s.apply now (.set key value ttl)).2.scalars[key]? =
      some ⟨value, (now.expiry ttl).millis, creation s key now (.set key value ttl),
        now.millis⟩ := by
  simp [Store.apply, Store.set, creation]

theorem apply_setNx_scalars (s : Store) (key : String) (value : ByteArray) (ttl : Duration)
    (now : Instant) : (s.apply now (.setNx key value ttl)).2.scalars[key]? =
      ((s.live? now.millis key).getD ⟨value, (now.expiry ttl).millis, now.millis, now.millis⟩) := by
  cases hlive : s.live? now.millis key with
  | none => simp [Store.apply, Store.setNx, hlive]
  | some row =>
      have hstored := Store.live?_eq_scalars (by rw [hlive]; rfl)
      simp [Store.apply, Store.setNx, hlive, ← hstored]

/-- A live row is stored. -/
theorem of_live {ms : Int} {row : ScalarRow} (hlive : s.live? ms key = some row) :
    s.scalars[key]? = some row ∧ row.isLive ms = true :=
  Option.filter_eq_some_iff.mp hlive

/-- An operation gives a key that is absent a new life, or the key has kept the date of a row that
was there before, and this was live if it has got another expiry. -/
theorem row_of_apply {row : ScalarRow} (hrow : (s.apply now op).2.scalars[key]? = some row) :
    (Enters key op ∧ s.live? now.millis key = none ∧ row.createdAt = creation s key now op) ∨
    ∃ old, s.scalars[key]? = some old ∧ old.createdAt = row.createdAt ∧
      (old.isLive now.millis = true ∨ old = row) := by
  by_cases hkey : op.writtenKey? = some key
  · cases op with
    | set other value ttl =>
        cases hkey
        rw [apply_set_scalars] at hrow
        cases hrow
        cases hlive : s.live? now.millis key with
        | none => exact Or.inl ⟨.set value ttl, rfl, rfl⟩
        | some old =>
            obtain ⟨hold, hliving⟩ := of_live hlive
            exact Or.inr ⟨old, hold, by simp [creation, hold], Or.inl hliving⟩
    | setNx other value ttl =>
        cases hkey
        rw [apply_setNx_scalars] at hrow
        cases hrow
        cases hlive : s.live? now.millis key with
        | none => exact Or.inl ⟨.setNx value ttl, rfl, rfl⟩
        | some old =>
            obtain ⟨hold, hliving⟩ := of_live hlive
            exact Or.inr ⟨old, hold, rfl, Or.inl hliving⟩
    | delete other =>
        cases hkey
        simp [Store.apply, Store.delete] at hrow
    | expire other ttl =>
        cases hkey
        cases hlive : s.live? now.millis key with
        | none =>
            simp only [Store.apply, Store.expire, hlive] at hrow
            exact Or.inr ⟨row, hrow, rfl, Or.inr rfl⟩
        | some old =>
            obtain ⟨hold, hliving⟩ := of_live hlive
            simp only [Store.apply, Store.expire, hlive, ExtTreeMap.getElem?_insert_self] at hrow
            cases hrow
            exact Or.inr ⟨old, hold, rfl, Or.inl hliving⟩
    | getBytes | count | setField | getField | deleteField | getFields | scan | ttl | lock
    | publish => cases hkey
  · rw [Store.apply_scalars_of_writtenKey?_ne hkey] at hrow
    exact Or.inr ⟨row, hrow, rfl, Or.inr rfl⟩

/-- A statement gives a key that is absent a new life, or the key has kept the date of a row that
was there before, and this was live if it has got another expiry. -/
theorem row_of_effect {row : ScalarRow} (hrow : (q.effect s).scalars[key]? = some row) :
    (∃ now op, q = .operate now op ∧ Enters key op ∧ s.live? now.millis key = none ∧
      row.createdAt = creation s key now op) ∨
    ∃ old, s.scalars[key]? = some old ∧ old.createdAt = row.createdAt ∧
      ((∃ now ∈ q.reading?, old.isLive now.millis = true) ∨ old = row) := by
  cases q with
  | operate now op =>
      rcases row_of_apply hrow with ⟨enters, hdead, hdate⟩ | ⟨old, hold, hdate, hliving⟩
      · exact Or.inl ⟨now, op, rfl, enters, hdead, hdate⟩
      · exact Or.inr ⟨old, hold, hdate, hliving.imp_left fun hlive => ⟨now, rfl, hlive⟩⟩
  | log now call =>
      rw [Statement.effect, Store.applyLog_scalars] at hrow
      exact Or.inr ⟨row, hrow, rfl, Or.inr rfl⟩
  | purge call =>
      cases call with
      | expired now =>
          have hlive : s.live? now.millis key = some row := by
            rw [← Store.purgeExpired_scalars]
            exact hrow
          exact Or.inr ⟨row, (of_live hlive).1, rfl, Or.inr rfl⟩
      | messages olderThan => exact Or.inr ⟨row, hrow, rfl, Or.inr rfl⟩

/-- A key that is live after a statement has got a new life from it, or the statement found it live
with the same date. -/
theorem live_of_effect {ms : Int} (hms : ∀ now ∈ q.reading?, now.millis ≤ ms) {row : ScalarRow}
    (hlive : (q.effect s).live? ms key = some row) :
    (∃ now op, q = .operate now op ∧ Enters key op ∧ s.live? now.millis key = none ∧
      row.createdAt = creation s key now op) ∨
    ∃ old, s.live? ((q.reading?.map Instant.millis).getD ms) key = some old ∧
      old.createdAt = row.createdAt := by
  obtain ⟨hrow, hliving⟩ := of_live hlive
  refine (row_of_effect hrow).imp_right ?_
  rintro ⟨old, hold, hdate, hkept⟩
  refine ⟨old, Option.filter_eq_some_iff.mpr ⟨hold, ?_⟩, hdate⟩
  rcases hkept with ⟨now, hnow, hlive'⟩ | rfl
  · rw [Option.mem_def.mp hnow]
    exact hlive'
  · refine ScalarRow.isLive_of_le hliving ?_
    cases hreading : q.reading? with
    | none => exact Int.le_refl ms
    | some now => exact hms now hreading

/-! ## A history -/

/-- The present life of a key in a history: an operation finds the key absent and makes it present,
and the key is live whenever anything is done later. -/
structure Life (key : String) (base : Store) (history before : List Statement) (made : Instant)
    (op : Operation) (later : List Statement) : Prop where
  splits : history = before ++ .operate made op :: later
  enters : Enters key op
  absent : (base.replay before).live? made.millis key = none
  present : ∀ middle q rest, later = middle ++ q :: rest → ∀ now ∈ q.reading?,
    (base.replay (before ++ .operate made op :: middle)).live? now.millis key ≠ none

namespace Life

variable {history before later : List Statement} {made : Instant}

/-- A life goes on with a statement that finds the key live. -/
theorem concat (life : Life key base history before made op later)
    (hlive : ∀ now ∈ q.reading?, (base.replay history).live? now.millis key ≠ none) :
    Life key base (history ++ [q]) before made op (later ++ [q]) where
  splits := by rw [life.splits, List.append_assoc, List.cons_append]
  enters := life.enters
  absent := life.absent
  present middle p rest hlater now hnow := by
    rcases List.eq_nil_or_concat' rest with rfl | ⟨rest, last, rfl⟩
    · obtain ⟨rfl, hlast⟩ := List.append_inj' hlater rfl
      obtain rfl := List.singleton_inj.mp hlast
      rw [← life.splits]
      exact hlive now hnow
    · rw [← List.cons_append, ← List.append_assoc] at hlater
      exact life.present middle p rest (List.append_inj' hlater rfl).1 now hnow

/-- No life begins after another one of the same history. -/
theorem eq_nil_of_before_append {middle later' : List Statement} {made' : Instant}
    {op' : Operation} (life : Life key base history before made op later)
    (other : Life key base history (before ++ middle) made' op' later') : middle = [] := by
  cases middle with
  | nil => rfl
  | cons first middle =>
      have hsplits := life.splits.symm.trans other.splits
      rw [List.append_assoc, List.cons_append] at hsplits
      obtain ⟨rfl, hlater⟩ := List.cons.inj (List.append_cancel_left hsplits)
      exact absurd other.absent (life.present middle (.operate made' op') later' hlater made' rfl)

/-- A key has one present life. -/
theorem unique {before' later' : List Statement} {made' : Instant} {op' : Operation}
    (life : Life key base history before made op later)
    (other : Life key base history before' made' op' later') :
    before' = before ∧ made' = made ∧ op' = op := by
  have hsplits := life.splits.symm.trans other.splits
  have hbefore : before' = before := by
    rcases List.append_eq_append_iff.mp hsplits with ⟨middle, rfl, -⟩ | ⟨middle, rfl, -⟩
    · rw [life.eq_nil_of_before_append other, List.append_nil]
    · rw [other.eq_nil_of_before_append life, List.append_nil]
  subst hbefore
  obtain ⟨hbirth, -⟩ := List.cons.inj (List.append_cancel_left hsplits)
  cases hbirth
  exact ⟨rfl, rfl, rfl⟩

end Life

/-- A live key has a present life, and its row has the date that the first write of this life gave
it or left it. -/
theorem exists_life {history : List Statement} (hfresh : base.scalars[key]? = none)
    (hclock : (history.filterMap Statement.reading?).Pairwise (· ≤ ·)) {ms : Int}
    (hms : ∀ now ∈ history.filterMap Statement.reading?, now.millis ≤ ms) {row : ScalarRow}
    (hlive : (base.replay history).live? ms key = some row) :
    ∃ before made op later, Life key base history before made op later ∧
      row.createdAt = creation (base.replay before) key made op := by
  induction history using List.reverseRecOn generalizing ms row with
  | nil => exact absurd (hfresh.symm.trans (of_live hlive).1) (by simp)
  | append_singleton history q ih =>
      rw [Store.replay_append] at hlive
      rw [List.filterMap_append, List.pairwise_append] at hclock
      obtain ⟨hclock, -, hlast⟩ := hclock
      have hmsLast : ∀ now ∈ q.reading?, now.millis ≤ ms :=
        fun now hnow => hms now (List.mem_filterMap.mpr ⟨q, by simp, hnow⟩)
      rcases live_of_effect hmsLast hlive with ⟨made, op, rfl, enters, habsent, hdate⟩ |
          ⟨old, hold, hdate⟩
      · refine ⟨history, made, op, [], ⟨rfl, enters, habsent, ?_⟩, hdate⟩
        intro middle p rest hnil
        exact absurd hnil (by simp)
      · have hbefore : ∀ now ∈ history.filterMap Statement.reading?,
            now.millis ≤ (q.reading?.map Instant.millis).getD ms := by
          intro now hnow
          cases hreading : q.reading? with
          | none => exact hms now (by rw [List.filterMap_append]; exact List.mem_append_left _ hnow)
          | some reading =>
              exact Instant.millis_le_millis (hlast now hnow reading (by simp [hreading]))
        obtain ⟨before, made, op, later, life, hcreation⟩ := ih hclock hbefore hold
        refine ⟨before, made, op, later ++ [q], life.concat ?_, hdate.symm.trans hcreation⟩
        intro now hnow habsent
        rw [Option.mem_def.mp hnow] at hold
        exact absurd (habsent.symm.trans hold) (by simp)

/-- A row is dated from a reading of the clock. -/
theorem exists_reading_of_createdAt {history : List Statement} (hfresh : base.scalars[key]? = none)
    {row : ScalarRow} (hrow : (base.replay history).scalars[key]? = some row) :
    ∃ now ∈ history.filterMap Statement.reading?, row.createdAt = now.millis := by
  induction history using List.reverseRecOn generalizing row with
  | nil => exact absurd (hfresh.symm.trans hrow) (by simp)
  | append_singleton history q ih =>
      rw [Store.replay_append] at hrow
      rcases row_of_effect hrow with ⟨made, op, rfl, enters, -, hdate⟩ | ⟨old, hold, hdate, -⟩
      · rcases creation_cases (base.replay history) key made op with hmade | ⟨old, hold, hold'⟩
        · exact ⟨made, by simp [Statement.reading?], hdate.trans hmade⟩
        · obtain ⟨now, hnow, hcreated⟩ := ih hold
          exact ⟨now, by simp [hnow], hdate.trans (hold'.trans hcreated)⟩
      · obtain ⟨now, hnow, hcreated⟩ := ih hold
        exact ⟨now, by simp [hnow], hdate.symm.trans hcreated⟩

/-- No key is dated from after the first write of its life. -/
theorem Life.creation_le {history before later : List Statement} {made : Instant}
    (hfresh : base.scalars[key]? = none)
    (hclock : (history.filterMap Statement.reading?).Pairwise (· ≤ ·))
    (life : Life key base history before made op later) :
    creation (base.replay before) key made op ≤ made.millis := by
  rw [life.splits, List.filterMap_append, List.pairwise_append] at hclock
  rcases creation_cases (base.replay before) key made op with hmade | ⟨old, hold, hdate⟩
  · exact Int.le_of_eq hmade
  · obtain ⟨now, hnow, hcreated⟩ := exists_reading_of_createdAt hfresh hold
    rw [hdate, hcreated]
    exact Instant.millis_le_millis (hclock.2.2 now hnow made (by simp [Statement.reading?]))

/-! ## A purge before the write -/

/-- Where `set` finds an expired row of another date, and only there, its row depends on whether
that one has been purged. -/
theorem set_purgeExpired (s : Store) (key : String) (value : ByteArray) (ttl : Duration)
    (purged now : Instant) :
    ((s.purgeExpired purged.millis).2.apply now (.set key value ttl)).2.scalars[key]? =
        (s.apply now (.set key value ttl)).2.scalars[key]? ↔
      ∀ old, s.scalars[key]? = some old → old.isLive purged.millis = false →
        old.createdAt = now.millis := by
  have hrows : ((s.purgeExpired purged.millis).2.apply now (.set key value ttl)).2.scalars[key]? =
        (s.apply now (.set key value ttl)).2.scalars[key]? ↔
      ((s.live? purged.millis key).map ScalarRow.createdAt).getD now.millis =
        ((s.scalars[key]?).map ScalarRow.createdAt).getD now.millis := by
    rw [apply_set_scalars, apply_set_scalars, ← Store.purgeExpired_scalars]
    simp [creation]
  rw [hrows, Store.live?]
  cases hold : s.scalars[key]? with
  | none => simp
  | some old =>
      rw [Option.filter_some]
      cases hlive : old.isLive purged.millis with
      | true => simp [hlive]
      | false => simp [hlive, @eq_comm _ now.millis]

theorem setNx_purgeExpired {purged now : Instant} (hle : purged ≤ now) (s : Store) (key : String)
    (value : ByteArray) (ttl : Duration) :
    ((s.purgeExpired purged.millis).2.apply now (.setNx key value ttl)).2.scalars[key]? =
      (s.apply now (.setNx key value ttl)).2.scalars[key]? := by
  rw [apply_setNx_scalars, apply_setNx_scalars,
    Store.live?_purgeExpired (Instant.millis_le_millis hle)]

/-! ## Runs -/

/-- Whatever handles have done to a key that was not there when they started: when the key is live
it has one present life, and its row is dated from the write that this life began with; unless that
was a `set` which found the expired row of an earlier life, whose date the row has kept. For writes
at that moment it makes no difference whether a reaper has purged the expired keys before, except to
a `set` that finds such a row with another date. -/
theorem created_with_life {τ α : Type} {body : τ → Body α} {d : Database}
    {events : List (Event τ α)} {final : Handles τ α} {isInside : Bool} {tables : Store}
    (hidle : d.draft = none) (hfresh : d.committed.scalars[key]? = none)
    (run : Run body (Handles.start d) events final)
    (hclock : (events.flatMap Event.readings ++ [now]).Pairwise (· ≤ ·))
    (hsees : (⟨final.database, now, isInside⟩ : Occasion).store = tables) :
    (∀ row, tables.live? now.millis key = some row →
      (∃ before made op later,
        Life key d.committed ((history events).seen isInside) before made op later) ∧
      ∀ before made op later,
        Life key d.committed ((history events).seen isInside) before made op later →
        row.createdAt = creation (d.committed.replay before) key made op ∧
          row.createdAt ≤ made.millis) ∧
    ∀ (purged : Instant) (value : ByteArray) (ttl : Duration), purged ≤ now →
      ((tables.purgeExpired purged.millis).2.apply now (.setNx key value ttl)).2.scalars[key]? =
          (tables.apply now (.setNx key value ttl)).2.scalars[key]? ∧
        (((tables.purgeExpired purged.millis).2.apply now (.set key value ttl)).2.scalars[key]? =
            (tables.apply now (.set key value ttl)).2.scalars[key]? ↔
          ∀ old, tables.scalars[key]? = some old → old.isLive purged.millis = false →
            old.createdAt = now.millis) := by
  refine ⟨?_, fun purged value ttl hle =>
    ⟨setNx_purgeExpired hle tables key value ttl, set_purgeExpired tables key value ttl purged now⟩⟩
  intro row hlive
  have replays := run.replays hidle
  rw [← hsees, replays.store] at hlive
  obtain ⟨hordered, -, hlast⟩ := List.pairwise_append.mp hclock
  have hreadings := replays.readings_seen isInside
  have hseen := hordered.sublist hreadings
  have hms : ∀ reading ∈ ((history events).seen isInside).filterMap Statement.reading?,
      reading.millis ≤ now.millis := fun reading hreading =>
    Instant.millis_le_millis (hlast reading (hreadings.subset hreading) now List.mem_cons_self)
  obtain ⟨before, made, op, later, life, hdate⟩ := exists_life hfresh hseen hms hlive
  refine ⟨⟨before, made, op, later, life⟩, fun before' made' op' later' other => ?_⟩
  obtain ⟨rfl, rfl, rfl⟩ := life.unique other
  exact ⟨hdate, hdate ▸ life.creation_le hfresh hseen⟩

/-- A key is written to live for a millisecond. -/
def placed : Event Unit Unit :=
  .statement 0 (.operate ⟨0⟩ (.set "k" "a".toUTF8 ⟨1000000⟩)) (.ok ())

/-- When the key has expired it is written anew by `setNx`. -/
def renewed : List (Event Unit Unit) :=
  [placed, .statement 0 (.operate ⟨2000000⟩ (.setNx "k" "b".toUTF8 .zero)) (.ok true)]

theorem created_with_life_renewed : ∃ final,
    Run (fun _ => pure ()) (Handles.start (.empty .file)) renewed final ∧
    ∃ row, final.database.committed.live? 2 "k" = some row ∧ row.createdAt = 2 := by
  let d₀ : Database := .empty .file
  let d₁ := (d₀.execute (.operate ⟨0⟩ (.set "k" "a".toUTF8 ⟨1000000⟩))).2
  let d₂ := (d₁.execute (.operate ⟨2000000⟩ (.setNx "k" "b".toUTF8 .zero))).2
  have run : Run (fun _ => pure ()) (Handles.start d₀) renewed (Handles.start d₂) :=
    .cons (.statement rfl) (.single (.statement (Prod.ext (by decide +kernel) rfl)))
  have life : Life "k" d₀.committed ((history renewed).seen false)
      [.operate ⟨0⟩ (.set "k" "a".toUTF8 ⟨1000000⟩)] ⟨2000000⟩
      (.setNx "k" "b".toUTF8 .zero) [] :=
    ⟨rfl, .setNx _ _, by decide +kernel, by simp⟩
  obtain ⟨row, hlive⟩ : ∃ row, d₂.committed.live? 2 "k" = some row :=
    Option.isSome_iff_exists.mp (by decide +kernel)
  have hsees : (⟨d₂, ⟨2000000⟩, false⟩ : Occasion).store = d₂.committed := rfl
  obtain ⟨hlives, -⟩ := created_with_life rfl rfl run (by decide) hsees
  obtain ⟨hdate, -⟩ := (hlives row hlive).2 _ _ _ _ life
  exact ⟨_, run, row, hlive, hdate⟩

/-- When the key has expired it is written anew by `set`. -/
def overwritten : List (Event Unit Unit) :=
  [placed, .statement 0 (.operate ⟨2000000⟩ (.set "k" "b".toUTF8 .zero)) (.ok ())]

/-- The same, but a reaper has removed the expired row before. -/
def reaped : List (Event Unit Unit) :=
  [placed, .statement 1 (.purge (.expired ⟨2000000⟩)) (.ok 1),
    .statement 0 (.operate ⟨2000000⟩ (.set "k" "b".toUTF8 .zero)) (.ok ())]

/-- A key that was absent and is written at millisecond 2 is dated from millisecond 0, when an
earlier life of it began; if a reaper has passed in between it is dated from millisecond 2. -/
theorem overwritten_keeps_date : ∃ final finalReaped,
    Run (fun _ => pure ()) (Handles.start (.empty .file)) overwritten final ∧
    Run (fun _ => pure ()) (Handles.start (.empty .file)) reaped finalReaped ∧
    Life "k" .empty ((history overwritten).seen false)
      [.operate ⟨0⟩ (.set "k" "a".toUTF8 ⟨1000000⟩)] ⟨2000000⟩ (.set "k" "b".toUTF8 .zero) [] ∧
    (final.database.committed.live? 2 "k").map ScalarRow.createdAt = some 0 ∧
    (finalReaped.database.committed.live? 2 "k").map ScalarRow.createdAt = some 2 := by
  let d₀ : Database := .empty .file
  let d₁ := (d₀.execute (.operate ⟨0⟩ (.set "k" "a".toUTF8 ⟨1000000⟩))).2
  let d₂ := (d₁.execute (.purge (.expired ⟨2000000⟩))).2
  let again : Statement := .operate ⟨2000000⟩ (.set "k" "b".toUTF8 .zero)
  refine ⟨Handles.start (d₁.execute again).2, Handles.start (d₂.execute again).2,
    ?_, ?_, ?_, ?_, ?_⟩
  · exact .cons (.statement rfl) (.single (.statement rfl))
  · exact .cons (.statement rfl) (.cons (.statement (Prod.ext (by decide +kernel) rfl))
      (.single (.statement rfl)))
  · exact ⟨rfl, .set _ _, by decide +kernel, by simp⟩
  · decide +kernel
  · decide +kernel

end Lifetime

end SqlCache
