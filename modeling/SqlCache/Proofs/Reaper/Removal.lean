import Mathlib.Data.List.Basic
import SqlCache.Proofs.Database.Alone
import SqlCache.Proofs.Reaper.Cutoff
import SqlCache.Proofs.Store.Messages

/-!
What a pass of the reaper removes. A key goes exactly if it is absent to every reader at the clock
of the pass, and a message exactly if the millisecond it was published in lies before that of the
cutoff. Both milliseconds are rounded down apart from each other, so a message may outlast its
retention, by less than a millisecond, but never falls short of it. Main result: `removes_exactly`.
-/

set_option autoImplicit false

namespace SqlCache

open Std

/-! ## Tables that lose rows -/

/-- The rows of a table whose keys a later state of it does not have. -/
def rowsGone {κ ρ : Type} {cmp : κ → κ → Ordering} [TransCmp cmp]
    (before after : ExtTreeMap κ ρ cmp) : ExtTreeMap κ ρ cmp :=
  before.filter fun key _ => !after.contains key

section Filter

variable {κ ρ : Type} {cmp : κ → κ → Ordering} [TransCmp cmp] [LawfulEqCmp cmp]
  (rows : ExtTreeMap κ ρ cmp) (keep : κ → ρ → Bool)

theorem rowsGone_filter :
    rowsGone rows (rows.filter keep) = rows.filter fun key row => !keep key row := by
  refine ExtTreeMap.ext_getElem? fun key => ?_
  rw [rowsGone, ExtTreeMap.getElem?_filter', ExtTreeMap.getElem?_filter',
    ExtTreeMap.contains_eq_isSome_getElem?, ExtTreeMap.getElem?_filter']
  cases rows[key]? with
  | none => rfl
  | some row =>
      cases hkeep : keep key row with
      | true => simp [Option.filter_some, hkeep]
      | false => simp [Option.filter_some, hkeep]

/-- What is removed is counted by what the table has less. -/
theorem size_rowsGone_filter :
    (rowsGone rows (rows.filter keep)).size = rows.size - (rows.filter keep).size := by
  have hsplit := List.length_eq_length_filter_add (l := rows.toList) fun r => keep r.1 r.2
  rw [rowsGone_filter, ← ExtTreeMap.length_toList, ← ExtTreeMap.length_toList,
    ← ExtTreeMap.length_toList, ExtTreeMap.toList_filter, ExtTreeMap.toList_filter]
  omega

theorem filter_filter_self : (rows.filter keep).filter keep = rows.filter keep := by
  refine ExtTreeMap.ext_getElem? fun key => ?_
  rw [ExtTreeMap.getElem?_filter', ExtTreeMap.getElem?_filter', Option.filter_filter]
  simp only [Bool.and_self]

/-- A table that loses nothing. -/
theorem size_rowsGone_self : (rowsGone rows rows).size = 0 := by
  have hsame : rows.filter (fun _ _ => true) = rows := ExtTreeMap.filter_eq_self_iff.mpr (by simp)
  have hgone := size_rowsGone_filter rows fun _ _ => true
  rw [hsame] at hgone
  omega

end Filter

theorem Instant.eq_of_sub?_eq_some {now t : Instant} {d : Duration} (h : now.sub? d = some t) :
    t = ⟨now.nanos - d.nanos⟩ := by
  simp only [sub?, Option.ite_none_right_eq_some, Option.some.injEq] at h
  exact h.2.symm

/-! ## Purges of a database -/

namespace Database

variable {d : Database}

/-- A purge of a database that nobody else writes to does to the tables what it does to any. -/
theorem applyPurge_of_idle (hidle : d.draft = none) (hwritable : d.isReadOnly = false)
    (call : Reaper.PurgeCall) :
    d.applyPurge call =
      ((d.committed.applyPurge call).1,
        { d with committed := (d.committed.applyPurge call).2 }) := by
  simp [applyPurge, direct, writeFault?, hwritable, conflict?, hidle]

/-- A purge is refused while a transaction is open, and on a database that can only be read. -/
theorem applyPurge_of_refused (h : d.draft ≠ none ∨ d.isReadOnly = true)
    (call : Reaper.PurgeCall) : ∃ fault, d.applyPurge call = (.error (.store fault), d) := by
  unfold applyPurge direct
  cases hfault : d.writeFault? true <|> d.conflict? true (some call.table) with
  | some fault => exact ⟨fault, rfl⟩
  | none =>
      exfalso
      cases hro : d.isReadOnly with
      | true => simp [writeFault?, hro] at hfault
      | false =>
          cases hd : d.draft with
          | none => simp [hd, hro] at h
          | some draft => simp [writeFault?, hro, conflict?, hd] at hfault

end Database

namespace Reaper

variable {now cutoff : Instant} {retention : Duration} {d : Database}

/-! ## A pass that nobody stands in the way of -/

/-- The tables after a pass: what has expired is removed and, unless messages are kept for ever,
the messages of before the cutoff. -/
def swept (now : Instant) (retention : Duration) (cutoff : Instant) (s : Store) : Store :=
  { s with
    scalars := s.scalars.filter fun _ row => row.isLive now.millis
    messages := s.messages.filter fun _ row =>
      retention.isZero || decide (cutoff.millis ≤ row.createdAt) }

theorem swept_swept (s : Store) :
    swept now retention cutoff (swept now retention cutoff s) = swept now retention cutoff s := by
  simp only [swept, filter_filter_self]

/-- The messages part of a pass whose cutoff is an instant. -/
theorem purgeMessages_of_cutoff (hcutoff : now.sub? retention = some cutoff) :
    purgeMessages now retention =
      if retention.isZero then pure 0 else purge (.messages cutoff) := by
  have hadd : retention.isAddable = true := by
    simp only [Instant.sub?, Option.ite_none_right_eq_some, Bool.and_eq_true] at hcutoff
    exact hcutoff.1.1
  cases hzero : retention.isZero <;> simp [purgeMessages, hzero, hadd, hcutoff]

/-- Where messages are kept for ever, only what has expired is removed. -/
theorem swept_of_isZero (hzero : retention.isZero = true) (s : Store) :
    swept now retention cutoff s = (s.purgeExpired now.millis).2 := by
  have hkept : (s.messages.filter fun _ row =>
      retention.isZero || decide (cutoff.millis ≤ row.createdAt)) = s.messages := by
    rw [ExtTreeMap.filter_eq_self_iff, hzero]
    simp
  rw [swept, hkept]
  rfl

theorem swept_of_isZero_eq_false (hzero : retention.isZero = false) (s : Store) :
    swept now retention cutoff s =
      ((s.purgeExpired now.millis).2.purgeMessages cutoff.millis).2 := by
  rw [swept, hzero]
  rfl

/-- A pass over a database that nobody else writes to removes what it should, and counts it. -/
theorem reap_of_idle (hidle : d.draft = none) (hwritable : d.isReadOnly = false)
    (hcutoff : now.sub? retention = some cutoff) :
    let after := swept now retention cutoff d.committed
    Database.backend.reap now retention d =
      (.ok ⟨(rowsGone d.committed.scalars after.scalars).size,
        (rowsGone d.committed.messages after.messages).size⟩, { d with committed := after }) := by
  intro after
  have hexpired := Database.applyPurge_of_idle hidle hwritable (.expired now)
  have hcount := size_rowsGone_filter d.committed.scalars fun _ row => row.isLive now.millis
  rw [Backend.reap, run_pass_of_ok hexpired, purgeMessages_of_cutoff hcutoff]
  cases hzero : retention.isZero with
  | true =>
      have hafter : after = (d.committed.purgeExpired now.millis).2 := swept_of_isZero hzero _
      have hmessages : after.messages = d.committed.messages := by rw [hafter]; rfl
      have hscalars : (rowsGone d.committed.scalars after.scalars).size =
          (d.committed.purgeExpired now.millis).1 := by
        rw [hafter]
        exact hcount
      rw [hscalars, hmessages, size_rowsGone_self, hafter]
      rfl
  | false =>
      have hafter : after =
          ((d.committed.purgeExpired now.millis).2.purgeMessages cutoff.millis).2 :=
        swept_of_isZero_eq_false hzero _
      have hscalars : (rowsGone d.committed.scalars after.scalars).size =
          (d.committed.purgeExpired now.millis).1 := by
        rw [hafter]
        exact hcount
      have hmessages : (rowsGone d.committed.messages after.messages).size =
          ((d.committed.purgeExpired now.millis).2.purgeMessages cutoff.millis).1 := by
        rw [hafter]
        exact size_rowsGone_filter d.committed.messages _
      let unexpired : Database := { d with committed := (d.committed.purgeExpired now.millis).2 }
      have hpurged : Database.backend.purge (.messages cutoff) unexpired =
          (.ok (unexpired.committed.purgeMessages cutoff.millis).1, { unexpired with
            committed := (unexpired.committed.purgeMessages cutoff.millis).2 }) :=
        Database.applyPurge_of_idle (d := unexpired) hidle hwritable _
      have hrun := run_purge_of_ok hpurged
      rw [hscalars, hmessages, hafter, if_neg (by simp)]
      exact congrArg (fun outcome : Except Failure Nat × Database =>
        (outcome.1.map (Stats.mk (d.committed.purgeExpired now.millis).1), outcome.2)) hrun

/-- A pass is refused as a whole while somebody else writes, and changes nothing. -/
theorem reap_of_refused (h : d.draft ≠ none ∨ d.isReadOnly = true) :
    ∃ fault, Database.backend.reap now retention d = (.error (.store (.store fault)), d) := by
  obtain ⟨fault, hfault⟩ := Database.applyPurge_of_refused h (.expired now)
  exact ⟨fault, run_pass_of_error hfault⟩

/-! ## What is removed -/

/-- The row of a key stays if whoever asks for its bytes, at the clock of the pass, gets them. -/
theorem swept_scalars (hidle : d.draft = none) (key : String) :
    (swept now retention cutoff d.committed).scalars[key]? =
      if (Database.backend.operate now (.getBytes key) d).1.isOk then d.committed.scalars[key]?
      else none := by
  have hbytes : (Database.backend.operate now (.getBytes key) d).1 =
      (d.committed.apply now (.getBytes key)).1 :=
    congrArg Prod.fst (Database.apply_of_reading hidle rfl rfl now)
  have hkept : (swept now retention cutoff d.committed).scalars[key]? =
      d.committed.live? now.millis key := Store.purgeExpired_scalars now.millis key
  rw [hbytes, hkept, Store.apply]
  cases hlive : d.committed.live? now.millis key with
  | none => rfl
  | some row =>
      rw [← Store.live?_eq_scalars (by rw [hlive]; rfl), hlive]
      rfl

theorem swept_messages (s : Store) (id : Int) :
    (swept now retention cutoff s).messages[id]? = (s.messages[id]?).filter fun row =>
      retention.isZero || decide (cutoff.millis ≤ row.createdAt) := by
  rw [swept, ExtTreeMap.getElem?_filter']

/-- Whatever has happened since, a message that is still there has the millisecond in which it was
published. -/
theorem createdAt_of_evolves {s t : Store} {published : Instant} {channel message : String}
    (h : Store.Evolves (s.apply published (.publish channel message)).2 t) {row : MessageRow}
    (hrow : t.messages[s.lastMessageId + 1]? = some row) : row.createdAt = published.millis := by
  have hstored := h.keeps (Int.le_refl _) hrow
  simp only [Store.apply, Store.publish, ExtTreeMap.getElem?_insert_self, Option.some.injEq]
    at hstored
  rw [← hstored]

/-- Let the clock of a pass stand at `now`, and let its retention lead to a cutoff. While nobody
else writes to the database, the pass answers how many rows it removes of each table: the rows of
the keys that a reader is not told the bytes of, and, unless messages are kept for ever, those of
the messages stored with a millisecond before that of the cutoff. A message that was published no
longer ago than the retention stays, and one that was published a millisecond longer ago is gone,
whatever has happened in between. All else is left as it was, and another pass finds nothing. While
somebody else writes, the pass fails and changes nothing. -/
theorem removes_exactly (hcutoff : now.sub? retention = some cutoff) (d : Database) :
    let outcome := Database.backend.reap now retention d
    let after := outcome.2.committed
    (d.draft = none → d.isReadOnly = false →
      outcome.1 = .ok ⟨(rowsGone d.committed.scalars after.scalars).size,
        (rowsGone d.committed.messages after.messages).size⟩ ∧
      (∀ key : String, after.scalars[key]? =
        if (Database.backend.operate now (.getBytes key) d).1.isOk then d.committed.scalars[key]?
        else none) ∧
      (∀ id : Int, after.messages[id]? = (d.committed.messages[id]?).filter fun row =>
        retention.isZero || decide (cutoff.millis ≤ row.createdAt)) ∧
      (∀ (s : Store) (published : Instant) (channel message : String),
        Store.Evolves (s.apply published (.publish channel message)).2 d.committed →
        let id := s.lastMessageId + 1
        (now.nanos - published.nanos ≤ retention.nanos →
          after.messages[id]? = d.committed.messages[id]?) ∧
        (retention.isZero = false → retention.nanos + 1000000 ≤ now.nanos - published.nanos →
          after.messages[id]? = none)) ∧
      (retention.isZero = true → after.messages = d.committed.messages) ∧
      outcome.2 = { d with committed :=
        { d.committed with scalars := after.scalars, messages := after.messages } } ∧
      Database.backend.reap now retention outcome.2 = (.ok ⟨0, 0⟩, outcome.2)) ∧
    (d.draft ≠ none ∨ d.isReadOnly = true →
      ∃ fault, outcome = (.error (.store (.store fault)), d)) := by
  intro outcome after
  refine ⟨fun hidle hwritable => ?_, reap_of_refused⟩
  have hpass : outcome = _ := reap_of_idle hidle hwritable hcutoff
  have hafter : after = swept now retention cutoff d.committed := by
    show outcome.2.committed = _
    rw [hpass]
  have hmessages (id : Int) : after.messages[id]? = (d.committed.messages[id]?).filter fun row =>
      retention.isZero || decide (cutoff.millis ≤ row.createdAt) := by
    rw [hafter, swept_messages]
  refine ⟨?_, ?_, hmessages, ?_, ?_, ?_, ?_⟩
  · rw [hafter, hpass]
  · intro key
    rw [hafter, swept_scalars hidle]
  · intro s published channel message hevolves id
    obtain rfl := Instant.eq_of_sub?_eq_some hcutoff
    rw [hmessages]
    cases hrow : d.committed.messages[id]? with
    | none => exact ⟨fun _ => rfl, fun _ _ => rfl⟩
    | some row =>
        rw [Option.filter_some, createdAt_of_evolves hevolves hrow]
        refine ⟨fun hrecent => if_pos ?_, fun hkeeps hold => if_neg ?_⟩
        · rw [Bool.or_eq_true, decide_eq_true_eq]
          exact Or.inr (Instant.millis_le_millis (by rw [Instant.le_def]; simp only; omega))
        · rw [hkeeps, Bool.false_or, decide_eq_true_eq]
          simp only [Instant.millis]
          omega
  · intro hzero
    refine ExtTreeMap.ext_getElem? fun id => ?_
    rw [hmessages, hzero]
    cases d.committed.messages[id]? with
    | none => rfl
    | some row => rfl
  · rw [hafter, hpass]
    rfl
  · have hagain := reap_of_idle (d := outcome.2) (by rw [hpass]; exact hidle)
      (by rw [hpass]; exact hwritable) hcutoff
    have hsame : swept now retention cutoff outcome.2.committed = outcome.2.committed := by
      rw [hpass, swept_swept]
    rw [hagain, hsame, size_rowsGone_self, size_rowsGone_self]

/-- A pass in the fifth millisecond that keeps messages for three: a key that expires in this
millisecond goes and one that expires in the next one stays; a message from the first millisecond
goes, and one from the second stays, although it is older than three milliseconds. -/
theorem removes_exactly_roundedDown :
    let row (expireAt : Int) : ScalarRow := ⟨"1".toUTF8, expireAt, 0, 0⟩
    let s : Store := { Store.empty with scalars := ExtTreeMap.ofList [("a", row 5), ("b", row 6)] }
    let s' := (s.apply ⟨1399999⟩ (.publish "news" "old")).2
    let d : Database :=
      { Database.empty .file with committed := (s'.apply ⟨2000001⟩ (.publish "news" "new")).2 }
    (⟨5400000⟩ : Instant).sub? ⟨3000000⟩ = some ⟨2400000⟩ ∧ ∃ after,
      Database.backend.reap ⟨5400000⟩ ⟨3000000⟩ d = (.ok ⟨1, 1⟩, after) ∧
      after.committed.scalars["a"]? = none ∧ after.committed.scalars["b"]? = some (row 6) ∧
      after.committed.messages[(1 : Int)]? = none ∧
      after.committed.messages[(2 : Int)]? = some ⟨"news", "new", 2⟩ ∧
      Database.backend.reap ⟨5400000⟩ ⟨3000000⟩ after = (.ok ⟨0, 0⟩, after) := by
  intro row s s' d
  have hcutoff : (⟨5400000⟩ : Instant).sub? ⟨3000000⟩ = some ⟨2400000⟩ := by decide
  obtain ⟨hfree, -⟩ := removes_exactly hcutoff d
  obtain ⟨hcounts, hkeys, hmessages, hpublished, -, -, hagain⟩ := hfree rfl rfl
  have hold := (hpublished s ⟨1399999⟩ "news" "old" (.publish s' 2 "news" "new")).2 rfl (by decide)
  have hcount : ((Database.backend.reap ⟨5400000⟩ ⟨3000000⟩ d).1.toOption) = some ⟨1, 1⟩ := by
    decide +kernel
  refine ⟨hcutoff, _, Prod.ext (hcounts.trans ?_) rfl, ?_, ?_, hold, ?_, hagain⟩
  · rw [hcounts] at hcount
    exact congrArg Except.ok (Option.some.inj hcount)
  · rw [hkeys]
    rfl
  · rw [hkeys]
    rfl
  · rw [hmessages]
    rfl

end Reaper

end SqlCache
