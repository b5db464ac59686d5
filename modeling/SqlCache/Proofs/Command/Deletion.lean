import SqlCache.Command
import SqlCache.Proofs.Database.Alone
import SqlCache.Proofs.Dialogue.Transcript
import SqlCache.Proofs.Store.Dictionary

/-!
Removing keys. Keys are removed one after the other, so a key that is named again is no longer there
the second time, and the sum of what the removals answer is the number of distinct keys that were
live (`run_deleteKeys`). Main result: `del_answers_as_exists`. Deleting keys answers what asking for
them would have answered, and afterwards none of them has a row and everything else is as it was.
-/

set_option autoImplicit false

namespace SqlCache

open Std

namespace Store

variable {s : Store} {keys others : List String}

/-- The tables without the rows of some scalar keys. -/
def without (s : Store) (keys : List String) : Store :=
  { s with scalars := s.scalars.filter fun key _ => !keys.contains key }

theorem getElem?_without (s : Store) (keys : List String) (key : String) :
    (s.without keys).scalars[key]? = if key ∈ keys then none else s.scalars[key]? := by
  rw [without, ExtTreeMap.getElem?_filter']
  cases s.scalars[key]? with
  | none => simp
  | some row => by_cases hmem : key ∈ keys <;> simp [hmem]

/-- Tables that agree in everything but their scalar rows, and in these too, are the same. -/
theorem eq_of_scalars {t : Store} (hrest : t = { s with scalars := t.scalars })
    (h : ∀ key : String, t.scalars[key]? = s.scalars[key]?) : t = s := by
  have hscalars : t.scalars = s.scalars := ExtTreeMap.ext_getElem? h
  rw [hrest, hscalars]

theorem without_nil (s : Store) : s.without [] = s :=
  eq_of_scalars rfl fun key => by simp [getElem?_without]

/-- What is left depends on which keys are removed, not on how often or in which order. -/
theorem without_congr (h : ∀ key, key ∈ keys ↔ key ∈ others) :
    s.without keys = s.without others :=
  eq_of_scalars rfl fun key => by simp only [getElem?_without, h]

theorem delete_without (s : Store) (ms : Int) (key : String) (keys : List String) :
    (s.delete ms key).2.without keys = s.without (key :: keys) := by
  refine eq_of_scalars rfl fun other => ?_
  rw [getElem?_without, getElem?_without]
  simp only [delete, ExtTreeMap.getElem?_erase, LawfulEqCmp.compare_eq_iff_eq, List.mem_cons]
  by_cases heq : key = other
  · simp [heq]
  · simp [heq, Ne.symm heq]

/-- The keys of a list that are live, each once. -/
def liveAmong (s : Store) (ms : Int) (keys : List String) : Finset String :=
  {key ∈ keys.toFinset | (s.live? ms key).isSome = true}

theorem live?_without (s : Store) (keys : List String) (ms : Int) (key : String) :
    (s.without keys).live? ms key = if key ∈ keys then none else s.live? ms key := by
  rw [live?, live?, getElem?_without]
  split <;> rfl

theorem live?_delete (s : Store) (ms ms' : Int) (key other : String) :
    (s.delete ms key).2.live? ms' other = if other = key then none else s.live? ms' other := by
  have h := live?_without s [key] ms' other
  rw [← delete_without s ms key [], without_nil] at h
  simpa using h

end Store

namespace Command

variable {s : Store} {d : Database} {now : Instant}

/-! ## Removing one after the other -/

/-- How many of the keys, each taken once, there are with a property; the first one is counted
unless it comes again. -/
theorem card_toFinset_cons (key : String) (keys : List String) (p : String → Bool) :
    ({k ∈ (key :: keys).toFinset | p k = true} : Finset String).card =
      (if p key then 1 else 0) +
        ({k ∈ keys.toFinset | (!decide (k = key) && p k) = true} : Finset String).card := by
  have hrest : ({k ∈ keys.toFinset | (!decide (k = key) && p k) = true} : Finset String) =
      ({k ∈ (key :: keys).toFinset | p k = true} : Finset String).erase key := by
    ext k
    simp only [Finset.mem_filter, Finset.mem_erase, List.toFinset_cons, Finset.mem_insert,
      List.mem_toFinset, Bool.and_eq_true, Bool.not_eq_true', decide_eq_false_iff_not]
    constructor
    · rintro ⟨hmem, hne, hp⟩
      exact ⟨hne, Or.inr hmem, hp⟩
    · rintro ⟨hne, heq | hmem, hp⟩
      · exact absurd heq hne
      · exact ⟨hmem, hne, hp⟩
  rw [hrest]
  cases hp : p key with
  | true =>
      have hmem : key ∈ ({k ∈ (key :: keys).toFinset | p k = true} : Finset String) := by
        simp [hp]
      have hcard := Finset.card_erase_add_one hmem
      simp only [if_true]
      omega
  | false =>
      have hmem : key ∉ ({k ∈ (key :: keys).toFinset | p k = true} : Finset String) := by
        simp [hp]
      rw [Finset.erase_eq_of_notMem hmem]
      simp

/-- A key that is removed, and then all others. -/
theorem run_deleteKeys_cons (key : String) (keys : List String) (s : Store)
    (clock : Nat → Instant) :
    (deleteKeys (key :: keys)).run.run Store.attend (s, clock) =
      match (deleteKeys keys).run.run Store.attend
        ((s.delete (clock 0).millis key).2, fun n => clock (n + 1)) with
      | (.ok n, t) => (.ok ((s.delete (clock 0).millis key).1 + n), t)
      | (.error e, t) => (.error e, t) := by
  have hcall : (Body.call (.delete key)).run.run Store.attend (s, clock) =
      (.ok (s.delete (clock 0).millis key).1, (s.delete (clock 0).millis key).2,
        fun n => clock (n + 1)) := rfl
  rw [deleteKeys, Dialogue.run_program_bind, hcall]
  simp only [Dialogue.run_program_bind]
  rcases (deleteKeys keys).run.run Store.attend _ with ⟨r, t⟩
  cases r with
  | ok n => rfl
  | error e => rfl

/-- Removing keys one after the other, none of which expires meanwhile: as many are counted as there
are live ones, each once. -/
theorem run_deleteKeys (keys : List String) (s : Store) {clock : Nat → Instant}
    {isLive : String → Bool}
    (steady : ∀ i, ∀ key ∈ keys, (s.live? (clock i).millis key).isSome = isLive key) :
    (deleteKeys keys).run.run Store.attend (s, clock) =
      (.ok ({key ∈ keys.toFinset | isLive key = true} : Finset String).card, s.without keys,
        fun n => clock (n + keys.length)) := by
  induction keys generalizing s clock isLive with
  | nil =>
      rw [Store.without_nil]
      rfl
  | cons key keys ih =>
      -- a key that comes again has no row any more
      have steady' : ∀ i, ∀ k ∈ keys,
          ((s.delete (clock 0).millis key).2.live? (clock (i + 1)).millis k).isSome =
            (!decide (k = key) && isLive k) := by
        intro i k hk
        rw [Store.live?_delete]
        by_cases heq : k = key
        · simp [heq]
        · simp [heq, steady (i + 1) k (List.mem_cons_of_mem _ hk)]
      have hfirst : (s.delete (clock 0).millis key).1 = if isLive key then 1 else 0 := by
        rw [← steady 0 key List.mem_cons_self]
        rfl
      rw [run_deleteKeys_cons, ih _ steady', Store.delete_without, card_toFinset_cons,
        Int.natCast_add, hfirst]
      rfl

/-- Deleting keys, none of which expires meanwhile, on a database that nobody else writes to. -/
theorem ticking_perform_del (hidle : d.draft = none) (hshared : d.sharing ≠ .nothing)
    (hwritable : d.isReadOnly = false) (given : Instant) {keys : List String}
    {clock : Nat → Instant} {isLive : String → Bool}
    (steady : ∀ i, ∀ key ∈ keys, (d.committed.live? (clock i).millis key).isSome = isLive key) :
    Database.backend.ticking.perform given (plan (.del keys)) (d, clock) =
      (.ok ({key ∈ keys.toFinset | isLive key = true} : Finset String).card,
        { d with committed := d.committed.without keys }, fun n => clock (n + keys.length)) := by
  cases keys with
  | nil =>
      rw [Store.without_nil]
      rfl
  | cons key rest =>
      show Database.backend.ticking.transaction given (deleteKeys (key :: rest)) (d, clock) = _
      rw [Database.ticking_transaction_alone hidle hshared hwritable,
        run_deleteKeys (key :: rest) d.committed steady]

/-- Deleting keys while the clock stands still. -/
theorem perform_del (hidle : d.draft = none) (hshared : d.sharing ≠ .nothing)
    (hwritable : d.isReadOnly = false) (now : Instant) (keys : List String) :
    Database.backend.perform now (plan (.del keys)) d =
      (.ok (d.committed.liveAmong now.millis keys).card,
        { d with committed := d.committed.without keys }) := by
  have hticking : Database.backend.ticking.perform now (plan (.del keys)) (d, fun _ => now) =
      (.ok (d.committed.liveAmong now.millis keys).card,
        { d with committed := d.committed.without keys }, fun _ => now) :=
    ticking_perform_del hidle hshared hwritable now fun _ _ _ => rfl
  rw [Database.backend.ticking_perform_const] at hticking
  have hpair := Prod.mk.inj hticking
  exact Prod.ext hpair.1 (Prod.mk.inj hpair.2).1

/-! ## Asking for keys -/

/-- Asking which keys there are. -/
theorem perform_present (hidle : d.draft = none) (hwritable : d.isReadOnly = false)
    {keys : List String} (few : (Operation.count keys).refusal? = none) :
    Database.backend.perform now (plan (.present keys)) d =
      (.ok (d.committed.liveAmong now.millis keys).card, d) := by
  cases keys with
  | nil => rfl
  | cons key rest =>
      have happly := Database.apply_of_idle hidle hwritable few now
      have hcount : d.committed.countKeys now.millis (key :: rest) =
          (d.committed.liveAmong now.millis (key :: rest)).card :=
        Store.countP_distinct (key :: rest) _
      rw [← hcount]
      show ((d.apply now (.count (key :: rest))).1.bind Except.ok,
        (d.apply now (.count (key :: rest))).2) = _
      rw [happly]
      rfl

theorem distinct_congr {keys others : List String} (h : ∀ key, key ∈ others ↔ key ∈ keys) :
    distinct others = distinct keys := by
  have hset : ExtTreeSet.ofList others = ExtTreeSet.ofList keys := by
    ext key
    simp [h]
  rw [distinct, hset, distinct]

/-- Asking for the same keys in another order, or for some of them again, makes no difference. -/
theorem perform_present_congr {keys others : List String}
    (h : ∀ key, key ∈ others ↔ key ∈ keys) (now : Instant) (d : Database) :
    Database.backend.perform now (plan (.present others)) d =
      Database.backend.perform now (plan (.present keys)) d := by
  cases keys with
  | nil =>
      have hnone : others = [] := List.eq_nil_iff_forall_not_mem.mpr fun key hkey => by
        simpa using (h key).mp hkey
      rw [hnone]
  | cons key rest =>
      cases others with
      | nil => exact absurd ((h key).mpr List.mem_cons_self) (List.not_mem_nil)
      | cons other more =>
          have hdistinct := distinct_congr h
          have hrefusal : (Operation.count (other :: more)).refusal? =
              (Operation.count (key :: rest)).refusal? := by
            simp only [Operation.refusal?, hdistinct]
          have hwork : ∀ s : Store,
              s.apply now (.count (other :: more)) = s.apply now (.count (key :: rest)) := by
            intro s
            simp only [Store.apply, Store.count, Store.countKeys, hdistinct, List.isEmpty_cons]
          have happly : d.apply now (.count (other :: more)) =
              d.apply now (.count (key :: rest)) := by
            simp only [Database.apply, hrefusal, hwork]
            rfl
          exact congrArg (fun x : Result Int × Database => (x.1.bind Except.ok, x.2)) happly

/-! ## Deleting and asking -/

/-- While nobody else writes to a database, which its connections share and which can be written to:
deleting keys answers how many distinct ones of them are live, as asking for them would have done,
and takes the rows of all of them away, live or not, and nothing else. Asked for once more, none of
them is there. Only the set of the keys counts, and no keys come to 0 and no change. (Asking binds a
variable to every distinct key, and there are only so many.) -/
theorem del_answers_as_exists (hidle : d.draft = none) (hshared : d.sharing ≠ .nothing)
    (hwritable : d.isReadOnly = false) (now : Instant) (keys : List String) :
    let count : Int := (d.committed.liveAmong now.millis keys).card
    let after : Database := { d with committed := d.committed.without keys }
    Database.backend.perform now (plan (.del keys)) d = (.ok count, after) ∧
    ((Operation.count keys).refusal? = none →
      Database.backend.perform now (plan (.present keys)) d = (.ok count, d) ∧
      ∀ later, Database.backend.perform later (plan (.present keys)) after = (.ok 0, after)) ∧
    (∀ key : String, after.committed.scalars[key]? =
      if key ∈ keys then none else d.committed.scalars[key]?) ∧
    after = { d with committed := { d.committed with scalars := after.committed.scalars } } ∧
    (∀ others : List String, (∀ key, key ∈ others ↔ key ∈ keys) →
      Database.backend.perform now (plan (.del others)) d = (.ok count, after) ∧
      Database.backend.perform now (plan (.present others)) d =
        Database.backend.perform now (plan (.present keys)) d) ∧
    (keys = [] → count = 0 ∧ after = d) := by
  intro count after
  refine ⟨perform_del hidle hshared hwritable now keys, ?_, d.committed.getElem?_without keys, rfl,
    ?_, ?_⟩
  · intro few
    refine ⟨perform_present hidle hwritable few, ?_⟩
    intro later
    have hgone : after.committed.liveAmong later.millis keys = ∅ := by
      rw [Store.liveAmong, Finset.filter_eq_empty_iff]
      intro key hkey
      rw [Store.live?_without, if_pos (List.mem_toFinset.mp hkey)]
      simp
    have hpresent : Database.backend.perform later (plan (.present keys)) after =
        (.ok (after.committed.liveAmong later.millis keys).card, after) :=
      perform_present (d := after) hidle hwritable few
    rw [hgone] at hpresent
    exact hpresent
  · intro others hmem
    have hset : others.toFinset = keys.toFinset := by
      ext key
      rw [List.mem_toFinset, List.mem_toFinset, hmem]
    have hdel := perform_del hidle hshared hwritable now others
    rw [Store.liveAmong, hset, Store.without_congr hmem] at hdel
    exact ⟨hdel, perform_present_congr hmem now d⟩
  · rintro rfl
    have hkept : after = d := by
      show ({ d with committed := d.committed.without [] } : Database) = d
      rw [Store.without_nil]
    exact ⟨rfl, hkept⟩

/-- A key named twice, one that has expired, one that is absent, and one that is not named. -/
theorem del_answers_as_exists_of_four :
    let row (expireAt : Int) : ScalarRow := ⟨"1".toUTF8, expireAt, 0, 0⟩
    let d : Database :=
      { Database.empty .file with
        committed := { Store.empty with
          scalars := ExtTreeMap.ofList [("a", row 9), ("b", row 5), ("d", row 9)] } }
    let keys := ["a", "b", "a", "c"]
    ∃ after : Database,
      Database.backend.perform ⟨5000000⟩ (plan (.del keys)) d = (.ok 1, after) ∧
      Database.backend.perform ⟨5000000⟩ (plan (.present keys)) d = (.ok 1, d) ∧
      after.committed.scalars["b"]? = none ∧ after.committed.scalars["d"]? = some (row 9) := by
  intro row d keys
  obtain ⟨hdel, hpresent, hrows, -⟩ :=
    del_answers_as_exists (d := d) rfl (by decide) rfl ⟨5000000⟩ keys
  have hcount : ((d.committed.liveAmong 5 keys).card : Int) = 1 := by decide +kernel
  have hmillis : (⟨5000000⟩ : Instant).millis = 5 := by decide
  rw [hmillis, hcount] at hdel hpresent
  refine ⟨_, hdel, (hpresent (by decide +kernel)).1, ?_, ?_⟩
  · rw [hrows, if_pos (by decide)]
  · rw [hrows, if_neg (by decide)]
    rfl

end Command

end SqlCache
