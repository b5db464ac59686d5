import Mathlib.Data.Finset.Dedup
import SqlCache.Proofs.Dictionary.Basic
import SqlCache.Proofs.Store.Frame
import SqlCache.Proofs.Time.Expiry

/-!
The dictionary that the tables of a store stand for at a millisecond: its entries are the live
scalar rows, its fields the rows of maps. Times of creation and of change, and rows that are not
live, are no part of it. Main results: `Store.reply_eq_answer` and `Store.dictionary_apply`, which
say what a call answers and what it makes of the tables in terms of the dictionary alone.
-/

set_option autoImplicit false

namespace SqlCache

open Std

/-- The entry that a scalar row holds. -/
def ScalarRow.entry (row : ScalarRow) : Dictionary.Entry := ⟨row.value, row.expireAt⟩

namespace Store

/-- The dictionary that the tables stand for at a millisecond. -/
def dictionary (now : Int) (s : Store) : Dictionary where
  entries := (s.scalars.filter fun _ row => row.isLive now).map fun _ row => row.entry
  fields := s.fields.map fun _ row => row.value

/-- No key expires later than never. -/
def Timely (s : Store) : Prop :=
  ∀ (key : String) (row : ScalarRow), s.scalars[key]? = some row →
    row.expireAt ≤ Instant.never.millis

variable {s : Store} {now : Instant} {ttl : Duration}

/-! ## Looking up -/

theorem getElem?_dictionary (s : Store) (ms : Int) (key : String) :
    (s.dictionary ms).entries[key]? = (s.live? ms key).map ScalarRow.entry := by
  simp [dictionary, live?]

theorem mem_dictionary (s : Store) (ms : Int) (key : String) :
    key ∈ (s.dictionary ms).entries ↔ (s.live? ms key).isSome = true := by
  rw [ExtTreeMap.mem_iff_isSome_getElem?, getElem?_dictionary, Option.isSome_map]

theorem getElem?_dictionary_fields (s : Store) (ms : Int) (place : String × String) :
    (s.dictionary ms).fields[place]? = (s.fields[place]?).map FieldRow.value := by
  simp [dictionary]

theorem mem_dictionary_fields (s : Store) (ms : Int) (place : String × String) :
    place ∈ (s.dictionary ms).fields ↔ place ∈ s.fields := by
  simp [dictionary]

theorem fieldsOf_dictionary (s : Store) (ms : Int) (key : String) :
    (s.dictionary ms).fieldsOf key = (s.fieldsOf key).map fun e => (e.field, e.value) := by
  simp [dictionary, Dictionary.fieldsOf, fieldsOf, ExtTreeMap.toList_map, List.filter_map,
    Function.comp_def]

/-- A store stands for a dictionary with the same lookups. -/
theorem dictionary_eq {ms : Int} {d : Dictionary} (hentries : ∀ key : String,
      (s.live? ms key).map ScalarRow.entry = d.entries[key]?)
    (hfields : (s.fields.map fun _ row => row.value) = d.fields) : s.dictionary ms = d := by
  have he : (s.dictionary ms).entries = d.entries := by
    ext1 key
    rw [getElem?_dictionary, hentries]
  cases d
  exact congrArg₂ Dictionary.mk he hfields

/-- A live row is one whose entry is present. -/
theorem live?_map_entry (s : Store) (ms : Int) (key : String) :
    (s.live? ms key).map ScalarRow.entry =
      ((s.scalars[key]?).map ScalarRow.entry).filter fun entry => decide (ms < entry.deadline) := by
  rw [live?]
  cases s.scalars[key]? with
  | none => rfl
  | some row => simp [Option.filter_some, ScalarRow.isLive, ScalarRow.entry, apply_ite]

/-- The dictionary of a later millisecond is what is left of an earlier one. -/
theorem present_dictionary (s : Store) {earlier later : Int} (h : earlier ≤ later) :
    (s.dictionary earlier).present later = s.dictionary later := by
  symm
  refine dictionary_eq ?_ rfl
  intro key
  rw [Dictionary.getElem?_present, getElem?_dictionary, live?_map_entry, live?_map_entry,
    Option.filter_filter]
  congr 1
  funext entry
  have hboth : (earlier < entry.deadline ∧ later < entry.deadline) ↔ later < entry.deadline := by
    omega
  rw [← Bool.decide_and, decide_eq_decide]
  exact hboth.symm

/-! ## Writing -/

/-- A row that is written stands for its entry, unless this is gone already. -/
theorem dictionary_insert (s : Store) (ms : Int) (key : String) (row : ScalarRow) :
    ({ s with scalars := s.scalars.insert key row } : Store).dictionary ms =
      ((s.dictionary ms).write key row.entry).present ms := by
  refine dictionary_eq ?_ rfl
  intro other
  rw [live?_map_entry, Dictionary.getElem?_present, Dictionary.write, ExtTreeMap.getElem?_insert,
    ExtTreeMap.getElem?_insert]
  split
  · rfl
  · rw [getElem?_dictionary, live?_map_entry, Option.filter_filter]
    simp

theorem dictionary_erase (s : Store) (ms : Int) (key : String) :
    ({ s with scalars := s.scalars.erase key } : Store).dictionary ms =
      ({ s.dictionary ms with entries := (s.dictionary ms).entries.erase key } :
        Dictionary).present ms := by
  refine dictionary_eq ?_ rfl
  intro other
  rw [live?_map_entry, Dictionary.getElem?_present, ExtTreeMap.getElem?_erase,
    ExtTreeMap.getElem?_erase]
  split
  · rfl
  · rw [getElem?_dictionary, live?_map_entry, Option.filter_filter]
    simp

/-- Rows of maps are there at every millisecond. -/
theorem dictionary_fields (s : Store) (ms : Int)
    {rows : ExtTreeMap (String × String) FieldRow comparePairs}
    {fields : ExtTreeMap (String × String) String comparePairs}
    (h : ∀ place : String × String, (rows[place]?).map FieldRow.value = fields[place]?) :
    ({ s with fields := rows } : Store).dictionary ms =
      ({ s.dictionary ms with fields } : Dictionary).present ms := by
  refine dictionary_eq ?_ ?_
  · intro key
    show (s.live? ms key).map ScalarRow.entry = ((s.dictionary ms).present ms).entries[key]?
    rw [present_dictionary s (Int.le_refl ms), getElem?_dictionary]
  · ext1 place
    rw [ExtTreeMap.getElem?_map]
    exact h place

/-! ## Times -/

theorem deadline_eq (hnow : now.isRepresentable = true) (ttl : Duration) :
    Dictionary.deadline now ttl = (now.expiry ttl).millis := by
  unfold Dictionary.deadline
  cases hzero : ttl.isZero with
  | true =>
      have hempty : ttl = .zero := by
        simp only [Duration.isZero, beq_iff_eq] at hzero
        cases ttl
        cases hzero
        rfl
      rw [if_pos hempty, Instant.expiry_of_isZero hzero]
  | false =>
      have hsome : ttl ≠ .zero := by
        intro h
        rw [h] at hzero
        cases hzero
      rw [if_neg hsome, Instant.expiry_of_isZero_eq_false hnow hzero, Instant.millis]

theorem remaining_eq (hnow : now.isRepresentable = true) (timely : s.Timely) {key : String}
    {row : ScalarRow} (hrow : s.live? now.millis key = some row) :
    now.remaining (.ofMillis row.expireAt) = row.entry.remaining now := by
  rw [live?, Option.filter_eq_some_iff, ScalarRow.isLive, decide_eq_true_eq] at hrow
  obtain ⟨hstored, hlive⟩ := hrow
  have hle := timely key row hstored
  unfold Instant.remaining Dictionary.Entry.remaining
  rw [Instant.ofMillis_of_between hnow hlive hle]
  -- A whole millisecond is past `never` in nanoseconds when it is in milliseconds.
  have hnever : Instant.never ≤ ⟨row.expireAt * 1000000⟩ ↔ row.expireAt = Instant.never.millis := by
    simp only [Instant.le_def, Instant.millis, Instant.never] at hle ⊢
    omega
  simp only [hnever]
  rfl

/-! ## Calls -/

theorem distinct_nodup (keys : List String) : (distinct keys).Nodup := by
  have hne := ExtTreeSet.distinct_toList (t := ExtTreeSet.ofList keys)
  refine hne.imp ?_
  intro a b h heq
  exact h (by rw [heq, compare_self])

theorem mem_distinct {keys : List String} {key : String} : key ∈ distinct keys ↔ key ∈ keys := by
  rw [distinct, ExtTreeSet.mem_toList, ExtTreeSet.mem_ofList, List.contains_iff_mem]

/-- To count in the list of distinct keys is to count in the set of the keys. -/
theorem countP_distinct (keys : List String) (p : String → Bool) :
    (distinct keys).countP p = {key ∈ keys.toFinset | p key = true}.card := by
  have hset : ((distinct keys).filter p).toFinset = {key ∈ keys.toFinset | p key = true} := by
    ext key
    simp [mem_distinct]
  rw [List.countP_eq_length_filter, ← hset,
    List.toFinset_card_of_nodup ((distinct_nodup keys).filter p)]

theorem length_distinct (keys : List String) : (distinct keys).length = keys.toFinset.card := by
  have h := countP_distinct keys fun _ => true
  simpa using h

theorem count_dictionary (s : Store) (ms : Int) (keys : List String) :
    (s.dictionary ms).count keys = s.count ms keys := by
  unfold Dictionary.count count
  cases keys with
  | nil => simp [dictionary, countAll]
  | cons key rest =>
      simp only [reduceCtorEq, if_false, List.isEmpty_cons, Bool.false_eq_true, countKeys,
        countP_distinct, mem_dictionary]

theorem timely_empty : empty.Timely := by
  intro key row h
  simp [empty] at h

theorem timely_insert (timely : s.Timely) (key : String) (row : ScalarRow)
    (h : row.expireAt ≤ Instant.never.millis) :
    ({ s with scalars := s.scalars.insert key row } : Store).Timely := by
  intro other found hfound
  simp only [ExtTreeMap.getElem?_insert] at hfound
  split at hfound
  · cases hfound
    exact h
  · exact timely other found hfound

/-- Whatever is written expires when it does, or never. -/
theorem timely_apply (timely : s.Timely) (op : Operation) : (s.apply now op).2.Timely := by
  have hexpiry : ∀ ttl, (now.expiry ttl).millis ≤ Instant.never.millis :=
    fun _ => Instant.millis_le_millis Instant.expiry_le_never
  cases op with
  | set key value ttl => exact timely_insert timely key _ (hexpiry ttl)
  | setNx key value ttl =>
      simp only [apply, setNx]
      split
      · exact timely
      · exact timely_insert timely key _ (hexpiry ttl)
  | expire key ttl =>
      simp only [apply, expire]
      split
      · exact timely_insert timely key _ (hexpiry ttl)
      · exact timely
  | delete key =>
      intro other row hrow
      simp only [apply, delete, ExtTreeMap.getElem?_erase] at hrow
      split at hrow
      · cases hrow
      · exact timely other row hrow
  | getBytes | count | setField | getField | deleteField | getFields | scan | ttl | lock
  | publish => exact timely

/-- A call answers what the dictionary answers. -/
theorem reply_eq_answer (hnow : now.isRepresentable = true) (timely : s.Timely)
    (c : Dictionary.Call) :
    (s.apply now c.operation).1.bind c.read = ((s.dictionary now.millis).answer now c).1 := by
  cases c with
  | set | setField => rfl
  | setNx key value ttl =>
      simp only [Dictionary.answer, mem_dictionary, Dictionary.Call.operation, apply, setNx]
      cases s.live? now.millis key <;> rfl
  | expire key ttl =>
      simp only [Dictionary.answer, getElem?_dictionary, Dictionary.Call.operation, apply, expire]
      cases s.live? now.millis key <;> rfl
  | delete key =>
      simp only [Dictionary.answer, mem_dictionary, Dictionary.Call.operation, apply, delete]
      rfl
  | getBytes key | getText key =>
      simp only [Dictionary.answer, getElem?_dictionary, Dictionary.Call.operation, apply]
      cases s.live? now.millis key <;> rfl
  | ttl key =>
      simp only [Dictionary.answer, getElem?_dictionary, Dictionary.Call.operation, apply]
      cases hrow : s.live? now.millis key with
      | none => rfl
      | some row =>
          simp only [Option.map_some, ← remaining_eq hnow timely hrow]
          rfl
  | count keys =>
      simp only [Dictionary.answer, count_dictionary]
      rfl
  | getField key field =>
      simp only [Dictionary.answer, getElem?_dictionary_fields, Dictionary.Call.operation, apply,
        field?]
      cases s.fields[(key, field)]? <;> rfl
  | deleteField key field =>
      simp only [Dictionary.answer, mem_dictionary_fields, Dictionary.Call.operation, apply,
        deleteField]
      split <;> rfl
  | getFields key =>
      simp only [Dictionary.answer, fieldsOf_dictionary, Dictionary.Call.operation, apply]
      cases s.fieldsOf key <;> rfl

/-- A call makes of the tables what it makes of the dictionary. -/
theorem dictionary_apply (hnow : now.isRepresentable = true) (c : Dictionary.Call) :
    (s.apply now c.operation).2.dictionary now.millis =
      ((s.dictionary now.millis).answer now c).2.present now.millis := by
  cases c with
  | set key value ttl =>
      simp only [Dictionary.answer, deadline_eq hnow]
      exact dictionary_insert s now.millis key _
  | setNx key value ttl =>
      simp only [Dictionary.answer, mem_dictionary, deadline_eq hnow, Dictionary.Call.operation,
        apply, setNx]
      cases s.live? now.millis key with
      | some row => exact (present_dictionary s (Int.le_refl _)).symm
      | none => exact dictionary_insert s now.millis key _
  | expire key ttl =>
      simp only [Dictionary.answer, getElem?_dictionary, deadline_eq hnow,
        Dictionary.Call.operation, apply, expire]
      cases s.live? now.millis key with
      | some row => exact dictionary_insert s now.millis key _
      | none => exact (present_dictionary s (Int.le_refl _)).symm
  | delete key => exact dictionary_erase s now.millis key
  | setField key field value =>
      refine dictionary_fields s now.millis ?_
      intro place
      rw [ExtTreeMap.getElem?_insert, ExtTreeMap.getElem?_insert]
      split
      · rfl
      · exact (getElem?_dictionary_fields s now.millis place).symm
  | deleteField key field =>
      refine dictionary_fields s now.millis ?_
      intro place
      rw [ExtTreeMap.getElem?_erase, ExtTreeMap.getElem?_erase]
      split
      · rfl
      · exact (getElem?_dictionary_fields s now.millis place).symm
  | getBytes | getText | ttl | count | getField | getFields =>
      exact (present_dictionary s (Int.le_refl _)).symm

end Store

end SqlCache
