import SqlCache.Database

/-!
What a call leaves alone: the tables it does not work on, and in the table it works on the rows
that it does not name. Purges work on whole tables; of those they keep every row that is live, or
recent enough.
-/

set_option autoImplicit false

namespace SqlCache

open Std

/-- The scalar key that an operation may write. -/
def Operation.writtenKey? : Operation → Option String
  | set key .. | delete key | setNx key .. | expire key _ => some key
  | _ => none

theorem Operation.writtenKey?_of_isWrite_eq_false {op : Operation} (h : op.isWrite = false) :
    op.writtenKey? = none := by
  cases op with
  | getBytes | count | getField | getFields | scan | ttl | lock | setField | deleteField
  | publish => rfl
  | set | delete | setNx | expire => simp [Operation.isWrite] at h

/-- A row that is live was so before. -/
theorem ScalarRow.isLive_of_le {row : ScalarRow} {ms ms' : Int} (hlive : row.isLive ms' = true)
    (hle : ms ≤ ms') : row.isLive ms = true :=
  decide_eq_true (Int.lt_of_le_of_lt hle (of_decide_eq_true hlive))

namespace Store

variable {s : Store} {now : Instant}

/-! ## Reading -/

/-- An operation that only reads leaves the store as it is. -/
theorem apply_of_isWrite_eq_false {op : Operation} (h : op.isWrite = false) :
    (s.apply now op).2 = s := by
  cases op with
  | getBytes | count | getField | getFields | scan | ttl | lock => rfl
  | set | delete | setField | deleteField | setNx | expire | publish =>
      simp [Operation.isWrite] at h

/-- A call that only reads the log leaves the store as it is. -/
theorem applyLog_of_isWrite_eq_false {call : PubSub.LogCall} (h : call.isWrite = false) :
    (s.applyLog now call).2 = s := by
  cases call with
  | fetchAfter => rfl
  | attach | advance | detach => simp [PubSub.LogCall.isWrite] at h

/-! ## Scalar keys -/

/-- The row of a key survives every operation that does not write this key. -/
theorem apply_scalars_of_writtenKey?_ne {op : Operation} {key : String}
    (h : op.writtenKey? ≠ some key) : (s.apply now op).2.scalars[key]? = s.scalars[key]? := by
  cases op with
  | set other =>
      have hne : other ≠ key := fun heq => h (by simp [Operation.writtenKey?, heq])
      simp [apply, set, ExtTreeMap.getElem?_insert, hne]
  | delete other =>
      have hne : other ≠ key := fun heq => h (by simp [Operation.writtenKey?, heq])
      simp [apply, delete, ExtTreeMap.getElem?_erase, hne]
  | setNx other =>
      have hne : other ≠ key := fun heq => h (by simp [Operation.writtenKey?, heq])
      simp only [apply, setNx]
      split <;> simp [ExtTreeMap.getElem?_insert, hne]
  | expire other =>
      have hne : other ≠ key := fun heq => h (by simp [Operation.writtenKey?, heq])
      simp only [apply, expire]
      split <;> simp [ExtTreeMap.getElem?_insert, hne]
  | getBytes | count | setField | getField | deleteField | getFields | scan | ttl | lock
  | publish => rfl

/-- No call on the log touches a scalar key. -/
theorem applyLog_scalars (call : PubSub.LogCall) :
    (s.applyLog now call).2.scalars = s.scalars := by
  cases call with
  | attach =>
      simp only [applyLog, attach]
      split <;> rfl
  | advance =>
      simp only [applyLog, advance]
      split <;> rfl
  | fetchAfter | detach => rfl

/-- A key that is live has the row that is stored for it. -/
theorem live?_eq_scalars {millis : Int} {key : String} (h : (s.live? millis key).isSome = true) :
    s.live? millis key = s.scalars[key]? := by
  rw [live?] at h ⊢
  cases hrow : s.scalars[key]? with
  | none => rfl
  | some row =>
      rw [hrow] at h
      cases hlive : row.isLive millis with
      | true => simp [hlive]
      | false => simp [hlive] at h

/-- A purge of keys keeps the rows that are live. -/
theorem purgeExpired_scalars (millis : Int) (key : String) :
    (s.purgeExpired millis).2.scalars[key]? = s.live? millis key := by
  simp [purgeExpired, live?]

/-- A purge keeps what is live later on. -/
theorem live?_purgeExpired {ms ms' : Int} (hle : ms ≤ ms') (s : Store) (key : String) :
    (s.purgeExpired ms).2.live? ms' key = s.live? ms' key := by
  rw [live?, purgeExpired_scalars, live?, Option.filter_filter]
  congr 1
  funext row
  cases hlive : row.isLive ms' with
  | false => exact Bool.and_false _
  | true => rw [ScalarRow.isLive_of_le hlive hle, Bool.and_true]

end Store

end SqlCache
