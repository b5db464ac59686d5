import SqlCache.Proofs.Database.Occasion
import SqlCache.Proofs.Store.Dictionary

/-!
Keys that have been written to live for a while. An operation that has written a key, by what it
was told (`Wrote`), leaves the key a row with the deadline of that moment; until somebody writes the
key again, the row keeps this deadline, and is removed only when the deadline has come (`Expires`).
How long a key has to live then depends on the deadline and the clock alone (`Expires.held?_eq`).
-/

set_option autoImplicit false

namespace SqlCache

open Std

/-- The key that an operation has written, by what it was told. -/
def Operation.written? : (op : Operation) → op.Reply → Option String
  | .set key _ _, .ok _ => some key
  | .delete key, .ok _ => some key
  | .setNx key _ _, .ok true => some key
  | .expire key _, .ok true => some key
  | _, _ => none

namespace Store

variable {s : Store} {now : Instant} {key : String}

/-- The row of a key survives every operation that has not written this key. -/
theorem apply_scalars_of_written?_ne {op : Operation}
    (h : op.written? (s.apply now op).1 ≠ some key) :
    (s.apply now op).2.scalars[key]? = s.scalars[key]? := by
  by_cases hother : op.writtenKey? = some key
  · cases op with
    | set other value ttl => exact absurd hother h
    | delete other => exact absurd hother h
    | setNx other value ttl =>
        cases hlive : s.live? now.millis other with
        | some row => simp [apply, setNx, hlive]
        | none =>
            have hwritten : Operation.written? (.setNx other value ttl)
                (s.apply now (.setNx other value ttl)).1 = some other := by
              simp [apply, setNx, hlive, Operation.written?]
            exact absurd (hwritten.trans hother) h
    | expire other ttl =>
        cases hlive : s.live? now.millis other with
        | none => simp [apply, expire, hlive]
        | some row =>
            have hwritten : Operation.written? (.expire other ttl)
                (s.apply now (.expire other ttl)).1 = some other := by
              simp [apply, expire, hlive, Operation.written?]
            exact absurd (hwritten.trans hother) h
    | getBytes | count | setField | getField | deleteField | getFields | scan | ttl | lock
    | publish => cases hother
  · exact apply_scalars_of_writtenKey?_ne hother

/-- What a key holds and how long it has to live, if it is live; it never expires where this is
`none`. -/
def held? (s : Store) (now : Instant) (key : String) : Option (ByteArray × Option Duration) :=
  (s.live? now.millis key).map fun row => (row.value, now.remaining (.ofMillis row.expireAt))

theorem apply_getBytes (s : Store) (now : Instant) (key : String) :
    (s.apply now (.getBytes key)).1 =
      ((s.held? now key).map Prod.fst).elim (.error .notFound) .ok := by
  simp only [apply, held?]
  cases s.live? now.millis key <;> rfl

theorem apply_ttl (s : Store) (now : Instant) (key : String) :
    (s.apply now (.ttl key)).1 =
      ((s.held? now key).map Prod.snd).elim (.error .notFound) .ok := by
  simp only [apply, held?]
  cases s.live? now.millis key <;> rfl

theorem apply_setNx (s : Store) (now : Instant) (key : String) (value : ByteArray)
    (ttl : Duration) : (s.apply now (.setNx key value ttl)).1 = .ok (s.held? now key).isNone := by
  simp only [apply, setNx, held?]
  cases s.live? now.millis key <;> rfl

theorem apply_count_single (s : Store) (now : Instant) (key : String) :
    (s.apply now (.count [key])).1 = .ok (if (s.held? now key).isSome then 1 else 0) := by
  have hone : s.countKeys now.millis [key] =
      if (s.live? now.millis key).isSome then 1 else 0 := by
    rw [countKeys, countP_distinct]
    cases hlive : (s.live? now.millis key).isSome <;>
      simp [Finset.filter_singleton, hlive]
  simp only [apply, count, List.isEmpty_cons, Bool.false_eq_true, if_false, hone, held?,
    Option.isSome_map]
  split <;> rfl

end Store

theorem Operation.refusal?_count_single (key : String) :
    (Operation.count [key]).refusal? = none := by
  have hone : (distinct [key]).length = 1 := by
    rw [Store.length_distinct]
    rfl
  simp [refusal?, hone, mostVariables]

namespace Lifetime

variable {key : String} {ttl : Duration} {op : Operation} {now : Instant} {s : Store}

/-- What a connection is told about a key that holds something and has so long to live, or that is
absent. -/
structure Told (o : Occasion) (key : String) (held : Option (ByteArray × Option Duration)) :
    Prop where
  bytes : o.ask (.getBytes key) = (held.map Prod.fst).elim (.error .notFound) .ok
  count : o.ask (.count [key]) = .ok (if held.isSome then 1 else 0)
  ttl : o.ask (.ttl key) = (held.map Prod.snd).elim (.error .notFound) .ok

/-- A connection that is not kept from reading is told about a key what its tables say. -/
theorem told_of_reads {o : Occasion} (hreads : o.Reads .scalars) (key : String) :
    Told o key (o.store.held? o.now key) where
  bytes := by rw [Occasion.ask_of_reads hreads rfl rfl rfl, Store.apply_getBytes]
  count := by
    rw [Occasion.ask_of_reads hreads (Operation.refusal?_count_single key) rfl rfl,
      Store.apply_count_single]
  ttl := by rw [Occasion.ask_of_reads hreads rfl rfl rfl, Store.apply_ttl]

/-- The operation has been told that it wrote a key, to live for a span from then on. -/
inductive Wrote (key : String) (ttl : Duration) : (op : Operation) → op.Reply → Prop where
  | set (value : ByteArray) : Wrote key ttl (.set key value ttl) (.ok ())
  | setNx (value : ByteArray) : Wrote key ttl (.setNx key value ttl) (.ok true)
  | expire : Wrote key ttl (.expire key ttl) (.ok true)

theorem Wrote.isWrite {reply : op.Reply} (wrote : Wrote key ttl op reply) : op.isWrite = true := by
  cases wrote <;> rfl

theorem Wrote.eq_ok {reply : op.Reply} (wrote : Wrote key ttl op reply) :
    ∃ answer, reply = .ok answer := by
  cases wrote with
  | set value => exact ⟨_, rfl⟩
  | setNx value => exact ⟨_, rfl⟩
  | expire => exact ⟨_, rfl⟩

/-- What a key holds once an operation has written it, when it `held` something before: a write
brings its own value, and a new expiry leaves the old one. -/
def valueAfter (held : Result ByteArray) : Operation → Result ByteArray
  | .set _ value _ | .setNx _ value _ => .ok value
  | _ => held

/-- A key that has been written has a row with its value and its deadline. -/
theorem Wrote.row (wrote : Wrote key ttl op (s.apply now op).1) :
    ∃ row, (s.apply now op).2.scalars[key]? = some row ∧
      row.expireAt = (now.expiry ttl).millis ∧
      valueAfter (s.apply now (.getBytes key)).1 op = .ok row.value := by
  generalize hreply : (s.apply now op).1 = reply at wrote
  cases wrote with
  | set value => exact ⟨_, by simp [Store.apply, Store.set]; rfl, rfl, rfl⟩
  | setNx value =>
      cases hlive : s.live? now.millis key with
      | some row => simp [Store.apply, Store.setNx, hlive] at hreply
      | none => exact ⟨_, by simp [Store.apply, Store.setNx, hlive]; rfl, rfl, rfl⟩
  | expire =>
      cases hlive : s.live? now.millis key with
      | none => simp [Store.apply, Store.expire, hlive] at hreply
      | some row =>
          refine ⟨{ row with expireAt := (now.expiry ttl).millis, updatedAt := now.millis }, ?_,
            rfl, ?_⟩
          · simp [Store.apply, Store.expire, hlive]
          · simp [Store.apply, hlive, valueAfter]

/-! ## The deadline of a key -/

/-- The row of a key has a deadline, or it is gone because the deadline has come by the clock. -/
def Expires (key : String) (deadline clock : Int) (s : Store) : Prop :=
  (∃ row, s.scalars[key]? = some row ∧ row.expireAt = deadline) ∨
    (s.scalars[key]? = none ∧ deadline ≤ clock)

namespace Expires

variable {deadline clock : Int} {t : Store}

theorem of_same (h : Expires key deadline clock s) (hrow : t.scalars[key]? = s.scalars[key]?) :
    Expires key deadline clock t := by
  rw [Expires, hrow]
  exact h

/-- A purge before that clock removes the row only when its deadline has come. -/
theorem purgeExpired (h : Expires key deadline clock s) {ms : Int} (hms : ms ≤ clock) :
    Expires key deadline clock (s.purgeExpired ms).2 := by
  rw [Expires, Store.purgeExpired_scalars, Store.live?]
  rcases h with ⟨row, hrow, hdeadline⟩ | ⟨hnone, hover⟩
  · rw [hrow, Option.filter_some]
    cases hlive : row.isLive ms with
    | true => exact Or.inl ⟨row, rfl, hdeadline⟩
    | false =>
        right
        rw [ScalarRow.isLive, decide_eq_false_iff_not] at hlive
        exact ⟨rfl, by omega⟩
  · rw [hnone]
    exact Or.inr ⟨rfl, hover⟩

/-- The deadline and the clock say how long a key has to live. -/
theorem held?_eq (h : Expires key deadline now.millis s) :
    (s.held? now key).map Prod.snd =
      if deadline ≤ now.millis then none else some (now.remaining (.ofMillis deadline)) := by
  rcases h with ⟨row, hrow, rfl⟩ | ⟨hnone, hover⟩
  · rw [Store.held?, Store.live?, hrow, Option.filter_some]
    by_cases hover : row.expireAt ≤ now.millis
    · have hdead : row.isLive now.millis = false := by
        rw [ScalarRow.isLive, decide_eq_false_iff_not]
        omega
      simp [hdead, hover]
    · have hlive : row.isLive now.millis = true := by
        rw [ScalarRow.isLive, decide_eq_true_eq]
        omega
      simp [hlive, hover]
  · rw [if_pos hover, Store.held?, Store.live?, hnone]
    rfl

end Expires

/-- A key that has been written expires when its span is over. -/
theorem Wrote.expires (wrote : Wrote key ttl op (s.apply now op).1) (clock : Int) :
    Expires key (now.expiry ttl).millis clock (s.apply now op).2 := by
  obtain ⟨row, hrow, hdeadline, -⟩ := wrote.row
  exact Or.inl ⟨row, hrow, hdeadline⟩

end Lifetime

end SqlCache
