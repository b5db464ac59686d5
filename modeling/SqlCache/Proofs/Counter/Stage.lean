import SqlCache.Counter
import SqlCache.Proofs.Database.Alone
import SqlCache.Proofs.Text.Integer

/-!
An increment, operation by operation. The body of an increment asks for the key's lock, its bytes
and its time to live, and then writes; `Stage` says what is known after each of these. While the key
holds the same counter at every reading of the clock, an increment that succeeds answers the sum of
this counter and its delta, and has written the text of this sum (`Stage.next`).
-/

set_option autoImplicit false

namespace SqlCache.Counter

open Text.Integer

/-- The integer that a live row stands for, if it stands for one; without a row it is 0. -/
def valueOf? : Option ScalarRow → Option Int
  | none => some 0
  | some row => (String.fromUTF8? row.value).bind read?

/-- A row with the text of a number is a counter with this value. -/
theorem valueOf?_encode {row : ScalarRow} {n : Int} (hfits : fits n = true)
    (hrow : row.value = (encode n).toUTF8) : valueOf? (some row) = some n := by
  rw [valueOf?, hrow, Text.fromUTF8?_toUTF8]
  exact read?_encode hfits

/-- What a key with such a row counts as, where it is live or is not: the integer that the row
stands for, if it stands for one, and 0 for a key that is absent or expired. -/
def countIf (live : Bool) (row? : Option ScalarRow) : Option Int :=
  valueOf? (if live then row? else none)

theorem countIf_congr {live : Bool} {row? other? : Option ScalarRow}
    (h : live = true → other? = row?) : countIf live other? = countIf live row? := by
  unfold countIf
  cases live with
  | false => rfl
  | true => rw [h rfl]

/-- Whoever reads a key that has not expired finds what it counts as. -/
theorem valueOf?_filter {live : Bool} {row? : Option ScalarRow} {now : Int}
    (unexpired : (row?.filter (ScalarRow.isLive now)).isSome = live) :
    valueOf? (row?.filter (ScalarRow.isLive now)) = countIf live row? := by
  unfold countIf
  cases live with
  | false =>
      rw [Option.isSome_eq_false_iff, Option.isNone_iff_eq_none] at unexpired
      rw [unexpired]
      rfl
  | true =>
      obtain ⟨row, hrow⟩ := Option.isSome_iff_exists.mp unexpired
      rw [hrow, if_pos rfl, (Option.filter_eq_some_iff.mp hrow).1]

/-- What a key counts as, by the answer to a request for its bytes. -/
def countOf? : Result ByteArray → Option Int
  | .ok bytes => (String.fromUTF8? bytes).bind read?
  | .error .notFound => some 0
  | .error _ => none

/-! ## The body of an increment -/

section Script

variable (key : String) (delta : Int)

/-- The end, when the new value has been written. -/
def ended (next : Int) : Result Unit → Script (Result Int)
  | .ok () => .done (.ok next)
  | .error e => .done (.error e)

/-- What remains when the counter's value and its time to live are known. -/
def adding (value : Int) (remaining : Option Duration) : Script (Result Int) :=
  if fits (value + delta) then
    .ask (.set key (encode (value + delta)).toUTF8 (Duration.retained remaining))
      (ended (value + delta))
  else .done (.error (.validation (.overflow key)))

/-- What remains when the counter's time to live has been asked for. -/
def measured (value : Int) : Result (Option Duration) → Script (Result Int)
  | .ok remaining => adding key delta value remaining
  | .error e => .done (.error e)

/-- What remains when the key's bytes have been asked for. -/
def found : Result ByteArray → Script (Result Int)
  | .ok bytes =>
    match (String.fromUTF8? bytes).map read? with
    | some (some value) => .ask (.ttl key) (measured key delta value)
    | some none => .done (.error (.validation (.notInteger key)))
    | none => .done (.error (.validation (.notText key)))
  | .error .notFound => adding key delta 0 none
  | .error e => .done (.error e)

/-- What follows the answer to the request for the bytes: a key that is absent counts as 0, one that
holds an integer has its time to live asked for, and everything else is the end. -/
theorem found_cases (reply : Result ByteArray) :
    (reply = .error .notFound ∧ found key delta reply = adding key delta 0 none) ∨
    (∃ bytes value, reply = .ok bytes ∧ countOf? reply = some value ∧
      found key delta reply = .ask (.ttl key) (measured key delta value)) ∨
    (∃ e, e ≠ .notFound ∧ reply = .error e ∧ found key delta reply = .done (.error e)) ∨
    (countOf? reply = none ∧
      ∃ fault, found key delta reply = .done (.error (.validation fault))) := by
  cases reply with
  | error e =>
      cases e with
      | notFound => exact Or.inl ⟨rfl, rfl⟩
      | notInitialized | store | validation =>
          exact Or.inr (Or.inr (Or.inl ⟨_, by simp, rfl, rfl⟩))
  | ok bytes =>
      simp only [found, countOf?]
      cases htext : String.fromUTF8? bytes with
      | none => exact Or.inr (Or.inr (Or.inr ⟨rfl, _, rfl⟩))
      | some text =>
          simp only [Option.map_some, Option.bind_some]
          cases hvalue : read? text with
          | none => exact Or.inr (Or.inr (Or.inr ⟨rfl, _, rfl⟩))
          | some value => exact Or.inr (Or.inl ⟨bytes, value, rfl, rfl, rfl⟩)

/-- What remains when the key's lock has been asked for. -/
def locked : Result Unit → Script (Result Int)
  | .ok () => .ask (.getBytes key) (found key delta)
  | .error e => .done (.error e)

theorem adding_eq (value : Int) (remaining : Option Duration) :
    (if fits (value + delta) then do
      Body.call (.set key (encode (value + delta)).toUTF8 (Duration.retained remaining))
      return value + delta
    else throw (.validation (.overflow key)) : Body Int).run =
      adding key delta value remaining := by
  unfold adding
  split
  · show Dialogue.ask _ _ = Dialogue.ask _ _
    congr 1
    funext r
    cases r with
    | ok u => rfl
    | error e => rfl
  · rfl

/-- The body of an increment, spelled out. -/
theorem body_run : (body key delta).run = .ask (.lock key) (locked key delta) := by
  show Dialogue.ask _ _ = Dialogue.ask _ _
  congr 1
  funext r
  cases r with
  | error e => rfl
  | ok u =>
      show Dialogue.ask _ _ = Dialogue.ask _ _
      congr 1
      funext r
      cases r with
      | error e =>
          cases e with
          | notFound => exact adding_eq key delta 0 none
          | _ => rfl
      | ok bytes =>
          simp only [Dialogue.bind, ExceptT.bindCont, ExceptT.mk, pure, textOf, found]
          cases String.fromUTF8? bytes with
          | none => rfl
          | some text =>
              simp only [Option.map_some]
              cases read? text with
              | none => rfl
              | some value =>
                  show Dialogue.ask _ _ = Dialogue.ask _ _
                  congr 1
                  funext r
                  cases r with
                  | error e => rfl
                  | ok remaining => exact adding_eq key delta value remaining

/-- Apart from the database an increment does not find the table that its key would be in. -/
theorem run_body_attendApart (clock : Nat → Instant) :
    ((body key delta).run.run Database.attendApart clock).1 =
      .error (.store (.noTable Store.Table.scalars.name)) := by
  rw [body_run]
  rfl

end Script

/-! ## How far an increment has come -/

/-- What is left of an increment, and what it has made of its key in its draft. Its counter is
`count`, if the key holds one; `row?` is the row of the key that was committed when the increment
began. -/
inductive Stage (key : String) (delta : Int) (count : Option Int) (row? : Option ScalarRow) :
    Script (Result Int) → Store → Prop where
  | locking {draft : Store} (same : draft.scalars[key]? = row?) :
      Stage key delta count row? (.ask (.lock key) (locked key delta)) draft
  | reading {draft : Store} (same : draft.scalars[key]? = row?) :
      Stage key delta count row? (.ask (.getBytes key) (found key delta)) draft
  | measuring {draft : Store} {value : Int} (known : count = some value)
      (same : draft.scalars[key]? = row?) :
      Stage key delta count row? (.ask (.ttl key) (measured key delta value)) draft
  | writing {draft : Store} {value : Int} {text : ByteArray} {ttl : Duration}
      (known : count = some value) (inRange : fits (value + delta) = true)
      (canonical : text = (encode (value + delta)).toUTF8) (same : draft.scalars[key]? = row?) :
      Stage key delta count row? (.ask (.set key text ttl) (ended (value + delta))) draft
  | written {draft : Store} {value : Int} {row : ScalarRow} (known : count = some value)
      (inRange : fits (value + delta) = true) (holds : draft.scalars[key]? = some row)
      (canonical : row.value = (encode (value + delta)).toUTF8) :
      Stage key delta count row? (.done (.ok (value + delta))) draft
  | failed {draft : Store} {e : CacheError} :
      Stage key delta count row? (.done (.error e)) draft

namespace Stage

variable {key : String} {delta : Int} {count : Option Int} {row? : Option ScalarRow}
variable {draft : Store}

/-- An increment that knows its counter writes the sum, or fails because the sum does not fit. -/
theorem adding {value : Int} (known : count = some value) (same : draft.scalars[key]? = row?)
    (remaining : Option Duration) :
    Stage key delta count row? (Counter.adding key delta value remaining) draft := by
  unfold Counter.adding
  split
  · next inRange => exact .writing known inRange rfl same
  · exact .failed

/-- One operation of an increment, at a reading of the clock at which the key holds the counter. -/
theorem next {op : Operation} {rest : op.Reply → Script (Result Int)} {now : Instant}
    (stage : Stage key delta count row? (.ask op rest) draft)
    (holds : valueOf? (row?.filter (ScalarRow.isLive now.millis)) = count) :
    Stage key delta count row? (rest (draft.apply now op).1) (draft.apply now op).2 := by
  cases stage with
  | locking same => exact .reading same
  | reading same =>
      have hlive : draft.live? now.millis key = row?.filter (ScalarRow.isLive now.millis) := by
        rw [Store.live?, same]
      rw [← hlive] at holds
      simp only [Store.apply]
      cases hrow : draft.live? now.millis key with
      | none =>
          rw [hrow] at holds
          exact adding holds.symm same none
      | some row =>
          rw [hrow] at holds
          simp only [found]
          cases htext : String.fromUTF8? row.value with
          | none => exact .failed
          | some text =>
              simp only [Option.map_some]
              cases hvalue : Text.Integer.read? text with
              | none => exact .failed
              | some value =>
                  have known : count = some value := by
                    rw [← holds, valueOf?, htext]
                    exact hvalue
                  exact .measuring known same
  | measuring known same =>
      simp only [Store.apply]
      cases draft.live? now.millis key with
      | none => exact .failed
      | some row => exact adding known same _
  | writing known inRange canonical same =>
      have hrow : ∀ row : ScalarRow, (draft.scalars.insert key row)[key]? = some row :=
        fun row => Std.ExtTreeMap.getElem?_insert_self
      exact .written known inRange (hrow _) canonical

/-- A write that the store refuses ends an increment. -/
theorem next_refused {op : Operation} {rest : op.Reply → Script (Result Int)} {fault : StoreFault}
    (stage : Stage key delta count row? (.ask op rest) draft) (hop : op.isWrite = true) :
    Stage key delta count row? (rest (.error (.store fault))) draft := by
  cases stage with
  | locking | reading | measuring => cases hop
  | writing known inRange canonical same => exact .failed

/-- One operation of an increment in a transaction. -/
theorem applyInside {d : Database} {now : Instant} {op : Operation} {draft : Draft}
    {rest : op.Reply → Script (Result Int)} (hd : d.draft = some draft)
    (stage : Stage key delta count row? (.ask op rest) draft.store)
    (holds : valueOf? (row?.filter (ScalarRow.isLive now.millis)) = count) :
    ∃ draft', (d.applyInside now op).2 = { d with draft := some draft' } ∧
      Stage key delta count row? (rest (d.applyInside now op).1) draft'.store := by
  have hop : op.refusal? = none := by
    cases stage <;> rfl
  rcases Database.applyInside_of_refusal_eq_none hd hop now with ⟨hwrite, hsame⟩ | ⟨touched, happly⟩
  · rw [hsame]
    refine ⟨draft, ?_, stage.next_refused hwrite⟩
    rw [← hd]
  · rw [happly]
    exact ⟨_, rfl, stage.next holds⟩

/-- An increment that succeeds answers the sum of its counter and its delta, and has written it. -/
theorem of_ok {value : Int} (stage : Stage key delta count row? (.done (.ok value)) draft) :
    ∃ before, count = some before ∧ value = before + delta ∧ fits value = true ∧
      ∃ row, draft.scalars[key]? = some row ∧ row.value = (encode value).toUTF8 := by
  cases stage with
  | written known inRange holds canonical =>
      exact ⟨_, known, rfl, inRange, _, holds, canonical⟩

end Stage

end SqlCache.Counter
