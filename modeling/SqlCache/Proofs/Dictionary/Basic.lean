import Mathlib.Data.Finset.Card
import Mathlib.Data.Finset.Dedup
import SqlCache.Plan
import SqlCache.Store.Basic
import SqlCache.Time.Expiry

/-!
A dictionary whose entries run out: what the scalar and map operations of a cache mean, without
tables. An entry is kept with the millisecond at which it is gone, and before every call the entries
are taken out whose millisecond has come; so what a dictionary holds during a call is present. The
fields of maps never run out.
-/

set_option autoImplicit false

namespace SqlCache

open Std

/-- The value of a key, and the millisecond at which it is gone. -/
structure Dictionary.Entry where
  value : ByteArray
  deadline : Int

/-- A finite map from keys to values that run out, and one from keys and fields to text. -/
structure Dictionary where
  entries : ExtTreeMap String Dictionary.Entry
  /-- By key and field. -/
  fields : ExtTreeMap (String × String) String comparePairs

namespace Dictionary

/-- A call on keys and on the fields of maps. A span to live of zero means for ever. -/
inductive Call where
  | set (key : String) (value : ByteArray) (ttl : Duration)
  | setNx (key : String) (value : ByteArray) (ttl : Duration)
  | expire (key : String) (ttl : Duration)
  | delete (key : String)
  | getBytes (key : String)
  | getText (key : String)
  | ttl (key : String)
  | count (keys : List String)
  | setField (key field value : String)
  | getField (key field : String)
  | deleteField (key field : String)
  | getFields (key : String)

namespace Call

/-- The operation a call comes down to. -/
def operation : Call → Operation
  | set key value span => .set key value span
  | setNx key value span => .setNx key value span
  | expire key span => .expire key span
  | delete key => .delete key
  | getBytes key | getText key => .getBytes key
  | ttl key => .ttl key
  | count keys => .count keys
  | setField key field value => .setField key field value
  | getField key field => .getField key field
  | deleteField key field => .deleteField key field
  | getFields key => .getFields key

/-- What a call answers when it succeeds. -/
abbrev Answer : Call → Type
  | set .. | setField .. => Unit
  | setNx .. | expire .. => Bool
  | delete .. => Nat
  | getBytes .. => ByteArray
  | getText .. | getField .. => String
  | ttl .. => Option Duration
  | count .. | deleteField .. => Int
  | getFields .. => List (String × String)

/-- What the answer of its operation means to a call. -/
def read : (c : Call) → c.operation.Answer → Result c.Answer
  | getText key, bytes => textOf key bytes
  | set .., a | setNx .., a | expire .., a | delete .., a | getBytes .., a | ttl .., a
  | count .., a | setField .., a | getField .., a | deleteField .., a | getFields .., a => .ok a

/-- How a call is put to a cache. -/
def plan (c : Call) : Plan c.Answer := .single c.operation c.read

/-- The answers to calls made one after another, each at its reading of the clock. -/
def answers {σ : Type} (perform : Instant → (c : Call) → σ → Result c.Answer × σ) :
    List (Instant × Call) → σ → List ((c : Call) × Result c.Answer)
  | [], _ => []
  | (now, c) :: rest, s => ⟨c, (perform now c s).1⟩ :: answers perform rest (perform now c s).2

end Call

/-- A dictionary that holds nothing. -/
def empty : Dictionary := ⟨∅, ∅⟩

/-- The millisecond at which an entry written at `now` is gone. -/
def deadline (now : Instant) (ttl : Duration) : Int :=
  if ttl = .zero then Instant.never.millis
  else min (now.nanos + ttl.nanos) Instant.never.nanos / 1000000

variable (d : Dictionary)

/-- The dictionary at a millisecond: without the entries that are gone by then. -/
def present (now : Int) : Dictionary :=
  { d with entries := d.entries.filter fun _ entry => decide (now < entry.deadline) }

/-- Write an entry. -/
def write (key : String) (entry : Entry) : Dictionary :=
  { d with entries := d.entries.insert key entry }

/-- How long an entry has to live; `none` if for ever. -/
def Entry.remaining (now : Instant) (entry : Entry) : Option Duration :=
  if entry.deadline = Instant.never.millis then none
  else some ⟨(entry.deadline * 1000000 - now.nanos).toNat⟩

/-- How many of the keys have an entry, each counted once; all entries if no key is named. -/
def count (keys : List String) : Nat :=
  if keys = [] then d.entries.size
  else {key ∈ keys.toFinset | key ∈ d.entries}.card

/-- The fields of a map with their texts, in order. -/
def fieldsOf (key : String) : List (String × String) :=
  (d.fields.toList.filter fun r => r.1.1 = key).map fun r => (r.1.2, r.2)

/-- The answer to a call while all entries are present, and the dictionary after it. -/
def answer (now : Instant) : (c : Call) → Result c.Answer × Dictionary
  | .set key value ttl => (.ok (), d.write key ⟨value, deadline now ttl⟩)
  | .setNx key value ttl =>
    if key ∈ d.entries then (.ok false, d)
    else (.ok true, d.write key ⟨value, deadline now ttl⟩)
  | .expire key ttl =>
    match d.entries[key]? with
    | some entry => (.ok true, d.write key ⟨entry.value, deadline now ttl⟩)
    | none => (.ok false, d)
  | .delete key =>
    (.ok (if key ∈ d.entries then 1 else 0), { d with entries := d.entries.erase key })
  | .getBytes key =>
    (match d.entries[key]? with
      | some entry => .ok entry.value
      | none => .error .notFound, d)
  | .getText key =>
    (match d.entries[key]? with
      | some entry => textOf key entry.value
      | none => .error .notFound, d)
  | .ttl key =>
    (match d.entries[key]? with
      | some entry => .ok (entry.remaining now)
      | none => .error .notFound, d)
  | .count keys => (.ok (d.count keys), d)
  | .setField key field value => (.ok (), { d with fields := d.fields.insert (key, field) value })
  | .getField key field =>
    (match d.fields[(key, field)]? with
      | some value => .ok value
      | none => .error .notFound, d)
  | .deleteField key field =>
    (.ok (if (key, field) ∈ d.fields then 1 else 0),
      { d with fields := d.fields.erase (key, field) })
  | .getFields key =>
    (if d.fieldsOf key = [] then .error .notFound else .ok (d.fieldsOf key), d)

/-- The answer to a call, and the dictionary after it. -/
def perform (now : Instant) (c : Call) (d : Dictionary) : Result c.Answer × Dictionary :=
  (d.present now.millis).answer now c

/-! ## The passing of time -/

/-- An entry that is present and does not live for ever has exactly the time up to its deadline to
live: the clock is not there yet in nanoseconds either. -/
theorem Entry.remaining_of_lt {now : Instant} {entry : Entry}
    (hpresent : now.millis < entry.deadline) (hends : entry.deadline ≠ Instant.never.millis) :
    ∃ left : Duration, entry.remaining now = some left ∧
      (left.nanos : Int) = entry.deadline * 1000000 - now.nanos := by
  refine ⟨⟨(entry.deadline * 1000000 - now.nanos).toNat⟩, if_neg hends, ?_⟩
  unfold Instant.millis at hpresent
  exact Int.toNat_of_nonneg (by omega)

variable {d : Dictionary}

theorem getElem?_present (now : Int) (key : String) :
    (d.present now).entries[key]? =
      (d.entries[key]?).filter fun entry => decide (now < entry.deadline) := by
  simp [present]

/-- What is gone stays gone, so it does not matter how often one has looked before. -/
theorem present_present {now later : Int} (h : now ≤ later) :
    (d.present now).present later = d.present later := by
  simp only [present, mk.injEq, and_true]
  ext1 key
  simp only [ExtTreeMap.getElem?_filter', Option.filter_filter]
  congr 1
  funext entry
  have hboth : (now < entry.deadline ∧ later < entry.deadline) ↔ later < entry.deadline := by
    omega
  rw [← Bool.decide_and, decide_eq_decide]
  exact hboth

end Dictionary

end SqlCache
