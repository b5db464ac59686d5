import SqlCache.Store.Basic
import SqlCache.Operation
import SqlCache.Glob.Bracket
import SqlCache.Time.Expiry

/-!
Operations on the tables. A scalar row is live while its expiry lies ahead of the clock; to every
operation a row that is not live is absent, whether or not it has been removed yet. Main definition:
`Store.apply`, the effect and the answer of one operation at one reading of the clock.
-/

set_option autoImplicit false

namespace SqlCache

open Std

namespace ScalarRow

/-- Is the row live at a millisecond? -/
def isLive (now : Int) (row : ScalarRow) : Bool := decide (now < row.expireAt)

end ScalarRow

namespace Store

variable (s : Store)

/-- The row of a live key. -/
def live? (now : Int) (key : String) : Option ScalarRow :=
  (s.scalars[key]?).filter (ScalarRow.isLive now)

/-- Write a key. A key that has a row keeps the time of its creation. -/
def set (now expireAt : Int) (key : String) (value : ByteArray) : Store :=
  let createdAt := ((s.scalars[key]?).map ScalarRow.createdAt).getD now
  { s with scalars := s.scalars.insert key ⟨value, expireAt, createdAt, now⟩ }

/-- Write a key unless it is live; a row that is not live counts as absent. -/
def setNx (now expireAt : Int) (key : String) (value : ByteArray) : Bool × Store :=
  match s.live? now key with
  | some _ => (false, s)
  | none => (true, { s with scalars := s.scalars.insert key ⟨value, expireAt, now, now⟩ })

/-- Give a live key a new expiry. -/
def expire (now expireAt : Int) (key : String) : Bool × Store :=
  match s.live? now key with
  | some row =>
    (true, { s with scalars := s.scalars.insert key { row with expireAt, updatedAt := now } })
  | none => (false, s)

/-- Remove a key; 1 if it was live. -/
def delete (now : Int) (key : String) : Nat × Store :=
  (if (s.live? now key).isSome then 1 else 0, { s with scalars := s.scalars.erase key })

/-- How many keys are live. -/
def countAll (now : Int) : Nat := (s.scalars.filter fun _ row => row.isLive now).size

/-- How many of the keys are live; a key named twice counts once. -/
def countKeys (now : Int) (keys : List String) : Nat :=
  (distinct keys).countP fun key => (s.live? now key).isSome

/-- Write one field of a map. A field that has a row keeps the time of its creation. -/
def setField (now : Int) (key field value : String) : Store :=
  let createdAt := ((s.fields[(key, field)]?).map FieldRow.createdAt).getD now
  { s with fields := s.fields.insert (key, field) ⟨value, createdAt, now⟩ }

/-- One field of a map. -/
def field? (key field : String) : Option String :=
  (s.fields[(key, field)]?).map FieldRow.value

/-- Remove one field of a map; how many were removed. -/
def deleteField (key field : String) : Nat × Store :=
  (if (key, field) ∈ s.fields then 1 else 0, { s with fields := s.fields.erase (key, field) })

/-- The fields of a map, in order. -/
def fieldsOf (key : String) : List MapEntry :=
  (s.fields.toList.filter fun r => r.1.1 = key).map fun r => ⟨key, r.1.2, r.2.value⟩

/-- The fields of a map that a translated pattern selects, in order. -/
def matching (key : String) (pattern : String) : List MapEntry :=
  (s.fieldsOf key).filter fun e => Glob.selects pattern.toList e.field.toList

/-- One page of the matching fields of a map. -/
def scan (key : String) (cursor : Nat) (pattern : String) (count : Int) : Result Page :=
  let pattern := Glob.Dialect.sqlite.translate (Glob.orAll pattern)
  if (s.fieldsOf key).any fun e => Glob.isTooComplex pattern e.field.toList then
    throw (.store .patternTooComplex)
  else
    let entries := ((s.matching key pattern).drop cursor).take count.toNat
    return Page.ofEntries cursor count entries

/-- Append a message. Ids are given out once, also when the messages are gone. -/
def publish (now : Int) (channel payload : String) : Store :=
  let id := s.lastMessageId + 1
  { s with
    messages := s.messages.insert id ⟨channel, payload, now⟩
    lastMessageId := id }

/-- The live keys among those named, or all of them. -/
def count (now : Int) (keys : List String) : Nat :=
  if keys.isEmpty then s.countAll now else s.countKeys now keys

/-- The answer of an operation at a reading of the clock, and the store after it. -/
def apply (now : Instant) : (op : Operation) → op.Reply × Store
  | .set key value ttl => (.ok (), s.set now.millis (now.expiry ttl).millis key value)
  | .getBytes key =>
    (match s.live? now.millis key with
      | some row => .ok row.value
      | none => .error .notFound, s)
  | .delete key =>
    let (n, s) := s.delete now.millis key
    (.ok n, s)
  | .count keys => (.ok (s.count now.millis keys), s)
  | .setField key field value => (.ok (), s.setField now.millis key field value)
  | .getField key field =>
    (match s.field? key field with
      | some value => .ok value
      | none => .error .notFound, s)
  | .deleteField key field =>
    let (n, s) := s.deleteField key field
    (.ok n, s)
  | .getFields key =>
    (match s.fieldsOf key with
      | [] => .error .notFound
      | es => .ok (es.map fun e => (e.field, e.value)), s)
  | .scan key cursor pattern count => (s.scan key cursor pattern count, s)
  | .setNx key value ttl =>
    let (written, s) := s.setNx now.millis (now.expiry ttl).millis key value
    (.ok written, s)
  | .expire key ttl =>
    let (updated, s) := s.expire now.millis (now.expiry ttl).millis key
    (.ok updated, s)
  | .ttl key =>
    (match s.live? now.millis key with
      | some row => .ok (now.remaining (Instant.ofMillis row.expireAt))
      | none => .error .notFound, s)
  | .lock _ => (.ok (), s)
  | .publish channel message => (.ok (), s.publish now.millis channel message)

end Store

end SqlCache
