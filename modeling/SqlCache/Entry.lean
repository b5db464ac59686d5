import SqlCache.Value
import SqlCache.Time.Timestamp

/-!
The records a cache exchanges: fields of maps, published messages and delivery cursors, with the
plain data each is written as. A record is read from an object with its fields, others aside, or
from the list of its fields in order.
-/

set_option autoImplicit false

namespace SqlCache

/-- One field of a map. -/
structure MapEntry where
  key : String
  field : String
  value : String
  deriving DecidableEq, Repr

/-- A published message. -/
structure Message where
  id : Int
  channel : String
  payload : String
  createdAt : Timestamp
  deriving DecidableEq, Repr

/-- How far a subscriber has been served. -/
structure SubscriptionCursor where
  channel : String
  subscriber : String
  lastDelivered : Int
  deriving DecidableEq, Repr

namespace Value

/-- The parts of a record, by name from an object or by position from a list of exactly as many. -/
def record? (names : List String) : Value → Option (List Value)
  | object fields => names.mapM fun name => fields.lookup name
  | list items => if items.length = names.length then some items else none
  | _ => none

/-- Text that is a timestamp. -/
def timestamp? (v : Value) : Option Timestamp := v.text? >>= Timestamp.parse?

end Value

namespace MapEntry

/-- Read a map field. -/
def ofValue? (v : Value) : Option MapEntry := do
  match ← v.record? ["key", "field", "value"] with
  | [key, field, value] => return ⟨← key.text?, ← field.text?, ← value.text?⟩
  | _ => none

/-- Write a map field. -/
def toValue (e : MapEntry) : Value :=
  .object [("key", .text e.key), ("field", .text e.field), ("value", .text e.value)]

theorem ofValue?_toValue (e : MapEntry) : ofValue? e.toValue = some e := by
  cases e; simp [ofValue?, toValue, Value.record?, Value.text?, List.lookup_cons]

end MapEntry

namespace Message

/-- Read a message. -/
def ofValue? (v : Value) : Option Message := do
  match ← v.record? ["id", "channel", "payload", "created_at"] with
  | [id, channel, payload, createdAt] =>
    return ⟨← id.int64?, ← channel.text?, ← payload.text?, ← createdAt.timestamp?⟩
  | _ => none

/-- Write a message. -/
def toValue (m : Message) : Value :=
  .object [("id", .int m.id), ("channel", .text m.channel), ("payload", .text m.payload),
    ("created_at", .text m.createdAt.text)]

end Message

namespace SubscriptionCursor

/-- Read a delivery cursor. -/
def ofValue? (v : Value) : Option SubscriptionCursor := do
  match ← v.record? ["channel", "subscriber", "last_delivered_id"] with
  | [channel, subscriber, last] => return ⟨← channel.text?, ← subscriber.text?, ← last.int64?⟩
  | _ => none

/-- Write a delivery cursor. -/
def toValue (c : SubscriptionCursor) : Value :=
  .object [("channel", .text c.channel), ("subscriber", .text c.subscriber),
    ("last_delivered_id", .int c.lastDelivered)]

end SubscriptionCursor

end SqlCache
