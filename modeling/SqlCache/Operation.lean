import Std.Data.ExtTreeSet
import SqlCache.Dialogue
import SqlCache.Error
import SqlCache.Page
import SqlCache.Time.Instant

/-!
The operations a cache offers to its clients, each with the kind of its answer. A `Script` is a
program of operations; in a `Body` an operation that fails ends the program, unless it is caught.
-/

set_option autoImplicit false

namespace SqlCache

/-- One operation on a cache. A span to live of zero means that the key never expires. -/
inductive Operation where
  /-- Write a key, whatever it held. -/
  | set (key : String) (value : ByteArray) (ttl : Duration)
  /-- The bytes of a live key. -/
  | getBytes (key : String)
  /-- Remove a key; 1 if it was live. -/
  | delete (key : String)
  /-- How many of the keys are live, or how many live keys there are if none is named. -/
  | count (keys : List String)
  /-- Write one field of a map. -/
  | setField (key field value : String)
  /-- One field of a map. -/
  | getField (key field : String)
  /-- Remove one field of a map; how many were removed. -/
  | deleteField (key field : String)
  /-- All fields of a map, in the order of the fields. -/
  | getFields (key : String)
  /-- One page of the fields of a map that match a pattern. -/
  | scan (key : String) (cursor : Nat) (pattern : String) (count : Int)
  /-- Write a key that is not live; whether this was the case. -/
  | setNx (key : String) (value : ByteArray) (ttl : Duration)
  /-- Give a live key a new expiry; whether it is live. -/
  | expire (key : String) (ttl : Duration)
  /-- How long a live key has to live; `none` if it never expires. -/
  | ttl (key : String)
  /-- Wait until no other transaction holds the key, and hold it. -/
  | lock (key : String)
  /-- Append a message to a channel. -/
  | publish (channel message : String)

namespace Operation

/-- What an operation answers when it succeeds. -/
abbrev Answer : Operation → Type
  | set .. => Unit
  | getBytes .. => ByteArray
  | delete .. => Nat
  | count .. => Int
  | setField .. => Unit
  | getField .. => String
  | deleteField .. => Int
  | getFields .. => List (String × String)
  | scan .. => Page
  | setNx .. => Bool
  | expire .. => Bool
  | ttl .. => Option Duration
  | lock .. => Unit
  | publish .. => Unit

/-- What an operation answers. -/
abbrev Reply (op : Operation) : Type := Result op.Answer

/-- What is wrong with a scan before any row is looked at: row numbers are signed 64-bit words. -/
def scanFault? (cursor : Nat) (count : Int) : Option ArgumentFault :=
  if count < 1 then some .scanCount
  else if 9223372036854775807 < cursor then some (.scanCursor cursor)
  else none

end Operation

/-- The keys of a list, each once, in order. -/
def distinct (keys : List String) : List String := (Std.ExtTreeSet.ofList keys).toList

/-- A program of operations. -/
abbrev Script := Dialogue Operation Operation.Reply

/-- A program of operations that a failing operation ends. -/
abbrev Body := ExceptT CacheError Script

/-- The text that bytes stored at a key are. -/
def textOf (key : String) (bytes : ByteArray) : Result String :=
  match String.fromUTF8? bytes with
  | some text => .ok text
  | none => .error (.validation (.notText key))

namespace Body

/-- One operation. -/
def call (op : Operation) : Body op.Answer :=
  ExceptT.mk (Dialogue.question op)

/-- A program whose failure does not end the program around it. -/
def attempt {α : Type} (body : Body α) : Body (Result α) :=
  ExceptT.mk (body.run >>= fun r => pure (.ok r))

/-- The text stored at a live key. -/
def getText (key : String) : Body String := do
  let bytes ← call (.getBytes key)
  ExceptT.mk (pure (textOf key bytes))

end Body

end SqlCache
