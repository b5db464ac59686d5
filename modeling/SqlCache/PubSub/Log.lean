import SqlCache.Dialogue
import SqlCache.Error

/-!
What a subscription asks of a message log. Messages have ids that grow; a subscriber's cursor is
the id of the last message handed to it.
-/

set_option autoImplicit false

namespace SqlCache

/-- A message as a subscription sees it. -/
structure LogEntry where
  id : Int
  payload : String
  deriving DecidableEq, Repr

namespace PubSub

/-- The cursor of a subscriber that has been handed nothing. -/
def start : Int := -1

/-- One call on a message log. -/
inductive LogCall where
  /-- Make sure that the subscriber has a cursor, and read it. -/
  | attach (channel subscriber : String)
  /-- The messages of a channel past an id, in order, at most `limit` of them. -/
  | fetchAfter (channel : String) (after limit : Int)
  /-- Store a subscriber's cursor. -/
  | advance (channel subscriber : String) (id : Int)
  /-- Remove a subscriber's cursor. -/
  | detach (channel subscriber : String)
  deriving DecidableEq, Repr

namespace LogCall

/-- What a call answers when it succeeds. -/
abbrev Answer : LogCall → Type
  | attach .. => Int
  | fetchAfter .. => List LogEntry
  | advance .. => Unit
  | detach .. => Unit

/-- What a call answers. -/
abbrev Reply (call : LogCall) : Type := Result call.Answer

/-- Does the call write to the log, also when it would change nothing? -/
def isWrite : LogCall → Bool
  | attach .. | advance .. | detach .. => true
  | fetchAfter .. => false

end LogCall

end PubSub

end SqlCache
