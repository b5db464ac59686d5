import SqlCache.PubSub.Log
import SqlCache.Store.Basic
import SqlCache.Time.Instant

/-!
The message log of a store: delivery cursors and the messages past them.
-/

set_option autoImplicit false

namespace SqlCache

open Std

namespace Store

variable (s : Store)

/-- The messages of a channel past an id, in the order of their ids, as many as asked for. -/
def messagesAfter (channel : String) (after limit : Int) : List LogEntry :=
  ((s.messages.toList.filter fun r => decide (r.2.channel = channel) && decide (after < r.1)).map
    fun r => ⟨r.1, r.2.payload⟩).take limit.toNat

/-- Add a cursor that has delivered nothing, unless the subscriber has one. -/
def attach (now : Int) (channel subscriber : String) : Store :=
  if (channel, subscriber) ∈ s.cursors then s
  else { s with cursors := s.cursors.insert (channel, subscriber) ⟨PubSub.start, now, now⟩ }

/-- Move a cursor, if the subscriber has one. -/
def advance (now : Int) (channel subscriber : String) (id : Int) : Store :=
  match s.cursors[(channel, subscriber)]? with
  | some row =>
    { s with
      cursors := s.cursors.insert (channel, subscriber) { row with last := id, updatedAt := now } }
  | none => s

/-- Remove a cursor. -/
def detach (channel subscriber : String) : Store :=
  { s with cursors := s.cursors.erase (channel, subscriber) }

/-- The answer of a call on the log at a reading of the clock, and the store after it. -/
def applyLog (now : Instant) : (call : PubSub.LogCall) → call.Reply × Store
  | .attach channel subscriber =>
    let s := s.attach now.millis channel subscriber
    let last := ((s.cursors[(channel, subscriber)]?).map CursorRow.last).getD PubSub.start
    (.ok last, s)
  | .fetchAfter channel after limit => (.ok (s.messagesAfter channel after limit), s)
  | .advance channel subscriber id => (.ok (), s.advance now.millis channel subscriber id)
  | .detach channel subscriber => (.ok (), s.detach channel subscriber)

end Store

end SqlCache
