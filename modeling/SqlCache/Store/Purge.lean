import SqlCache.Reaper.Pass
import SqlCache.Store.Live

/-!
Purges of a store: the scalar rows that are not live, and the messages of before a millisecond.
-/

set_option autoImplicit false

namespace SqlCache

namespace Store

variable (s : Store)

/-- Remove the scalar rows that are not live; how many there were. -/
def purgeExpired (now : Int) : Nat × Store :=
  let kept := s.scalars.filter fun _ row => row.isLive now
  (s.scalars.size - kept.size, { s with scalars := kept })

/-- Remove the messages published before a millisecond; how many there were. -/
def purgeMessages (cutoff : Int) : Nat × Store :=
  let kept := s.messages.filter fun _ row => decide (cutoff ≤ row.createdAt)
  (s.messages.size - kept.size, { s with messages := kept })

/-- The answer of a purge, and the store after it. -/
def applyPurge : (call : Reaper.PurgeCall) → call.Reply × Store
  | .expired now =>
    let (n, s) := s.purgeExpired now.millis
    (.ok n, s)
  | .messages olderThan =>
    let (n, s) := s.purgeMessages olderThan.millis
    (.ok n, s)

end Store

end SqlCache
