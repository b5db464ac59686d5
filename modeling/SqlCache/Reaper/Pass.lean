import SqlCache.Dialogue
import SqlCache.Error
import SqlCache.Time.Instant

/-!
One pass of the reaper: remove the keys whose expiry has passed, and then the messages older than
the retention, unless messages are kept for ever.
-/

set_option autoImplicit false

namespace SqlCache.Reaper

/-- What a pass asks of a store. -/
inductive PurgeCall where
  /-- Remove the keys that have expired at an instant. -/
  | expired (now : Instant)
  /-- Remove the messages published before an instant. -/
  | messages (olderThan : Instant)
  deriving DecidableEq, Repr

/-- How many rows a purge removed. -/
abbrev PurgeCall.Reply (_ : PurgeCall) : Type := Result Nat

/-- What one pass removed. -/
structure Stats where
  expired : Nat
  messages : Nat
  deriving DecidableEq, Repr

/-- Why a pass did not come to its end. -/
inductive Failure where
  /-- The store failed. -/
  | store (error : CacheError)
  /-- The instant before which messages are old lies outside all years. -/
  | cutoffOutOfRange
  deriving DecidableEq, Repr

/-- The text of a failure. -/
def Failure.message : Failure → String
  | store error => error.message
  | cutoffOutOfRange => "`DateTime - TimeDelta` overflowed"

/-- A pass, or a part of it. -/
abbrev Program := ExceptT Failure (Dialogue PurgeCall PurgeCall.Reply)

/-- One purge. -/
def purge (call : PurgeCall) : Program Nat :=
  ExceptT.mk (Dialogue.question call >>= fun r => pure (r.mapError .store))

/-- The messages part of a pass. A retention of zero, or one too long to subtract, keeps all. -/
def purgeMessages (now : Instant) (retention : Duration) : Program Nat :=
  if retention.isZero || !retention.isAddable then pure 0
  else match now.sub? retention with
    | some cutoff => purge (.messages cutoff)
    | none => throw .cutoffOutOfRange

/-- One pass at a reading of the clock. -/
def pass (now : Instant) (retention : Duration) : Program Stats := do
  let expired ← purge (.expired now)
  let messages ← purgeMessages now retention
  return ⟨expired, messages⟩

end SqlCache.Reaper
