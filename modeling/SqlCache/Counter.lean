import SqlCache.Plan
import SqlCache.Text.Integer
import SqlCache.Time.Expiry

/-!
Counters: integers stored as decimal text. An increment reads, adds and writes in one transaction
and holds the key meanwhile; a missing key counts as 0. A counter keeps the expiry it had, and a
new one never expires.
-/

set_option autoImplicit false

namespace SqlCache.Counter

open Body

/-- The value of a counter and how long it has to live. -/
def read (key : String) : Body (Int × Option Duration) := do
  match ← attempt (getText key) with
  | .ok text =>
    match Text.Integer.read? text with
    | some value => return (value, ← call (.ttl key))
    | none => throw (.validation (.notInteger key))
  | .error .notFound => return (0, none)
  | .error e => throw e

/-- Add to the counter at a key and return its new value. -/
def body (key : String) (delta : Int) : Body Int := do
  call (.lock key)
  let (current, remaining) ← read key
  let next := current + delta
  if Text.Integer.fits next then
    call (.set key (Text.Integer.encode next).toUTF8 (Duration.retained remaining))
    return next
  else throw (.validation (.overflow key))

/-- Add to the counter at a key. -/
def increment (key : String) (delta : Int) : Plan Int := .atomic (body key delta)

end SqlCache.Counter
