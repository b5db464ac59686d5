import SqlCache.Time.Instant

/-!
Expiry instants. A span to live of zero means that an entry never expires, which is stored as the
instant `Instant.never`; whatever would expire later than that never expires either.
-/

set_option autoImplicit false

namespace SqlCache

namespace Instant

/-- The last millisecond of the year 9999: the expiry of entries that never expire. -/
def never : Instant := ⟨253402300799999000000⟩

/-- The instant of a stored millisecond. A count that is no instant reads as `never`. -/
def ofMillis (ms : Int) : Instant :=
  let t : Instant := ⟨ms * 1000000⟩
  if t.isRepresentable then t else never

/-- The expiry of an entry written at `now` to live for `ttl`. -/
def expiry (now : Instant) (ttl : Duration) : Instant :=
  if ttl.isZero then never
  else match now.add? ttl with
    | none => never
    | some t => if t ≤ never then t else never

/-- How long an entry expiring at `expiry` has to live; `none` when it never expires. -/
def remaining (now expiry : Instant) : Option Duration :=
  if never ≤ expiry then none else some (now.upTo expiry)

end Instant

namespace Duration

/-- The span to write back when a value is replaced and its expiry has to stay. An entry whose time
has just run out still expires, so it gets a millisecond and not a zero. -/
def retained : Option Duration → Duration
  | none => zero
  | some d => if d.isZero then ofMillis 1 else d

end Duration

end SqlCache
