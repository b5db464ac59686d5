/-!
Instants and spans of time, counted in nanoseconds. Instants are proleptic Gregorian years -262143
to 262142; arithmetic that leaves this range says so. Stores keep instants as whole milliseconds
(`Instant.millis`), always rounded toward the past, or as microseconds.
-/

set_option autoImplicit false

namespace SqlCache

/-- A span of time in nanoseconds. -/
structure Duration where
  nanos : Nat
  deriving DecidableEq, Repr

/-- A point in time, in nanoseconds since the start of 1970 in UTC. -/
structure Instant where
  nanos : Int
  deriving DecidableEq, Repr

namespace Duration

/-- The empty span. -/
def zero : Duration := ⟨0⟩

/-- A whole number of seconds. -/
def ofSeconds (seconds : Nat) : Duration := ⟨seconds * 1000000000⟩

/-- A whole number of milliseconds. -/
def ofMillis (millis : Nat) : Duration := ⟨millis * 1000000⟩

/-- Seconds and nanoseconds. -/
def ofParts (seconds nanos : Nat) : Duration := ⟨seconds * 1000000000 + nanos⟩

/-- The whole seconds of a span. -/
def seconds (d : Duration) : Nat := d.nanos / 1000000000

/-- The nanoseconds beyond the whole seconds. -/
def subsecond (d : Duration) : Nat := d.nanos % 1000000000

/-- The whole milliseconds of a span. -/
def millis (d : Duration) : Nat := d.nanos / 1000000

/-- The longest span that can be added to an instant: the milliseconds of a signed 64-bit word. -/
def longest : Duration := ofMillis 9223372036854775807

/-- Is the span empty? -/
def isZero (d : Duration) : Bool := d.nanos == 0

/-- Can the span be added to an instant at all? -/
def isAddable (d : Duration) : Bool := d.nanos ≤ longest.nanos

end Duration

namespace Instant

instance : LE Instant := ⟨fun a b => a.nanos ≤ b.nanos⟩

instance : LT Instant := ⟨fun a b => a.nanos < b.nanos⟩

instance (a b : Instant) : Decidable (a ≤ b) :=
  inferInstanceAs (Decidable (a.nanos ≤ b.nanos))

instance (a b : Instant) : Decidable (a < b) :=
  inferInstanceAs (Decidable (a.nanos < b.nanos))

theorem le_def {a b : Instant} : a ≤ b ↔ a.nanos ≤ b.nanos := Iff.rfl

theorem lt_def {a b : Instant} : a < b ↔ a.nanos < b.nanos := Iff.rfl

/-- Seconds and nanoseconds since the start of 1970. -/
def ofParts (seconds : Int) (nanos : Int) : Instant := ⟨seconds * 1000000000 + nanos⟩

/-- The whole seconds, rounded toward the past. -/
def seconds (t : Instant) : Int := t.nanos / 1000000000

/-- The nanoseconds since the last whole second. -/
def subsecond (t : Instant) : Int := t.nanos % 1000000000

/-- The first nanosecond of the year -262143. -/
def earliest : Instant := ⟨-8334601228800000000000⟩

/-- The last nanosecond of the year 262142. -/
def latest : Instant := ⟨8210266876799999999999⟩

/-- Does the instant lie in the years that instants range over? -/
def isRepresentable (t : Instant) : Bool := decide (earliest ≤ t) && decide (t ≤ latest)

/-- The instant a span later, if there is one. -/
def add? (t : Instant) (d : Duration) : Option Instant :=
  let later : Instant := ⟨t.nanos + d.nanos⟩
  if d.isAddable && later.isRepresentable then some later else none

/-- The instant a span earlier, if there is one. -/
def sub? (t : Instant) (d : Duration) : Option Instant :=
  let before : Instant := ⟨t.nanos - d.nanos⟩
  if d.isAddable && before.isRepresentable then some before else none

/-- The span from one instant to a later one; empty when it is not later. -/
def upTo (t later : Instant) : Duration := ⟨(later.nanos - t.nanos).toNat⟩

/-- The millisecond an instant lies in, counted from the start of 1970. -/
def millis (t : Instant) : Int := t.nanos / 1000000

/-- The microsecond an instant is stored as where the count starts in 2000: what is finer than a
microsecond is dropped toward that start. -/
def micros (t : Instant) : Int :=
  let epoch : Int := 946684800000000
  epoch + Int.tdiv (t.nanos - epoch * 1000) 1000

end Instant

end SqlCache
