/-!
Timers on a virtual clock of milliseconds. No wait is longer than thirty years.
-/

set_option autoImplicit false

namespace SqlCache.Timer

/-- The longest wait in milliseconds: thirty years of 365 days. -/
def longestMs : Nat := 946080000000

/-- The time a timer waits that is set to a number of milliseconds. -/
def wait (ms : Nat) : Nat := min ms longestMs

end SqlCache.Timer
