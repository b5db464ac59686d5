import SqlCache.Text.Blank

/-!
Decimal integers as counters hold them: an optional sign and ASCII digits, for a value that fits a
signed 64-bit word. `encode` writes the canonical form.
-/

set_option autoImplicit false

namespace SqlCache.Text.Integer

/-- The least value of a counter. -/
def least : Int := -9223372036854775808

/-- The greatest value of a counter. -/
def greatest : Int := 9223372036854775807

/-- Does the number lie in the range of a counter? -/
def fits (n : Int) : Bool := decide (least ≤ n) && decide (n ≤ greatest)

/-- The number a run of digits stands for. -/
def ofDigits (cs : List Char) : Nat :=
  cs.foldl (fun n c => n * 10 + (c.toNat - 48)) 0

/-- Read one or more digits. -/
def magnitude? (cs : List Char) : Option Nat :=
  if cs ≠ [] ∧ cs.all Char.isDigit then some (ofDigits cs) else none

/-- Read a sign and digits, in unbounded integers. -/
def unbounded? : List Char → Option Int
  | '-' :: cs => (magnitude? cs).map fun n => -(n : Int)
  | '+' :: cs => (magnitude? cs).map fun n => (n : Int)
  | cs => (magnitude? cs).map fun n => (n : Int)

/-- Read an integer without blanks. -/
def decode? (cs : List Char) : Option Int :=
  match unbounded? cs with
  | some n => if fits n then some n else none
  | none => none

/-- Read an integer with white space around it. -/
def read? (text : String) : Option Int := decode? (trim text.toList)

/-- Write an integer: a minus sign if it is negative, and its digits. -/
def encode (n : Int) : String :=
  if n < 0 then "-" ++ String.ofList (Nat.toDigits 10 n.natAbs)
  else String.ofList (Nat.toDigits 10 n.natAbs)

end SqlCache.Text.Integer
