/-!
Plain data as texts carry it: nothing, truth values, numbers, text, lists and objects. Numbers
that are not written as integers are told apart only from integers.
-/

set_option autoImplicit false

namespace SqlCache

/-- A tree of plain data. The fields of an object stand in the order of its text. -/
inductive Value where
  | null
  | bool (b : Bool)
  | int (n : Int)
  /-- A number with a fraction or an exponent. -/
  | real
  | text (s : String)
  | list (items : List Value)
  | object (fields : List (String × Value))
  deriving Inhabited, Repr

namespace Value

/-- The text of a text value. -/
def text? : Value → Option String
  | text s => some s
  | _ => none

/-- The integer of an integer value that fits a signed 64-bit word. -/
def int64? : Value → Option Int
  | int n => if -9223372036854775808 ≤ n ∧ n ≤ 9223372036854775807 then some n else none
  | _ => none

/-- The integer of an integer value that fits an unsigned 64-bit word. -/
def nat64? : Value → Option Nat
  | int n => if 0 ≤ n ∧ n ≤ 18446744073709551615 then some n.toNat else none
  | _ => none

/-- The truth value of a truth value. -/
def bool? : Value → Option Bool
  | bool b => some b
  | _ => none

/-- The field of an object. -/
def field? (name : String) : Value → Option Value
  | object fields => fields.lookup name
  | _ => none

end Value

end SqlCache
