import SqlCache.Yaml.Document

/-!
Scalars as numbers and truth values. A plain scalar is a number if it reads as one: decimal without
leading zeros, or after `0x`, `0o` or `0b` in base 16, 8 or 2. A literal block is one only under the
tag of numbers.
-/

set_option autoImplicit false

namespace SqlCache.Yaml

namespace Number

/-- The value of a digit. -/
def digit? (radix : Nat) (c : Char) : Option Nat := do
  let d ← if c.isDigit then some (c.toNat - 48)
    else if 'a' ≤ c ∧ c ≤ 'z' then some (c.toNat - 87)
    else if 'A' ≤ c ∧ c ≤ 'Z' then some (c.toNat - 55)
    else none
  if d < radix then some d else none

/-- One or more digits. -/
def magnitude? (radix : Nat) (cs : List Char) : Option Nat :=
  if cs.isEmpty then none
  else cs.foldl (fun n c => do return (← n) * radix + (← digit? radix c)) (some 0)

/-- An integer between two bounds, with an optional sign. -/
def inRange? (least greatest : Int) (radix : Nat) (cs : List Char) : Option Int := do
  let n ← match cs with
    | '-' :: cs => if least < 0 then (magnitude? radix cs).map fun n => -(n : Int) else none
    | '+' :: cs => (magnitude? radix cs).map fun n => (n : Int)
    | cs => (magnitude? radix cs).map fun n => (n : Int)
  if least ≤ n ∧ n ≤ greatest then some n else none

/-- Is there a sign in front? -/
def isSigned : List Char → Bool
  | '+' :: _ | '-' :: _ => true
  | _ => false

/-- Two or more digits, the first a zero, after at most one sign. -/
def hasLeadingZero (cs : List Char) : Bool :=
  match (if isSigned cs then cs.drop 1 else cs) with
  | '0' :: rest => !rest.isEmpty && rest.all Char.isDigit
  | _ => false

/-- The letters that stand for bases, after a zero. -/
def radixes : List (Char × Nat) := [('x', 16), ('o', 8), ('b', 2)]

/-- The first base that the text after a sign is written in. -/
def prefixed? (least greatest : Int) (isNegative : Bool) (cs : List Char) : Option Int :=
  radixes.findSome? fun (letter, radix) =>
    if ['0', letter].isPrefixOf cs then
      let digits := cs.drop 2
      if isSigned digits then none
      else inRange? least greatest radix (if isNegative then '-' :: digits else digits)
    else none

/-- An unsigned 64-bit integer. -/
def unsigned? (text : String) : Option Nat :=
  let cs := text.toList
  let greatest : Int := 18446744073709551615
  let bare := match cs with
    | '+' :: rest => rest
    | cs => cs
  match prefixed? 0 greatest false bare with
  | some n => some n.toNat
  | none =>
    if isSigned bare || hasLeadingZero cs then none
    else (inRange? 0 greatest 10 bare).map Int.toNat

/-- A signed 64-bit integer. -/
def signed? (text : String) : Option Int :=
  let cs := text.toList
  let least : Int := -9223372036854775808
  let greatest : Int := 9223372036854775807
  let isPlus := cs.head? == some '+'
  let bare := if isPlus then cs.drop 1 else cs
  if isPlus && isSigned bare then none
  else
    match prefixed? least greatest false bare with
    | some n => some n
    | none =>
      match (if cs.head? == some '-' then prefixed? least greatest true (cs.drop 1) else none) with
      | some n => some n
      | none => if hasLeadingZero cs then none else inRange? least greatest 10 bare

/-- A truth value, in lower case, capitalised or in upper case. -/
def truth? : String → Option Bool
  | "true" | "True" | "TRUE" => some true
  | "false" | "False" | "FALSE" => some false
  | _ => none

/-- Does the text stand for nothing? -/
def isNull : String → Bool
  | "" | "~" | "null" | "Null" | "NULL" => true
  | _ => false

end Number

namespace Node

variable {ι : Type}

/-- The text of a scalar. -/
def text? : Node ι → Option String
  | .scalar _ _ _ text => some text
  | _ => none

/-- The text of a scalar that may be read as something else than text: a plain one, or a literal
block with a given tag. -/
def typedText? (expected : String) : Node ι → Option String
  | .scalar _ _ .plain text => some text
  | .scalar _ (some tag) .literal text =>
    if tag = Octets.ofString expected then some text else none
  | _ => none

/-- The text after the exclamation mark of a private tag. A lone exclamation mark is one as it
stands, and a tag that is no text is none. -/
def privateTag? : Node ι → Option String
  | .scalar _ (some tag) _ _ | .sequence _ (some tag) _ | .mapping _ (some tag) _ =>
    match tag with
    | [0x21] => some "!"
    | 0x21 :: rest => Octets.toString? rest
    | _ => none
  | _ => none

/-- Does a plain scalar stand for nothing? -/
def isNull : Node ι → Bool
  | .scalar _ _ .plain text => Number.isNull text
  | _ => false

/-- An empty plain scalar. -/
def isMissing : Node ι → Bool
  | .scalar _ _ .plain text => text.isEmpty
  | _ => false

end Node

end SqlCache.Yaml
