/-!
Octets, as names and tags hold them that need not be text.
-/

set_option autoImplicit false

namespace SqlCache

/-- A run of octets. -/
abbrev Octets := List UInt8

namespace Octets

/-- The octets of a text. -/
def ofString (text : String) : Octets := text.toUTF8.toList

/-- The text that the octets are, if they are one. -/
def toString? (octets : Octets) : Option String := String.fromUTF8? ⟨octets.toArray⟩

/-- The octets before the first zero. -/
def beforeZero (octets : Octets) : Octets := octets.takeWhile (· != 0)

/-- The parts between the places where an octet stands. -/
def split (separator : UInt8) : Octets → List Octets
  | [] => [[]]
  | octet :: rest =>
    if octet = separator then [] :: split separator rest
    else match split separator rest with
      | part :: parts => (octet :: part) :: parts
      | [] => [[octet]]

end Octets

end SqlCache
