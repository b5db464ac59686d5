/-!
White space in the sense of Unicode: the characters with the property `White_Space`.
-/

set_option autoImplicit false

namespace SqlCache.Text

/-- Is the character white space? -/
def isBlank (c : Char) : Bool :=
  let n := c.toNat
  (9 ≤ n && n ≤ 13) || n == 0x20 || n == 0x85 || n == 0xa0 || n == 0x1680 ||
    (0x2000 ≤ n && n ≤ 0x200a) || n == 0x2028 || n == 0x2029 || n == 0x202f || n == 0x205f ||
    n == 0x3000

/-- Drop white space at both ends. -/
def trim (cs : List Char) : List Char :=
  ((cs.dropWhile isBlank).reverse.dropWhile isBlank).reverse

/-- Text without white space in front has none dropped there. -/
theorem dropWhile_isBlank_of_head {c : Char} {cs : List Char} (h : isBlank c = false) :
    (c :: cs).dropWhile isBlank = c :: cs := by
  simp [List.dropWhile, h]

end SqlCache.Text
