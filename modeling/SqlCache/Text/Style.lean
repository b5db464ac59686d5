/-!
Text that stands out on a terminal. It does so only where colours are asked for.
-/

set_option autoImplicit false

namespace SqlCache.Text

/-- How a text stands out. -/
inductive Style where
  /-- Green: something went well. -/
  | good
  /-- Red: something failed. -/
  | bad
  /-- Dim: of less importance. -/
  | faint
  deriving DecidableEq, Repr

namespace Style

/-- The number a terminal knows the style by. -/
def code : Style → String
  | good => "32"
  | bad => "31"
  | faint => "2"

/-- A text in a style, if it is to stand out at all. -/
def paint (style : Style) (isColoured : Bool) (text : String) : String :=
  if isColoured then "\x1b[" ++ style.code ++ "m" ++ text ++ "\x1b[0m" else text

end Style

end SqlCache.Text
