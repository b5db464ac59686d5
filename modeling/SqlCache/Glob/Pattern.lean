/-!
Field patterns. A pattern is text in which a star stands for any run of characters and a question
mark for exactly one; every other character stands for itself. Stores match with operators of their
own, so a pattern is translated into the language of each (`Dialect.translate`).
-/

set_option autoImplicit false

namespace SqlCache.Glob

/-- The pattern languages of the stores. -/
inductive Dialect where
  /-- `LIKE`, with a backslash as escape. -/
  | postgres
  /-- `GLOB`, with bracket classes. -/
  | sqlite
  deriving DecidableEq, Repr

/-- A bracket is written as the class that holds it alone. -/
def toSqlite (pattern : String) : String :=
  String.ofList (pattern.toList.flatMap fun c => if c = '[' then ['[', '[', ']'] else [c])

/-- Star and question mark become percent sign and underscore; these two and the backslash are
escaped. -/
def toLike (pattern : String) : String :=
  String.ofList (pattern.toList.flatMap fun c =>
    if c = '*' then ['%']
    else if c = '?' then ['_']
    else if c = '%' ∨ c = '_' ∨ c = '\\' then ['\\', c]
    else [c])

namespace Dialect

/-- The pattern in the language of a store. -/
def translate : Dialect → String → String
  | postgres => toLike
  | sqlite => toSqlite

/-- The condition that a column matches the pattern bound at a placeholder. -/
def clause : Dialect → (column placeholder : String) → String
  | postgres, column, placeholder => column ++ " LIKE " ++ placeholder ++ " ESCAPE '\\'"
  | sqlite, column, placeholder => column ++ " GLOB " ++ placeholder

end Dialect

/-- An empty pattern selects every field. -/
def orAll (pattern : String) : String := if pattern.isEmpty then "*" else pattern

end SqlCache.Glob
