/-!
Variables in configuration text. A dollar sign followed by a name, or by a name in braces, stands
for the value of that variable in the environment, which is empty if the variable is not set. Text
is taken apart once, from left to right (`Piece.ofText`), and values are never looked at again.
-/

set_option autoImplicit false

namespace SqlCache

/-- The variables of a process. -/
structure Environment where
  entries : List (String × String) := []

/-- The value of a variable: what follows the name and an equals sign in the first entry that
starts with these. -/
def Environment.value? (env : Environment) (name : String) : Option String :=
  if name.isEmpty then none
  else
    let start := name.toList ++ ['=']
    env.entries.findSome? fun (key, value) =>
      let entry := key.toList ++ '=' :: value.toList
      if start.isPrefixOf entry then some (String.ofList (entry.drop start.length)) else none

namespace Config

/-- A piece of configuration text. -/
inductive Piece where
  /-- Text that stays as it is. -/
  | verbatim (text : List Char)
  /-- A variable, to be replaced by its value. -/
  | reference (name : List Char)
  deriving DecidableEq, Repr

namespace Piece

/-- The characters of a name without braces. -/
def isNameChar (c : Char) : Bool := c.isAlphanum || c == '_'

/-- What a piece becomes. -/
def expand (env : Environment) : Piece → List Char
  | verbatim text => text
  | reference name => ((env.value? (String.ofList name)).getD "").toList

theorem length_dropWhile_le {α : Type} (p : α → Bool) (l : List α) :
    (l.dropWhile p).length ≤ l.length :=
  (List.dropWhile_suffix p).length_le

/-- The pieces of a text. A brace that is not closed makes the rest of the text verbatim. -/
def ofText : List Char → List Piece
  | [] => []
  | '$' :: '{' :: rest =>
    match _h : rest.dropWhile fun c => c ≠ '}' with
    | [] => [verbatim ('$' :: '{' :: rest)]
    | _ :: after => reference (rest.takeWhile fun c => c ≠ '}') :: ofText after
  | '$' :: rest =>
    match rest.takeWhile isNameChar with
    | [] => verbatim ['$'] :: ofText rest
    | name => reference name :: ofText (rest.dropWhile isNameChar)
  | c :: rest =>
    verbatim (c :: rest.takeWhile fun c => c ≠ '$') :: ofText (rest.dropWhile fun c => c ≠ '$')
termination_by text => text.length
decreasing_by
  · have := length_dropWhile_le (fun c => c ≠ '}') rest
    simp_all only [ne_eq, decide_not, List.length_cons]
    omega
  · simp
  · exact Nat.lt_succ_of_le (length_dropWhile_le _ _)
  · exact Nat.lt_succ_of_le (length_dropWhile_le _ _)

end Piece

/-- The text with all variables replaced. -/
def expand (env : Environment) (text : String) : String :=
  String.ofList ((Piece.ofText text.toList).flatMap (Piece.expand env))

end Config

end SqlCache
