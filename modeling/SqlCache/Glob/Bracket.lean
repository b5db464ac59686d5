import SqlCache.Glob.Pattern

/-!
The operator `GLOB` of the SQLite store: star, question mark and bracket classes, case-sensitive,
on text that ends at its first NUL. Main definition: `selects`, which says whether a pattern picks
a field; it works by rows (`suffixMatches`), so that its cost is the product of the two lengths.

The operator reads U+FFFE and U+FFFF as U+FFFD, except in the literal text that a pattern starts
with, which the store looks up in its index.
-/

set_option autoImplicit false

namespace SqlCache.Glob

/-- One element of a class. -/
inductive ClassItem where
  | one (c : Char)
  | range (low high : Char)
  deriving DecidableEq, Repr

/-- One element of a pattern. -/
inductive Token where
  /-- A star. -/
  | run
  /-- A question mark. -/
  | any
  /-- A character that stands for itself. -/
  | char (c : Char)
  /-- A bracket class. -/
  | set (negated : Bool) (items : List ClassItem)
  /-- A class that is not closed: it matches nothing. -/
  | never
  deriving DecidableEq, Repr

/-- How the operator reads a character. -/
def fold (c : Char) : Char := if c = '\ufffe' ∨ c = '\uffff' then '\ufffd' else c

/-- Does an element of a class hold a character? -/
def ClassItem.holds (c : Char) : ClassItem → Bool
  | one d => c = d
  | range low high => decide (low ≤ c) && decide (c ≤ high)

/-- Does a token other than a star accept a character? -/
def Token.accepts (c : Char) : Token → Bool
  | run => false
  | any => true
  | char d => fold c = d
  | set negated items => items.any (ClassItem.holds (fold c)) != negated
  | never => false

/-- Text up to its first NUL. -/
def cut (cs : List Char) : List Char := cs.takeWhile fun c => c ≠ '\x00'

/-- The elements of a class after its opening, up to the bracket that closes it. `prior` is the
character a following hyphen makes the start of a range. A bracket that closes nothing yet has been
taken before. -/
def classItems : (prior : Option Char) → List Char → Option (List ClassItem × List Char)
  | _, [] => none
  | _, ']' :: rest => some ([], rest)
  | prior, '-' :: c :: rest =>
    match prior with
    | some low =>
      if c = ']' then
        some ([.one '-'], rest)
      else
        (classItems none rest).map fun (items, rest) => (.range low (fold c) :: items, rest)
    | none =>
      (classItems (some '-') (c :: rest)).map fun (items, rest) => (.one '-' :: items, rest)
  | _, c :: rest =>
    (classItems (some (fold c)) rest).map fun (items, rest) => (.one (fold c) :: items, rest)
termination_by _ cs => cs.length

/-- A class after its opening bracket: a caret negates it, and a bracket in front is an element. -/
def bracketClass (cs : List Char) : Option (Token × List Char) :=
  let negated := cs.head? == some '^'
  let body := if negated then cs.drop 1 else cs
  let leading := body.head? == some ']'
  let items := classItems none (if leading then body.drop 1 else body)
  items.map fun (items, rest) =>
    (.set negated (if leading then .one ']' :: items else items), rest)

/-- The tokens of a pattern. A class that is not closed ends them. `fuel` bounds the number of
tokens. -/
def tokensFuel : (fuel : Nat) → List Char → List Token
  | 0, _ => []
  | _, [] => []
  | fuel + 1, '*' :: rest => .run :: tokensFuel fuel rest
  | fuel + 1, '?' :: rest => .any :: tokensFuel fuel rest
  | fuel + 1, '[' :: rest =>
    match bracketClass rest with
    | some (token, rest) => token :: tokensFuel fuel rest
    | none => [.never]
  | fuel + 1, c :: rest => .char (fold c) :: tokensFuel fuel rest

/-- The tokens of a pattern: there are at most as many as characters. -/
def tokens (cs : List Char) : List Token := tokensFuel cs.length cs

/-- For every suffix, longest first, whether it or a shorter one is in the row. -/
def reachable : List Bool → List Bool
  | [] => []
  | b :: row =>
    let rest := reachable row
    (b || rest.head?.getD false) :: rest

/-- For every suffix of the subject, longest first, whether the tokens match the whole of it. -/
def suffixMatches : List Token → List Char → List Bool
  | [], cs => cs.map (fun _ => false) ++ [true]
  | .run :: ts, cs => reachable (suffixMatches ts cs)
  | t :: ts, cs =>
    List.zipWith (fun c b => t.accepts c && b) cs (suffixMatches ts cs).tail ++ [false]

/-- Do the tokens match the whole subject? -/
def accepts (ts : List Token) (cs : List Char) : Bool :=
  (suffixMatches ts cs).head?.getD false

/-- The text a pattern starts with, up to the first character with a meaning. -/
def literalHead (cs : List Char) : List Char :=
  cs.takeWhile fun c => c ≠ '*' ∧ c ≠ '?' ∧ c ≠ '['

/-- Does the pattern select the field? -/
def selects (pattern field : List Char) : Bool :=
  let pattern := cut pattern
  let field := cut field
  (literalHead pattern).isPrefixOf field && accepts (tokens pattern) field

/-- Is the pattern literal text followed by one star and nothing else, so that the index alone
answers it? -/
def isHeadOnly (pattern : List Char) : Bool :=
  let pattern := cut pattern
  let head := literalHead pattern
  !head.isEmpty && pattern = head ++ ['*']

/-- Longest translated pattern, in bytes, that the operator takes. -/
def longestPattern : Nat := 50000

/-- Is the pattern too long for the operator, on a field it would have to look at? -/
def isTooComplex (pattern : String) (field : List Char) : Bool :=
  decide (longestPattern < pattern.utf8ByteSize) && !isHeadOnly pattern.toList &&
    (literalHead (cut pattern.toList)).isPrefixOf (cut field)

end SqlCache.Glob
