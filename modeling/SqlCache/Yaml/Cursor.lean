/-!
Places in a YAML text. A `Cursor` is the text that is left and where it starts. The characters that
end lines are line feed, carriage return, these two together, next line, and the line and paragraph
separators; in a scalar the first four of them read as a line feed.
-/

set_option autoImplicit false

namespace SqlCache.Yaml

/-- Is the character allowed in a YAML text? -/
def isPrintable (c : Char) : Bool :=
  let n := c.toNat
  n == 0x09 || n == 0x0a || n == 0x0d || (0x20 ≤ n && n ≤ 0x7e) || n == 0x85 ||
    (0xa0 ≤ n && n ≤ 0xd7ff) || (0xe000 ≤ n && n ≤ 0xfffd) || 0x10000 ≤ n

/-- Does the character end a line? -/
def isBreak (c : Char) : Bool :=
  c == '\n' || c == '\r' || c == '\u0085' || c == '\u2028' || c == '\u2029'

/-- A space or a tab. -/
def isBlank (c : Char) : Bool := c == ' ' || c == '\t'

/-- A letter, a digit, a hyphen or an underscore of ASCII. -/
def isWordChar (c : Char) : Bool := c.isAlphanum || c == '-' || c == '_'

/-- What comes next is a blank, the end of a line or the end of the text. -/
def isBoundary : Option Char → Bool
  | none => true
  | some c => isBlank c || isBreak c

/-- What comes next is the end of a line or the end of the text. -/
def isLineEnd : Option Char → Bool
  | none => true
  | some c => isBreak c

/-- The text that is left, and how many octets, lines and characters of the line precede it. -/
structure Cursor where
  rest : List Char
  /-- More steps than it takes to go through the whole text one character at a time. -/
  bound : Nat
  index : Nat := 0
  line : Nat := 0
  column : Nat := 0

namespace Cursor

/-- The start of a text. -/
def ofList (text : List Char) : Cursor where
  rest := text
  bound := text.length + 1

variable (c : Cursor)

/-- The character some places ahead. -/
def peek? (ahead : Nat) : Option Char := c.rest[ahead]?

/-- Is a given character some places ahead? -/
def sees (ch : Char) (ahead : Nat) : Bool := c.rest[ahead]? == some ch

/-- The octets of the next characters. -/
def octets (n : Nat) : Nat := (c.rest.take n).foldl (fun sum ch => sum + ch.utf8Size) 0

/-- The place some characters further on the same line. -/
def skip (n : Nat) : Cursor :=
  { c with rest := c.rest.drop n, index := c.index + c.octets n, column := c.column + n }

/-- Skip the characters that pass a test, none of which ends a line. -/
def skipWhile (p : Char → Bool) : Cursor := c.skip (c.rest.takeWhile p).length

/-- The characters in front that pass a test. -/
def run (p : Char → Bool) : List Char := c.rest.takeWhile p

/-- The end of a line, as it reads in a scalar, and the place after it. Without one, nothing. -/
def lineBreak : List Char × Cursor :=
  let next (n : Nat) : Cursor :=
    { c with
      rest := c.rest.drop n
      index := c.index + c.octets n
      line := c.line + 1
      column := 0 }
  match c.rest with
  | '\r' :: '\n' :: _ => (['\n'], next 2)
  | ch :: _ =>
    if ch == '\u2028' || ch == '\u2029' then ([ch], next 1)
    else if isBreak ch then (['\n'], next 1)
    else ([], c)
  | [] => ([], c)

/-- The place after a line that holds nothing more than blanks and a comment. -/
def restOfLine? : Option Cursor :=
  let c := c.skipWhile isBlank
  let c := if c.sees '#' 0 then c.skipWhile (!isBreak ·) else c
  if isLineEnd (c.peek? 0) then some c.lineBreak.2 else none

/-- A line that starts with three given characters and then ends or goes on with a blank. -/
def atMark (ch : Char) : Bool :=
  c.column == 0 && c.sees ch 0 && c.sees ch 1 && c.sees ch 2 && isBoundary (c.peek? 3)

/-- A line that starts or ends a document. -/
def atDocumentMark : Bool := c.atMark '-' || c.atMark '.'

end Cursor

end SqlCache.Yaml
