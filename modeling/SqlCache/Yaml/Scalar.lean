import SqlCache.Yaml.Cursor

/-!
Scalars as they are written: plain, in quotes, and in blocks. Each reader returns the text of the
scalar and the place after it, or nothing if the scalar is malformed. Line breaks inside a scalar
are folded: a single one reads as a space, and of several the first is dropped.
-/

set_option autoImplicit false

namespace SqlCache.Yaml

/-- How a scalar is written. -/
inductive ScalarStyle where
  | plain
  | singleQuoted
  | doubleQuoted
  | literal
  | folded
  deriving DecidableEq, Repr

/-- Blanks and line breaks between two parts of a scalar. -/
structure Gap where
  /-- Blanks before the first line break. -/
  blanks : List Char := []
  /-- The first line break. -/
  first : List Char := []
  /-- The line breaks after it, the last one first. -/
  others : List Char := []
  /-- Has a line ended? -/
  isBroken : Bool := false

namespace Gap

/-- What a gap reads as. -/
def fold (g : Gap) : List Char :=
  if !g.isBroken then g.blanks
  else if g.first = ['\n'] then (if g.others = [] then [' '] else g.others.reverse)
  else g.first ++ g.others.reverse

/-- Read a gap. Where `indent` is given, a tab to the left of it is malformed. -/
def read? (indent : Option Int) : (fuel : Nat) → Gap → Cursor → Option (Gap × Cursor)
  | 0, _, _ => none
  | fuel + 1, g, c =>
    match c.peek? 0 with
    | none => some (g, c)
    | some ch =>
      if isBlank ch then
        if ch == '\t' && g.isBroken && indent.any (fun i => decide ((c.column : Int) < i)) then none
        else if g.isBroken then read? indent fuel g (c.skip 1)
        else read? indent fuel { g with blanks := g.blanks ++ [ch] } (c.skip 1)
      else if isBreak ch then
        let (text, c) := c.lineBreak
        if g.isBroken then read? indent fuel { g with others := text ++ g.others } c
        else read? indent fuel { g with blanks := [], first := text, isBroken := true } c
      else some (g, c)

end Gap

namespace Scalar

/-- The value of a run of hexadecimal digits, if all are. -/
def hex? (cs : List Char) : Option Nat :=
  cs.foldl (fun n c => do
    let n ← n
    let d ← if c.isDigit then some (c.toNat - 48)
      else if 'a' ≤ c ∧ c ≤ 'f' then some (c.toNat - 87)
      else if 'A' ≤ c ∧ c ≤ 'F' then some (c.toNat - 55)
      else none
    return n * 16 + d) (some 0)

/-- The character of a code point, if there is one. -/
def charOf? (n : Nat) : Option Char :=
  if n.isValidChar then some (Char.ofNat n) else none

/-- The character after a backslash that stands for another one. -/
def escape? : Char → Option Char
  | '0' => some '\x00'
  | 'a' => some '\x07'
  | 'b' => some '\x08'
  | 't' => some '\t'
  | '\t' => some '\t'
  | 'n' => some '\n'
  | 'v' => some '\x0b'
  | 'f' => some '\x0c'
  | 'r' => some '\r'
  | 'e' => some '\x1b'
  | ' ' => some ' '
  | '"' => some '"'
  | '/' => some '/'
  | '\\' => some '\\'
  | 'N' => some '\u0085'
  | '_' => some '\u00a0'
  | 'L' => some '\u2028'
  | 'P' => some '\u2029'
  | _ => none

/-- How many hexadecimal digits follow a character after a backslash. -/
def escapeDigits? : Char → Option Nat
  | 'x' => some 2
  | 'u' => some 4
  | 'U' => some 8
  | _ => none

/-- The character that an escape stands for, and the place after the escape. -/
def escaped? (c : Cursor) : Option (Char × Cursor) := do
  let kind ← c.peek? 1
  match escapeDigits? kind with
  | some n =>
    let digits := (c.rest.drop 2).take n
    if digits.length < n then none
    else
      let ch ← hex? digits >>= charOf?
      return (ch, c.skip (2 + n))
  | none => return (← escape? kind, c.skip 2)

/-- A part of a quoted scalar without blanks. The flag tells that it ends with an escaped line
break. -/
def quotedPart? (isSingle : Bool) :
    (fuel : Nat) → (text : List Char) → Cursor → Option (List Char × Bool × Cursor)
  | 0, _, _ => none
  | fuel + 1, text, c =>
    match c.peek? 0 with
    | none => some (text, false, c)
    | some ch =>
      if isBlank ch || isBreak ch then some (text, false, c)
      else if isSingle then
        if ch == '\x27' then
          if c.sees '\x27' 1 then quotedPart? isSingle fuel ('\x27' :: text) (c.skip 2)
          else some (text, false, c)
        else quotedPart? isSingle fuel (ch :: text) (c.skip 1)
      else if ch == '"' then some (text, false, c)
      else if ch == '\\' then
        if (c.peek? 1).any isBreak then some (text, true, (c.skip 1).lineBreak.2)
        else
          match escaped? c with
          | none => none
          | some (ch, c) => quotedPart? isSingle fuel (ch :: text) c
      else quotedPart? isSingle fuel (ch :: text) (c.skip 1)

/-- The rest of a quoted scalar, after its opening quote. The text read so far is reversed. -/
def quotedRest? (isSingle : Bool) :
    (fuel : Nat) → (text : List Char) → Cursor → Option (List Char × Cursor)
  | 0, _, _ => none
  | fuel + 1, text, c =>
    if c.atDocumentMark || c.rest.isEmpty then none
    else
      match quotedPart? isSingle c.bound text c with
      | none => none
      | some (text, isBroken, c) =>
        if c.sees (if isSingle then '\x27' else '"') 0 then some (text.reverse, c.skip 1)
        else
          match Gap.read? none c.bound { isBroken } c with
          | none => none
          | some (gap, c) => quotedRest? isSingle fuel (gap.fold.reverse ++ text) c

/-- A quoted scalar. -/
def quoted? (isSingle : Bool) (c : Cursor) : Option (List Char × Cursor) :=
  quotedRest? isSingle c.bound [] (c.skip 1)

/-- The characters that separate things inside brackets and braces. -/
def isFlowIndicator (c : Char) : Bool :=
  c == ',' || c == '[' || c == ']' || c == '{' || c == '}'

/-- A part of a plain scalar without blanks. Inside brackets a colon must not stand before an
indicator. The text is reversed. -/
def plainPart? (inFlow : Bool) :
    (fuel : Nat) → (text : List Char) → Cursor → Option (List Char × Cursor)
  | 0, _, _ => none
  | fuel + 1, text, c =>
    match c.peek? 0 with
    | none => some (text, c)
    | some ch =>
      if isBlank ch || isBreak ch then some (text, c)
      else if inFlow && ch == ':' && (c.peek? 1).any fun d => isFlowIndicator d || d == '?' then
        none
      else if ch == ':' && isBoundary (c.peek? 1) then some (text, c)
      else if inFlow && isFlowIndicator ch then some (text, c)
      else plainPart? inFlow fuel (ch :: text) (c.skip 1)

/-- A plain scalar from one of its parts on, with the gap before it. The flag tells that a line has
ended after the scalar. -/
def plainRest? (inFlow : Bool) (indent : Int) :
    (fuel : Nat) → (text : List Char) → Gap → Cursor → Option (List Char × Bool × Cursor)
  | 0, _, _, _ => none
  | fuel + 1, text, gap, c =>
    if c.atDocumentMark || c.sees '#' 0 then some (text.reverse, gap.isBroken, c)
    else
      match plainPart? inFlow c.bound [] c with
      | none => none
      | some (part, c) =>
        let isEmpty := part.isEmpty
        let text := if isEmpty then text else part ++ gap.fold.reverse ++ text
        let gap := if isEmpty then gap else {}
        if !(c.peek? 0).any (fun ch => isBlank ch || isBreak ch) then
          some (text.reverse, gap.isBroken, c)
        else
          match Gap.read? (some indent) c.bound gap c with
          | none => none
          | some (gap, c) =>
            if !inFlow && decide ((c.column : Int) < indent) then
              some (text.reverse, gap.isBroken, c)
            else plainRest? inFlow indent fuel text gap c

/-- A plain scalar inside a block of a given indentation. -/
def plain? (inFlow : Bool) (indent : Int) (c : Cursor) : Option (List Char × Bool × Cursor) :=
  plainRest? inFlow (indent + 1) c.bound [] {} c

/-- What becomes of the line breaks at the end of a block. -/
inductive Chomping where
  | strip
  | clip
  | keep
  deriving DecidableEq, Repr

/-- The chomping sign, if one comes next. -/
def chomping? (c : Cursor) : Option (Chomping × Cursor) :=
  if c.sees '+' 0 then some (.keep, c.skip 1)
  else if c.sees '-' 0 then some (.strip, c.skip 1)
  else none

/-- The indentation digit, 0 if none comes next; the digit 0 itself is malformed. -/
def increment? (c : Cursor) : Option (Nat × Cursor) :=
  match c.peek? 0 with
  | some ch =>
    if ch == '0' then none
    else if ch.isDigit then some (ch.toNat - 48, c.skip 1)
    else some (0, c)
  | none => some (0, c)

/-- The signs after the indicator of a block, in either order. -/
def blockHeader? (c : Cursor) : Option (Chomping × Nat × Cursor) := do
  match chomping? c with
  | some (chomping, c) =>
    let (increment, c) ← increment? c
    return (chomping, increment, c)
  | none =>
    let (increment, c) ← increment? c
    if increment = 0 then return (.clip, 0, c)
    else
      match chomping? c with
      | some (chomping, c) => return (chomping, increment, c)
      | none => return (.clip, increment, c)

/-- The indentation spaces and empty lines before a line of a block. While the indentation is not
known, it is `none`; `widest` is the widest one seen. The line breaks found so far are reversed. -/
def blockGap? (indent : Option Nat) :
    (fuel : Nat) → (widest : Nat) → (breaks : List Char) → Cursor →
      Option (Nat × List Char × Cursor)
  | 0, _, _, _ => none
  | fuel + 1, widest, breaks, c =>
    let spaces := (c.run (· == ' ')).length
    let c := c.skip (match indent with
      | none => spaces
      | some i => min spaces (i - c.column))
    let widest := max widest c.column
    if (indent.all fun i => decide (c.column < i)) && c.sees '\t' 0 then none
    else if (c.peek? 0).any isBreak then
      let (text, c) := c.lineBreak
      blockGap? indent fuel widest (text ++ breaks) c
    else some (widest, breaks.reverse, c)

/-- The lines of a block. `last` is the end of the line before and `breaks` are the empty lines
after it; `afterBlank` tells that this line began with a blank. The text is reversed. -/
def blockLines? (isLiteral : Bool) (chomping : Chomping) (indent : Nat) :
    (fuel : Nat) → (text last breaks : List Char) → (afterBlank : Bool) → Cursor →
      Option (List Char × Cursor)
  | 0, _, _, _, _, _ => none
  | fuel + 1, text, last, breaks, afterBlank, c =>
    if c.column = indent ∧ c.rest ≠ [] then
      let isBlankLine := (c.peek? 0).any isBlank
      let joint :=
        if !isLiteral && last == ['\n'] && !afterBlank && !isBlankLine then
          (if breaks.isEmpty then [' '] else [])
        else last
      let line := c.run (!isBreak ·)
      let text := line.reverse ++ breaks.reverse ++ joint.reverse ++ text
      let (last, c) := (c.skip line.length).lineBreak
      match blockGap? (some indent) c.bound 0 [] c with
      | none => none
      | some (_, breaks, c) =>
        blockLines? isLiteral chomping indent fuel text last breaks isBlankLine c
    else
      let tail := match chomping with
        | .strip => []
        | .clip => last
        | .keep => last ++ breaks
      some (text.reverse ++ tail, c)

/-- A block scalar inside a block of a given indentation. -/
def block? (isLiteral : Bool) (parent : Int) (c : Cursor) : Option (List Char × Cursor) := do
  let (chomping, increment, c) ← blockHeader? (c.skip 1)
  let c ← c.restOfLine?
  let fixed : Option Nat :=
    if increment = 0 then none
    else some (if 0 ≤ parent then parent.toNat + increment else increment)
  let (widest, breaks, c) ← blockGap? fixed c.bound 0 [] c
  let indent := fixed.getD (max widest (max (parent + 1) 1).toNat)
  blockLines? isLiteral chomping indent c.bound [] [] breaks false c

end Scalar

end SqlCache.Yaml
