import SqlCache.Text.Octets
import SqlCache.Yaml.Scalar

/-!
The tokens of a YAML text. Indentation becomes tokens too: one where a block sequence or mapping
starts and one where it ends. A key without a question mark is recognised when the colon after it is
found, and its token is put in front of it then; so every place where such a key may start is
remembered, one for each level of brackets. Main definition: `Token.ofText?`.
-/

set_option autoImplicit false

namespace SqlCache.Yaml

/-- A token. -/
inductive Token where
  | documentStart
  | documentEnd
  | version (major minor : Nat)
  | tagPrefix (handle : String) (pre : Octets)
  | blockSequenceStart
  | blockMappingStart
  | blockEnd
  | flowSequenceStart
  | flowSequenceEnd
  | flowMappingStart
  | flowMappingEnd
  | blockEntry
  | flowEntry
  | key
  | value
  | alias (name : String)
  | anchor (name : String)
  | tag (handle : String) (suffix : Octets)
  | scalar (style : ScalarStyle) (text : String)
  deriving DecidableEq, Repr

/-- A place where a key without a question mark may have started. -/
structure SimpleKey where
  isPossible : Bool := false
  /-- In a block, what starts a line at the indentation of the block has to be a key. -/
  isRequired : Bool := false
  /-- How many tokens precede it. -/
  position : Nat := 0
  index : Nat := 0
  line : Nat := 0
  column : Nat := 0

/-- A text taken apart up to a place. -/
structure Scanner where
  cursor : Cursor
  tokens : Array Token := #[]
  /-- The indentation of the innermost block, -1 outside of blocks. -/
  indent : Int := -1
  outerIndents : List Int := []
  /-- May a key start here? -/
  allowsKey : Bool := true
  /-- The last place in the innermost brackets, and those of the brackets around. -/
  key : SimpleKey := {}
  outerKeys : List SimpleKey := []

namespace Scanner

variable (s : Scanner)

/-- Inside brackets or braces. -/
def inFlow : Bool := !s.outerKeys.isEmpty

/-- Add a token. -/
def push (t : Token) : Scanner := { s with tokens := s.tokens.push t }

/-- Move on some characters. -/
def skip (n : Nat) : Scanner := { s with cursor := s.cursor.skip n }

/-- Skip blanks, comments and line ends. A tab is a blank only where no key may start. A byte order
mark may start a line. -/
def skipToToken : (fuel : Nat) → Scanner → Scanner
  | 0, s => s
  | fuel + 1, s =>
    let c := if s.cursor.column = 0 ∧ s.cursor.sees '\ufeff' 0 then s.cursor.skip 1 else s.cursor
    let c := c.skipWhile fun ch =>
      ch == ' ' || ((s.inFlow || !s.allowsKey) && ch == '\t')
    let c := if c.sees '#' 0 then c.skipWhile (!isBreak ·) else c
    if (c.peek? 0).any isBreak then
      skipToToken fuel { s with cursor := c.lineBreak.2, allowsKey := s.allowsKey || !s.inFlow }
    else { s with cursor := c }

/-- A key lies on one line and has at most 1024 octets. -/
def refreshKey? (c : Cursor) (k : SimpleKey) : Option SimpleKey :=
  if k.isPossible && (decide (k.line < c.line) || decide (k.index + 1024 < c.index)) then
    if k.isRequired then none else some { k with isPossible := false }
  else some k

/-- Forget the places that lie too far back. -/
def refreshKeys? : Option Scanner := do
  let key ← refreshKey? s.cursor s.key
  let outerKeys ← s.outerKeys.mapM (refreshKey? s.cursor)
  return { s with key, outerKeys }

/-- Forget the last place. -/
def removeKey? : Option Scanner :=
  if s.key.isPossible && s.key.isRequired then none
  else some { s with key := { s.key with isPossible := false } }

/-- Remember this place, if a key may start here. -/
def saveKey? : Option Scanner :=
  if s.allowsKey then do
    let isRequired := !s.inFlow && decide (s.indent = (s.cursor.column : Int))
    let s ← s.removeKey?
    let c := s.cursor
    return { s with key := ⟨true, isRequired, s.tokens.size, c.index, c.line, c.column⟩ }
  else some s

/-- Start a block at a column further right than the innermost one; its token stands before the
tokens from a position on. -/
def openBlock (column position : Nat) (t : Token) : Scanner :=
  if !s.inFlow && decide (s.indent < (column : Int)) then
    { s with
      outerIndents := s.indent :: s.outerIndents
      indent := column
      tokens := s.tokens.insertIdxIfInBounds position t }
  else s

/-- End the blocks further right than a column. -/
def closeBlocks (column : Int) : Scanner :=
  if s.inFlow then s
  else
    let rec go (indent : Int) (outer : List Int) (tokens : Array Token) : Scanner :=
      if column < indent then
        match outer with
        | [] => { s with indent := -1, outerIndents := [], tokens := tokens.push .blockEnd }
        | o :: outer => go o outer (tokens.push .blockEnd)
      else { s with indent, outerIndents := outer, tokens }
    go s.indent s.outerIndents s.tokens

/-! ## Directives, anchors and tags -/

/-- A number of at most nine digits. -/
def versionNumber? (c : Cursor) : Option (Nat × Cursor) :=
  let digits := c.run Char.isDigit
  if digits.isEmpty || 9 < digits.length then none
  else some (digits.foldl (fun n d => n * 10 + (d.toNat - 48)) 0, c.skip digits.length)

/-- An octet written as a percent sign and two hexadecimal digits. -/
def octet? (c : Cursor) : Option (Nat × Cursor) :=
  if c.sees '%' 0 then
    let digits := (c.rest.drop 1).take 2
    if digits.length = 2 then (Scalar.hex? digits).map fun n => (n, c.skip 3) else none
  else none

/-- How many octets a character has whose first octet is given. -/
def characterSize? (octet : Nat) : Option Nat :=
  if octet < 0x80 then some 1
  else if octet / 0x20 = 6 then some 2
  else if octet / 0x10 = 14 then some 3
  else if octet / 0x08 = 30 then some 4
  else none

/-- The octets of a character after its first. -/
def trailingOctets? : (count : Nat) → Cursor → Option (Octets × Cursor)
  | 0, c => some ([], c)
  | count + 1, c => do
    let (octet, c) ← octet? c
    if octet / 0x40 = 2 then
      let (octets, c) ← trailingOctets? count c
      return (octet.toUInt8 :: octets, c)
    else none

/-- The octets of one character. That they stand for one is not asked for. -/
def uriEscape? (c : Cursor) : Option (Octets × Cursor) := do
  let (octet, c) ← octet? c
  let size ← characterSize? octet
  let (octets, c) ← trailingOctets? (size - 1) c
  return (octet.toUInt8 :: octets, c)

/-- The characters of a tag. Some of them are allowed only where no bracket can be meant. -/
def isUriChar (isWide : Bool) (c : Char) : Bool :=
  isWordChar c || ";/?:@&=+$.%!~*()".contains c || c == '\x27' ||
    (isWide && (c == ',' || c == '[' || c == ']'))

/-- The octets of a tag, those read so far reversed. -/
def uri (isWide : Bool) : (fuel : Nat) → (text : Octets) → Cursor → Option (Octets × Cursor)
  | 0, _, _ => none
  | fuel + 1, text, c =>
    match c.peek? 0 with
    | some ch =>
      if isUriChar isWide ch then
        if ch == '%' then
          match uriEscape? c with
          | some (octets, c) => uri isWide fuel (octets.reverse ++ text) c
          | none => none
        else uri isWide fuel (ch.toNat.toUInt8 :: text) (c.skip 1)
      else some (text.reverse, c)
    | none => some (text.reverse, c)

/-- The octets of a tag after a text that belongs to it. -/
def tagText? (isWide : Bool) (text : List Char) (c : Cursor) : Option (Octets × Cursor) :=
  uri isWide c.bound (Octets.ofString (String.ofList text)).reverse c

/-- A handle: exclamation marks around a word, the second one possibly missing. -/
def handle? (c : Cursor) : Option (List Char × Cursor) :=
  if c.sees '!' 0 then
    let word := (c.skip 1).run isWordChar
    let c := c.skip (1 + word.length)
    if c.sees '!' 0 then some ('!' :: word ++ ['!'], c.skip 1) else some ('!' :: word, c)
  else none

/-- A directive, with the rest of its line. -/
def directive? (c : Cursor) : Option (Token × Cursor) := do
  let c := c.skip 1
  let name := c.run isWordChar
  let c := c.skip name.length
  if name.isEmpty || !isBoundary (c.peek? 0) then none
  else if name = "YAML".toList then
    let (major, c) ← versionNumber? (c.skipWhile isBlank)
    if !c.sees '.' 0 then none
    else
      let (minor, c) ← versionNumber? (c.skip 1)
      return (.version major minor, ← c.restOfLine?)
  else if name = "TAG".toList then
    let (handle, c) ← handle? (c.skipWhile isBlank)
    if handle.length ≠ 1 ∧ handle.getLast? ≠ some '!' then none
    else if !(c.peek? 0).any isBlank then none
    else
      let (pre, c) ← tagText? true [] (c.skipWhile isBlank)
      if pre.isEmpty || !isBoundary (c.peek? 0) then none
      else return (.tagPrefix (String.ofList handle) pre.beforeZero, ← c.restOfLine?)
  else none

/-- The name of an anchor or an alias. -/
def anchorName? (c : Cursor) : Option (String × Cursor) :=
  let name := (c.skip 1).run isWordChar
  let c := c.skip (1 + name.length)
  if name.isEmpty then none
  else if isBoundary (c.peek? 0) || (c.peek? 0).any ("?:,]\x7d%@\x60".contains ·) then
    some (String.ofList name, c)
  else none

/-- A tag: in angle brackets, or with a handle in front of it. It ends before a zero. -/
def tagParts? (c : Cursor) : Option (List Char × Octets × Cursor) := do
  if c.sees '<' 1 then
    let (text, c) ← tagText? true [] (c.skip 2)
    if text.isEmpty || !c.sees '>' 0 then none else return ([], text.beforeZero, c.skip 1)
  else
    let (handle, c) ← handle? c
    if 1 < handle.length ∧ handle.getLast? = some '!' then
      let (suffix, c) ← tagText? false [] c
      if suffix.isEmpty then none else return (handle, suffix.beforeZero, c)
    else
      let (suffix, c) ← tagText? false (handle.drop 1) c
      if suffix.beforeZero.isEmpty then return ([], Octets.ofString "!", c)
      else return (['!'], suffix.beforeZero, c)

/-- A tag, and that something may follow it here. -/
def tag? (inFlow : Bool) (c : Cursor) : Option (Token × Cursor) := do
  let (handle, suffix, c) ← tagParts? c
  if isBoundary (c.peek? 0) || (inFlow && c.sees ',' 0) then
    return (.tag (String.ofList handle) suffix, c)
  else none

/-! ## One token -/

/-- A token that may be a key itself. -/
def pushNode? (read : Cursor → Option (Token × Cursor)) : Option Scanner := do
  let s ← s.saveKey?
  let (t, cursor) ← read s.cursor
  return { s with allowsKey := false, cursor }.push t

/-- A directive, or the start or the end of a document. -/
def pushBoundary? (t : Token) (cursor : Cursor) : Option Scanner := do
  let s ← (s.closeBlocks (-1)).removeKey?
  return { s with allowsKey := false, cursor }.push t

/-- An opening bracket. -/
def openFlow? (t : Token) : Option Scanner := do
  let s ← s.saveKey?
  return ({ s with outerKeys := s.key :: s.outerKeys, key := {}, allowsKey := true }.skip 1).push t

/-- A closing bracket. -/
def closeFlow? (t : Token) : Option Scanner := do
  let s ← s.removeKey?
  let s := match s.outerKeys with
    | key :: outerKeys => { s with key, outerKeys }
    | [] => s
  return ({ s with allowsKey := false }.skip 1).push t

/-- A comma. -/
def flowEntry? : Option Scanner := do
  let s ← s.removeKey?
  return ({ s with allowsKey := true }.skip 1).push .flowEntry

/-- A hyphen. -/
def blockEntry? : Option Scanner := do
  if !s.inFlow && !s.allowsKey then none
  else
    let s ← (s.openBlock s.cursor.column s.tokens.size .blockSequenceStart).removeKey?
    return ({ s with allowsKey := true }.skip 1).push .blockEntry

/-- A question mark. -/
def keyMark? : Option Scanner := do
  if !s.inFlow && !s.allowsKey then none
  else
    let s ← (s.openBlock s.cursor.column s.tokens.size .blockMappingStart).removeKey?
    return ({ s with allowsKey := !s.inFlow }.skip 1).push .key

/-- A colon: what the last remembered place holds turns out to be a key. -/
def valueMark? : Option Scanner :=
  if s.key.isPossible then
    let k := s.key
    let s := { s with tokens := s.tokens.insertIdxIfInBounds k.position .key }
    let s := s.openBlock k.column k.position .blockMappingStart
    let s := { s with key := { k with isPossible := false }, allowsKey := false }
    some ((s.skip 1).push .value)
  else if !s.inFlow && !s.allowsKey then none
  else
    let s := s.openBlock s.cursor.column s.tokens.size .blockMappingStart
    some (({ s with allowsKey := !s.inFlow }.skip 1).push .value)

/-- A scalar in a block of its own lines. -/
def blockScalar? (isLiteral : Bool) : Option Scanner := do
  let s ← s.removeKey?
  let (text, cursor) ← Scalar.block? isLiteral s.indent s.cursor
  let style := if isLiteral then ScalarStyle.literal else .folded
  return { s with allowsKey := true, cursor }.push (.scalar style (String.ofList text))

/-- A scalar without quotes. After one that a line end follows, a key may start. -/
def plainScalar? : Option Scanner := do
  let s ← s.saveKey?
  let (text, isBroken, cursor) ← Scalar.plain? s.inFlow s.indent s.cursor
  return { s with allowsKey := isBroken, cursor }.push (.scalar .plain (String.ofList text))

/-- Can a plain scalar start here? -/
def startsPlain (ch : Char) : Bool :=
  let next := s.cursor.peek? 1
  if ch == '-' then !next.any isBlank
  else if ch == '?' || ch == ':' then !s.inFlow && !isBoundary next
  else !isBoundary (some ch) && !",[]\x7b\x7d#&*!|>\"%@\x60".contains ch && ch != '\x27'

/-- The next token, at a character that is not blank. -/
def next? (ch : Char) : Option Scanner :=
  let c := s.cursor
  let ends := isBoundary (c.peek? 1)
  if c.column = 0 ∧ ch = '%' then do
    let (t, c) ← directive? c
    s.pushBoundary? t c
  else if c.atMark '-' then s.pushBoundary? .documentStart (c.skip 3)
  else if c.atMark '.' then s.pushBoundary? .documentEnd (c.skip 3)
  else if ch = '[' then s.openFlow? .flowSequenceStart
  else if ch = '\x7b' then s.openFlow? .flowMappingStart
  else if ch = ']' then s.closeFlow? .flowSequenceEnd
  else if ch = '\x7d' then s.closeFlow? .flowMappingEnd
  else if ch = ',' then s.flowEntry?
  else if ch = '-' ∧ ends then s.blockEntry?
  else if ch = '?' ∧ (s.inFlow ∨ ends) then s.keyMark?
  else if ch = ':' ∧ (s.inFlow ∨ ends) then s.valueMark?
  else if ch = '*' then
    s.pushNode? fun c => (anchorName? c).map fun (name, c) => (.alias name, c)
  else if ch = '&' then
    s.pushNode? fun c => (anchorName? c).map fun (name, c) => (.anchor name, c)
  else if ch = '!' then s.pushNode? (tag? s.inFlow)
  else if ch = '|' ∧ !s.inFlow then s.blockScalar? true
  else if ch = '>' ∧ !s.inFlow then s.blockScalar? false
  else if ch = '\x27' then
    s.pushNode? fun c => (Scalar.quoted? true c).map fun (text, c) =>
      (.scalar .singleQuoted (String.ofList text), c)
  else if ch = '"' then
    s.pushNode? fun c => (Scalar.quoted? false c).map fun (text, c) =>
      (.scalar .doubleQuoted (String.ofList text), c)
  else if s.startsPlain ch then s.plainScalar?
  else none

/-- All tokens. Every token takes at least one character, so `fuel` need not be more than these. -/
def all? : (fuel : Nat) → Scanner → Option (List Token)
  | 0, _ => none
  | fuel + 1, s => do
    let s := skipToToken s.cursor.bound s
    let s ← s.refreshKeys?
    match s.cursor.rest with
    | [] =>
      let s ← (s.closeBlocks (-1)).removeKey?
      return s.tokens.toList
    | ch :: _ =>
      let s ← (s.closeBlocks s.cursor.column).next? ch
      all? fuel s

end Scanner

/-- The tokens of a text, if it can be taken apart. -/
def Token.ofText? (text : String) : Option (List Token) :=
  let cursor := Cursor.ofList text.toList
  if cursor.rest.all isPrintable then Scanner.all? cursor.bound { cursor } else none

end SqlCache.Yaml
