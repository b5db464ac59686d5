import SqlCache.Text.Emoji

/-!
The width of text on a terminal, in columns. A character takes the columns that it has by itself,
unless what follows joins it into one sign: letters of some scripts form ligatures, a selector shows
a symbol as an emoji or as text, and a joiner makes one emoji of several. So the width is found from
the end of the text to its start, with a note of what the characters that follow leave open.
-/

set_option autoImplicit false

namespace SqlCache.Text

/-- What the characters that follow leave open for the character before them. -/
inductive Context where
  | plain
  | lineFeed
  /-- An Arabic letter alef: a lam before it takes no column of its own. -/
  | alef
  /-- A Hebrew lamed, perhaps with a joiner before it. -/
  | lamed (joiner : Bool)
  /-- A Khmer letter that can be written below the one before. -/
  | subscript
  /-- A Buginese ya, perhaps with a joiner before it. -/
  | ya (joiner : Bool)
  /-- A Buginese ya with the vowel i and a joiner between them. -/
  | vowelYa
  /-- A Tifinagh letter, perhaps with a joiner before it. -/
  | tifinagh (joiner : Bool)
  /-- A Tifinagh letter with the script's own joiner before it. -/
  | joinedTifinagh
  /-- A Lisu tone letter of the second row. -/
  | lisuTone
  /-- An Old Turkic letter i, perhaps with a joiner before it. -/
  | orkhon (joiner : Bool)
  /-- A Kirat Rai vowel e. -/
  | vowelE
  /-- A Kirat Rai vowel ai. -/
  | vowelAi
  /-- The last letter of a flag. -/
  | regional
  /-- Two letters of flags or more. -/
  | regionals
  | modifier
  | emoji
  /-- An emoji with a joiner before it. -/
  | joined
  /-- The same, with a keycap before the joiner. -/
  | joinedKeycap
  /-- The same, with one letter of a flag, an even number of them or a greater odd one. -/
  | joinedRegional
  | joinedFlag
  | joinedFlags
  /-- The same, with the end of a tag and this many letters of the tag. -/
  | joinedTag (letters : Nat)
  /-- The same, with this many digits of the tag. -/
  | joinedTagDigits (digits : Nat)
  deriving DecidableEq, Repr

namespace Context

/-- What is left of a context when a selector stands before it or a selector is passed over: only
ligatures of letters stay open. -/
def ligature : Context → Context
  | .alef => .alef
  | .lamed joiner => .lamed joiner
  | .subscript => .subscript
  | .ya joiner => .ya joiner
  | .vowelYa => .vowelYa
  | .tifinagh joiner => .tifinagh joiner
  | .joinedTifinagh => .joinedTifinagh
  | .lisuTone => .lisuTone
  | .orkhon joiner => .orkhon joiner
  | _ => .plain

/-- What is left of a context when the selector of emoji stands before it. -/
def selected : Context → Context
  | .joined => .joined
  | .joinedKeycap => .joinedKeycap
  | context => context.ligature

/-- Does a symbol that is selected as an emoji belong to the emoji that follows? -/
def joinsSymbol : Context → Bool
  | .joined | .joinedKeycap => true
  | _ => false

/-- Does the context stay open over marks that are ignored? -/
def isTransparent (context : Context) : Bool := context.ligature != .plain && context != .alef

/-- The context with a joiner before it. -/
def withJoiner : Context → Context
  | .lamed _ => .lamed true
  | .ya _ => .ya true
  | .tifinagh _ => .tifinagh true
  | .orkhon _ => .orkhon true
  | context => context

/-- Arabic letters alef. -/
def isAlef (c : Char) : Bool :=
  inRanges [(0x622, 0x623), (0x625, 0x625), (0x627, 0x627), (0x671, 0x673), (0x675, 0x675),
    (0x773, 0x774), (0x870, 0x882)] c

/-- Arabic letters lam. -/
def isLam (c : Char) : Bool :=
  inRanges [(0x644, 0x644), (0x6b5, 0x6b8), (0x76a, 0x76a), (0x8a6, 0x8a6), (0x8c7, 0x8c7)] c

/-- Khmer letters that can be written below the one before. -/
def isSubscript (c : Char) : Bool :=
  inRanges [(0x1780, 0x1782), (0x1784, 0x1787), (0x1789, 0x178c), (0x178e, 0x1793),
    (0x1795, 0x1798), (0x179b, 0x179d), (0x17a0, 0x17a0), (0x17a2, 0x17a2), (0x17a7, 0x17a7),
    (0x17ab, 0x17ac), (0x17af, 0x17af)] c

/-- Tifinagh letters. -/
def isTifinagh (c : Char) : Bool := inRanges [(0x2d31, 0x2d65), (0x2d6f, 0x2d6f)] c

/-- What a character leaves open for the one before it when it joins nothing that follows. -/
def ofChar (c : Char) : Context :=
  if c = '\n' then .lineFeed
  else if c ≤ '\u00a0' then .plain
  else if c = '\u05dc' then .lamed false
  else if c = '\u1a10' then .ya false
  else if c = '\ua4fc' ∨ c = '\ua4fd' then .lisuTone
  else if c.toNat = 0x10c03 then .orkhon false
  else if c.toNat = 0x16d67 then .vowelE
  else if c.toNat = 0x16d68 then .vowelAi
  else if isAlef c then .alef
  else if isSubscript c then .subscript
  else if isTifinagh c then .tifinagh false
  else if Emoji.isRegional c then .regional
  else if Emoji.isModifier c then .modifier
  else if Emoji.isPresented c then .emoji
  else .plain

/-- Characters that form one sign with letters that follow: the columns that they add, which may be
fewer than none, and what they leave open. -/
def joinLetters (context : Context) (c : Char) : Option (Int × Context) :=
  if context.isTransparent ∧ c = '\u200d' then some (0, context.withJoiner)
  else if context.isTransparent ∧ isIgnoredMark c then some (0, context)
  else match context with
    | .alef =>
      if isLam c then some (0, .plain) else if isJoinTransparent c then some (0, .alef) else none
    | .lamed true => if c = '\u05d0' then some (0, .plain) else none
    | .subscript => if c = '\u17d2' then some (-1, .plain) else none
    | .ya true => if c = '\u1a17' then some (0, .vowelYa) else none
    | .vowelYa => if c = '\u1a15' then some (0, .plain) else none
    | .tifinagh joiner =>
      if c = '\u2d7f' then some (1, .joinedTifinagh)
      else if joiner ∧ isTifinagh c then some (0, .plain)
      else none
    | .joinedTifinagh => if isTifinagh c then some (-1, .plain) else none
    | .lisuTone => if '\ua4f8' ≤ c ∧ c ≤ '\ua4fb' then some (0, .plain) else none
    | .orkhon true => if c.toNat = 0x10c32 then some (0, .plain) else none
    | .vowelE =>
      if c.toNat = 0x16d63 ∨ c.toNat = 0x16d69 then some (0, .plain)
      else if c.toNat = 0x16d67 then some (0, .vowelAi)
      else if c.toNat = 0x16d68 then some (1, .vowelE)
      else none
    | .vowelAi => if c.toNat = 0x16d63 then some (0, .plain) else none
    | _ => none

/-- Characters of a tag before an emoji that a joiner ties to what precedes it: up to six letters,
or letters with three digits before them, and a flag before it all. -/
def joinTag (context : Context) (c : Char) : Option (Int × Context) :=
  match context with
  | .joinedTag letters =>
    if Emoji.isTagLetter c ∧ letters < 6 then some (0, .joinedTag (letters + 1))
    else if Emoji.isTagDigit c ∧ letters < 5 then some (0, .joinedTagDigits 1)
    else if c.toNat = 0x1f3f4 ∧ 3 ≤ letters then some (0, .emoji)
    else none
  | .joinedTagDigits digits =>
    if Emoji.isTagDigit c ∧ digits < 3 then some (0, .joinedTagDigits (digits + 1))
    else if c.toNat = 0x1f3f4 ∧ digits = 3 then some (0, .emoji)
    else none
  | _ => none

/-- Characters that form one sign with an emoji that follows, or one flag with a letter. -/
def joinEmoji (context : Context) (c : Char) : Option (Int × Context) :=
  let joiner := if c = '\u200d' then some (0, joined) else none
  match context with
  | .emoji => joiner
  | .modifier => if Emoji.isModifiable c then some (0, .emoji) else joiner
  | .regional => if Emoji.isRegional c then some (1, .regionals) else none
  | .regionals => if Emoji.isRegional c then some (1, .regionals) else joiner
  | .joined =>
    if c = '\u20e3' then some (0, .joinedKeycap)
    else if Emoji.isRegional c then some (1, .joinedRegional)
    else if Emoji.isModifier c then some (0, .modifier)
    else if c.toNat = 0xe007f then some (0, .joinedTag 0)
    else if Emoji.isPresented c then some (0, .emoji)
    else none
  | .joinedRegional => if Emoji.isRegional c then some (-1, .joinedFlag) else none
  | .joinedFlag => if Emoji.isRegional c then some (3, .joinedFlags) else joiner
  | .joinedFlags => if Emoji.isRegional c then some (-1, .joinedFlag) else joiner
  | context => context.joinTag c

/-- The columns that a character adds before a context, and the context that it leaves. -/
def join (context : Context) (c : Char) : Int × Context :=
  if c = '\r' ∧ context = .lineFeed then (0, .plain)
  else if c ≤ '\u00a0' then (charWidth c, ofChar c)
  else (context.joinLetters c <|> context.joinEmoji c).getD (charWidth c, ofChar c)

end Context

/-- A selector that stands directly before a context. -/
inductive Selector where
  | emoji
  | text
  /-- The selector of the second form, which makes quotation marks wide. -/
  | second
  deriving DecidableEq, Repr

/-- The selector that a character is. -/
def Selector.ofChar? (c : Char) : Option Selector :=
  if c = '\ufe0f' then some .emoji
  else if c = '\ufe0e' then some .text
  else if c = '\ufe01' then some .second
  else none

/-- Quotation marks that the selector of the second form makes wide. -/
def isQuotationMark (c : Char) : Bool := c ∈ ['\u2018', '\u2019', '\u201c', '\u201d']

/-- What follows a character: a context, and the selector before it, if any. -/
structure Following where
  context : Context
  selector : Option Selector
  deriving DecidableEq, Repr

namespace Following

/-- The end of a text. -/
def nothing : Following := ⟨.plain, none⟩

/-- The columns of a character that the selector after it shows in another form. -/
def select (following : Following) (c : Char) : Option (Int × Following) :=
  match following.selector with
  | some .emoji =>
    if Emoji.isSelectable c then
      some (if following.context.joinsSymbol then 0 else 2, ⟨.emoji, none⟩)
    else none
  | some .text => if Emoji.isNarrowAsText c then some (1, nothing) else none
  | some .second => if isQuotationMark c then some (2, nothing) else none
  | none => none

/-- The context once it is known that a selector before it has no effect. -/
def unselected (following : Following) : Context :=
  match following.selector with
  | none => following.context
  | some _ => following.context.ligature

/-- The columns that a character adds before what follows, and what then follows the character
before it. -/
def join (following : Following) (c : Char) : Int × Following :=
  match following.select c with
  | some answer => answer
  | none =>
    let context := following.unselected
    match Selector.ofChar? c with
    | some .emoji => (0, ⟨context.selected, some .emoji⟩)
    | some selector => (0, ⟨context.ligature, some selector⟩)
    | none => ((context.join c).1, ⟨(context.join c).2, none⟩)

end Following

/-- The columns of a text and what it leaves open for a character before it. -/
def measure (text : List Char) : Int × Following :=
  text.foldr (fun c found => ((found.2.join c).1 + found.1, (found.2.join c).2)) (0, .nothing)

/-- The columns of a text. -/
def width (text : String) : Nat := (measure text.toList).1.toNat

end SqlCache.Text
