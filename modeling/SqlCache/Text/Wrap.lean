import SqlCache.Text.Width

/-!
Lines broken to a number of columns, at blanks where that is possible. A word that is longer than
a line is cut, but not inside of what reads as one sign; a line that has two columns left or fewer
takes no more words.
-/

set_option autoImplicit false

namespace SqlCache.Text.Wrap

/-- Can the character be shown as an emoji? -/
def isPictograph (c : Char) : Bool :=
  decide ('\u00a9' ≤ c) && (Emoji.isPresented c || Emoji.isSelectable c) && !Emoji.isRegional c

/-- Does a character belong to the sign before it, whose characters are given with the last one
first? Marks and modifiers do, an emoji behind a joiner, and the second letter of a flag. -/
def belongsTo (c : Char) (sign : List Char) : Bool :=
  match sign with
  | [] => false
  | last :: _ =>
    (charWidth c == 0 || Emoji.isModifier c) ||
      (last == '\u200d' && isPictograph c && (sign.getLast?.map isPictograph).getD false) ||
      (Emoji.isRegional c && sign.length == 1 && Emoji.isRegional last)

/-- The rest of a sign whose first characters are given with the last one first, and what follows
it. -/
def sign (taken : List Char) : List Char → List Char × List Char
  | [] => (taken.reverse, [])
  | c :: rest => if belongsTo c taken then sign (c :: taken) rest else (taken.reverse, c :: rest)

theorem length_sign_le (taken word : List Char) : (sign taken word).2.length ≤ word.length := by
  induction word generalizing taken with
  | nil => simp [sign]
  | cons c rest ih =>
    unfold sign
    split
    · exact Nat.le_succ_of_le (ih _)
    · exact Nat.le_refl _

/-- As many signs of a word as fit into some columns, and the rest of it. -/
def cut (columns : Nat) : List Char → List Char × List Char
  | [] => ([], [])
  | c :: rest =>
    let first := sign [c] rest
    let taken := width (String.ofList first.1)
    if taken ≤ columns then
      let parts := cut (columns - taken) first.2
      (first.1 ++ parts.1, parts.2)
    else ([], c :: rest)
termination_by word => word.length
decreasing_by exact Nat.lt_succ_of_le (length_sign_le _ _)

/-- Lines that are finished, the latest first, and the line that words are added to with the columns
that it takes. -/
structure Draft where
  finished : List String
  line : String
  taken : Nat

namespace Draft

/-- The draft with its line finished. -/
def finish (draft : Draft) : Draft := ⟨draft.line :: draft.finished, "", 0⟩

/-- The columns of the draft's line with text added to it. -/
def takenWith (draft : Draft) (text : String) : Nat :=
  draft.taken + (if draft.line.isEmpty then 0 else 1) + width text

/-- The draft with text added to its line, after a blank unless the line is empty. -/
def add (draft : Draft) (text : String) : Draft :=
  ⟨draft.finished, if draft.line.isEmpty then text else draft.line ++ " " ++ text,
    draft.takenWith text⟩

/-- The draft with its line finished if two columns or fewer are left. -/
def finishFull (columns : Nat) (draft : Draft) : Draft :=
  if columns - 2 < draft.taken then draft.finish else draft

/-- The columns that are left for a word. -/
def left (columns : Nat) (draft : Draft) : Nat :=
  columns - draft.taken - (if draft.line.isEmpty then 0 else 1)

/-- All lines of the draft. -/
def lines (draft : Draft) : List String :=
  (if draft.line.isEmpty then draft else draft.finish).finished.reverse

end Draft

/-- The first part of a word that is too long for a line, and the rest of it. An empty line takes at
least one character. -/
def splitWord (columns : Nat) (draft : Draft) (word : String) : String × String :=
  match cut (draft.left columns) word.toList with
  | ([], c :: rest) =>
    if draft.line.isEmpty then (c.toString, String.ofList rest) else ("", word)
  | (first, rest) => (String.ofList first, String.ofList rest)

/-- The draft after words. The fuel bounds how often a word is cut or a line is finished. -/
def place (columns : Nat) : Nat → Draft → List String → Draft
  | 0, draft, _ => draft
  | _, draft, [] => draft
  | fuel + 1, draft, word :: words =>
    if draft.takenWith word ≤ columns then
      place columns fuel ((draft.add word).finishFull columns) words
    else if ¬ draft.line.isEmpty ∧ draft.left columns ≤ 2 then
      place columns fuel draft.finish (word :: words)
    else if columns < width word then
      let parts := splitWord columns draft word
      place columns fuel ((draft.add parts.1).finishFull columns) (parts.2 :: words)
    else place columns fuel ((draft.finish.add word).finishFull columns) words

end Wrap

/-- A line broken to a number of columns. -/
def wrap (columns : Nat) (line : String) : List String :=
  if width line ≤ columns then [line]
  else
    (Wrap.place columns ((columns + 4) * (line.length + 2)) ⟨[], "", 0⟩ (line.splitOn " ")).lines

end SqlCache.Text
