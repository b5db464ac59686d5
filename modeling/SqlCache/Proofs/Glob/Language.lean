import SqlCache.Glob.Bracket

/-!
What a pattern means, apart from any store. A pattern is read as a list of elements
(`elements`), and these fit a text or do not (`Fits`): a star fits any run of characters, a question
mark exactly one, and everything else itself. Patterns of the language `LIKE`, in which a backslash
takes the meaning from the character after it, are read as the same elements (`likeElements?`).
-/

set_option autoImplicit false

namespace SqlCache.Glob

/-- One element of what a pattern describes. -/
inductive Element where
  /-- Any run of characters, also an empty one. -/
  | run
  /-- Exactly one character, whichever. -/
  | any
  /-- This character. -/
  | char (c : Char)
  deriving DecidableEq, Repr

/-- Do the elements, one after the other, fit the whole text? -/
inductive Fits : List Element → List Char → Prop where
  | nil : Fits [] []
  | run {es : List Element} {text : List Char} (skipped : List Char) (rest : Fits es text) :
      Fits (.run :: es) (skipped ++ text)
  | any {es : List Element} {text : List Char} (c : Char) (rest : Fits es text) :
      Fits (.any :: es) (c :: text)
  | char {es : List Element} {text : List Char} (c : Char) (rest : Fits es text) :
      Fits (.char c :: es) (c :: text)

/-- What a character of a pattern stands for. -/
def element (c : Char) : Element := if c = '*' then .run else if c = '?' then .any else .char c

/-- What a pattern describes. -/
def elements (pattern : List Char) : List Element := pattern.map element

/-- Does the pattern match the text? -/
def Matches (pattern text : String) : Prop := Fits (elements pattern.toList) text.toList

/-- What a pattern of `LIKE` describes: a percent sign any run, an underscore one character, and a
backslash the character after it. There is no answer for a backslash at the end, which the language
refuses. -/
def likeElements? : List Char → Option (List Element)
  | [] => some []
  | '%' :: rest => (likeElements? rest).map (.run :: ·)
  | '_' :: rest => (likeElements? rest).map (.any :: ·)
  | ['\\'] => none
  | '\\' :: c :: rest => (likeElements? rest).map (.char c :: ·)
  | c :: rest => (likeElements? rest).map (.char c :: ·)

/-- Does the pattern of `LIKE` match the text? -/
def LikeMatches (pattern text : String) : Prop :=
  ∃ es, likeElements? pattern.toList = some es ∧ Fits es text.toList

namespace Fits

variable {es : List Element} {text : List Char} {c : Char}

@[simp] theorem nil_iff : Fits [] text ↔ text = [] := by
  constructor
  · intro h
    cases h
    rfl
  · rintro rfl
    exact .nil

@[simp] theorem run_nil_iff : Fits (.run :: es) [] ↔ Fits es [] := by
  constructor
  · generalize hempty : ([] : List Char) = text
    intro h
    cases h with
    | run skipped rest =>
        obtain ⟨rfl, rfl⟩ := List.append_eq_nil_iff.mp hempty.symm
        exact rest
  · exact fun h => .run [] h

/-- A star fits nothing, or one character more. -/
@[simp] theorem run_cons_iff :
    Fits (.run :: es) (c :: text) ↔ Fits es (c :: text) ∨ Fits (.run :: es) text := by
  constructor
  · generalize hall : c :: text = whole
    intro h
    cases h with
    | run skipped rest =>
        cases skipped with
        | nil => exact Or.inl rest
        | cons d skipped =>
            obtain ⟨-, rfl⟩ := List.cons.inj hall
            exact Or.inr (.run skipped rest)
  · rintro (h | h)
    · exact .run [] h
    · cases h with
      | run skipped rest => exact .run (c :: skipped) rest

@[simp] theorem not_any_nil : ¬ Fits (.any :: es) [] := by
  intro h
  cases h

@[simp] theorem any_cons_iff : Fits (.any :: es) (c :: text) ↔ Fits es text := by
  constructor
  · intro h
    cases h with
    | any c rest => exact rest
  · exact .any c

@[simp] theorem not_char_nil : ¬ Fits (.char c :: es) [] := by
  intro h
  cases h

@[simp] theorem char_cons_iff {d : Char} :
    Fits (.char d :: es) (c :: text) ↔ d = c ∧ Fits es text := by
  constructor
  · intro h
    cases h with
    | char c rest => exact ⟨rfl, rest⟩
  · rintro ⟨rfl, h⟩
    exact .char d h

end Fits

/-- A pattern matches only texts that begin with its literal beginning. -/
theorem Fits.literalHead_isPrefix {pattern text : List Char} (h : Fits (elements pattern) text) :
    literalHead pattern <+: text := by
  induction pattern generalizing text with
  | nil => exact List.nil_prefix
  | cons c pattern ih =>
      by_cases hc : c ≠ '*' ∧ c ≠ '?' ∧ c ≠ '['
      · have helement : element c = .char c := by simp [element, hc]
        rw [elements, List.map_cons, helement] at h
        cases h with
        | char c rest =>
            rw [literalHead, List.takeWhile_cons_of_pos (by simpa using hc)]
            exact (List.prefix_cons_inj c).mpr (ih rest)
      · rw [literalHead, List.takeWhile_cons_of_neg (by simpa using hc)]
        exact List.nil_prefix

/-! ## Translating into `LIKE` -/

/-- The translation of a pattern into `LIKE` describes what the pattern describes; in particular it
does not end in a backslash without a character after it. -/
theorem likeElements?_toLike (pattern : String) :
    likeElements? (toLike pattern).toList = some (elements pattern.toList) := by
  rw [toLike, String.toList_ofList]
  induction pattern.toList with
  | nil => rfl
  | cons c rest ih =>
      rw [List.flatMap_cons]
      by_cases hrun : c = '*'
      · simp [hrun, likeElements?, ih, elements, element]
      by_cases hany : c = '?'
      · simp [hany, likeElements?, ih, elements, element]
      by_cases hescaped : c = '%' ∨ c = '_' ∨ c = '\\'
      · rcases hescaped with rfl | rfl | rfl <;> simp [likeElements?, ih, elements, element]
      · obtain ⟨hpercent, hunderscore, hbackslash⟩ : c ≠ '%' ∧ c ≠ '_' ∧ c ≠ '\\' := by
          simpa using hescaped
        simp [hrun, hany, hpercent, hunderscore, hbackslash, likeElements?, ih, elements, element]

theorem likeMatches_toLike {pattern text : String} :
    LikeMatches (toLike pattern) text ↔ Matches pattern text := by
  simp [LikeMatches, Matches, likeElements?_toLike]

end SqlCache.Glob
