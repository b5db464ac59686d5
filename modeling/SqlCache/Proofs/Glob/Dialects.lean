import Mathlib.Data.List.TakeWhile
import SqlCache.Proofs.Glob.Language

/-!
The two languages a pattern is translated into select the fields that the pattern matches. The
operator of the SQLite store takes the noncharacters U+FFFE and U+FFFF for U+FFFD past the literal
beginning of a pattern, so for it this holds of texts as they are read (`Selected`), and of texts
without these two as they are (`selected_iff_matches`). Main result: `dialects_agree`.
-/

set_option autoImplicit false

namespace SqlCache.Glob

/-! ## Rows of suffixes -/

theorem reachable_tail (row : List Bool) : (reachable row).tail = reachable row.tail := by
  cases row <;> rfl

theorem suffixMatches_ne_nil (ts : List Token) (cs : List Char) : suffixMatches ts cs ≠ [] := by
  induction ts with
  | nil => simp [suffixMatches]
  | cons t ts ih =>
      cases t with
      | run =>
          rw [suffixMatches]
          cases hrow : suffixMatches ts cs with
          | nil => exact absurd hrow ih
          | cons b row => simp [reachable]
      | any | char | set | never => simp [suffixMatches]

/-- The row of a text begins with the answer for the whole of it. -/
theorem suffixMatches_eq_cons (ts : List Token) (cs : List Char) :
    suffixMatches ts cs = accepts ts cs :: (suffixMatches ts cs).tail := by
  cases hrow : suffixMatches ts cs with
  | nil => exact absurd hrow (suffixMatches_ne_nil ts cs)
  | cons b row => simp [accepts, hrow]

/-- The rest of the row of a text is the row of the rest of the text. -/
theorem suffixMatches_tail (ts : List Token) (c : Char) (cs : List Char) :
    (suffixMatches ts (c :: cs)).tail = suffixMatches ts cs := by
  induction ts with
  | nil => simp [suffixMatches]
  | cons t ts ih =>
      cases t with
      | run => rw [suffixMatches, suffixMatches, reachable_tail, ih]
      | any | char | set | never =>
          simp only [suffixMatches, ih]
          rw [suffixMatches_eq_cons ts cs]
          simp

theorem suffixMatches_nil_tail (ts : List Token) : (suffixMatches ts []).tail = [] := by
  induction ts with
  | nil => rfl
  | cons t ts ih =>
      cases t with
      | run => rw [suffixMatches, reachable_tail, ih, reachable]
      | any | char | set | never => simp [suffixMatches]

/-! ## What the tokens accept -/

section Accepts

variable {t : Token} {ts : List Token} {c : Char} {cs : List Char}

@[simp] theorem accepts_nil : accepts [] cs = cs.isEmpty := by
  cases cs <;> simp [accepts, suffixMatches]

theorem accepts_run : accepts (.run :: ts) cs =
    (accepts ts cs || (reachable (suffixMatches ts cs).tail).head?.getD false) := by
  rw [accepts, suffixMatches, suffixMatches_eq_cons ts cs]
  rfl

@[simp] theorem accepts_run_nil : accepts (.run :: ts) [] = accepts ts [] := by
  simp [accepts_run, suffixMatches_nil_tail, reachable]

/-- A star accepts nothing, or one character more. -/
@[simp] theorem accepts_run_cons :
    accepts (.run :: ts) (c :: cs) = (accepts ts (c :: cs) || accepts (.run :: ts) cs) := by
  rw [accepts_run, suffixMatches_tail, accepts.eq_def (.run :: ts) cs, suffixMatches]

@[simp] theorem accepts_one_nil (ht : t ≠ .run) : accepts (t :: ts) [] = false := by
  cases t with
  | run => exact absurd rfl ht
  | any | char | set | never => simp [accepts, suffixMatches]

/-- A token other than a star accepts one character. -/
@[simp] theorem accepts_one_cons (ht : t ≠ .run) :
    accepts (t :: ts) (c :: cs) = (t.accepts c && accepts ts cs) := by
  rw [accepts]
  cases t with
  | run => exact absurd rfl ht
  | any | char | set | never =>
      simp only [suffixMatches, suffixMatches_tail]
      rw [suffixMatches_eq_cons ts cs]
      simp

end Accepts

/-! ## Translating into `GLOB` -/

/-- The token that a character of a pattern becomes. -/
def token (c : Char) : Token :=
  if c = '*' then .run
  else if c = '?' then .any
  else if c = '[' then .set false [.one '[']
  else .char (fold c)

/-- A bracket alone in a class, as the translation writes it. -/
theorem bracketClass_bracket (rest : List Char) :
    bracketClass ('[' :: ']' :: rest) = some (.set false [.one '['], rest) := by
  simp [bracketClass, classItems, fold]

/-- How a character of a pattern is written for the operator. -/
def bracketed (c : Char) : List Char := if c = '[' then ['[', '[', ']'] else [c]

theorem toList_toSqlite (pattern : String) :
    (toSqlite pattern).toList = pattern.toList.flatMap bracketed :=
  String.toList_ofList

theorem length_le_length_bracketed (pattern : List Char) :
    pattern.length ≤ (pattern.flatMap bracketed).length := by
  induction pattern with
  | nil => simp
  | cons c pattern ih =>
      have hone : 1 ≤ (bracketed c).length := by
        unfold bracketed
        split <;> simp
      simp only [List.flatMap_cons, List.length_append, List.length_cons]
      omega

theorem tokensFuel_bracketed {fuel : Nat} {pattern : List Char} (h : pattern.length ≤ fuel) :
    tokensFuel fuel (pattern.flatMap bracketed) = pattern.map token := by
  induction pattern generalizing fuel with
  | nil => cases fuel <;> rfl
  | cons c pattern ih =>
      cases fuel with
      | zero => simp at h
      | succ fuel =>
          have hlength : pattern.length ≤ fuel := by simpa using h
          rw [List.flatMap_cons, List.map_cons, ← ih hlength]
          by_cases hbracket : c = '['
          · subst hbracket
            simp [bracketed, tokensFuel, bracketClass_bracket, token]
          by_cases hrun : c = '*'
          · simp [hrun, bracketed, tokensFuel, token]
          by_cases hany : c = '?'
          · simp [hany, bracketed, tokensFuel, token]
          · simp [hbracket, hrun, hany, bracketed, tokensFuel, token]

theorem tokens_toSqlite (pattern : String) :
    tokens (toSqlite pattern).toList = pattern.toList.map token := by
  rw [toList_toSqlite, tokens]
  exact tokensFuel_bracketed (length_le_length_bracketed _)

/-- The operator reads a translated pattern as far as it would read the pattern. -/
theorem cut_flatMap_bracketed (pattern : List Char) :
    cut (pattern.flatMap bracketed) = (cut pattern).flatMap bracketed := by
  unfold cut
  induction pattern with
  | nil => rfl
  | cons c pattern ih =>
      rw [List.flatMap_cons, List.takeWhile_cons]
      by_cases hend : c = '\x00'
      · simp [hend, bracketed]
      · by_cases hbracket : c = '['
        · simpa [hbracket, bracketed] using ih
        · simpa [hend, hbracket, bracketed] using ih

theorem literalHead_toSqlite (pattern : String) :
    literalHead (toSqlite pattern).toList = literalHead pattern.toList := by
  rw [toList_toSqlite]
  induction pattern.toList with
  | nil => rfl
  | cons c rest ih =>
      rw [List.flatMap_cons]
      by_cases hbracket : c = '['
      · simp [hbracket, bracketed, literalHead]
      · have hone : bracketed c = [c] := if_neg hbracket
        unfold literalHead at ih ⊢
        rw [hone, List.singleton_append, List.takeWhile_cons, List.takeWhile_cons, ih]

/-! ## What the operator selects -/

theorem fold_eq_iff {c d : Char} (hd : d ≠ '\ufffd') (hd' : fold d = d) : fold c = d ↔ c = d := by
  constructor
  · intro h
    unfold fold at h
    split at h
    · exact absurd h.symm hd
    · exact h
  · rintro rfl
    exact hd'

theorem element_fold (c : Char) : element (fold c) =
    if c = '*' then .run else if c = '?' then .any else .char (fold c) := by
  have hstar : fold c = '*' ↔ c = '*' := fold_eq_iff (by decide) (by decide)
  have hquestion : fold c = '?' ↔ c = '?' := fold_eq_iff (by decide) (by decide)
  simp only [element, hstar, hquestion]

/-- The tokens of a translated pattern accept what the pattern fits, both as the operator reads
them. -/
theorem accepts_map_token (pattern text : List Char) : accepts (pattern.map token) text = true ↔
    Fits (elements (pattern.map fold)) (text.map fold) := by
  induction pattern generalizing text with
  | nil => simp [elements]
  | cons c pattern ih =>
      simp only [elements] at ih
      simp only [List.map_cons, elements]
      by_cases hrun : c = '*'
      · have htoken : token c = .run := by simp [token, hrun]
        have helement : element (fold c) = .run := by simp [element_fold, hrun]
        rw [htoken, helement]
        induction text with
        | nil => simpa using ih []
        | cons d text ihText => simpa [ihText] using or_congr (ih (d :: text)) Iff.rfl
      by_cases hany : c = '?'
      · have htoken : token c = .any := by simp [token, hany]
        have helement : element (fold c) = .any := by simp [element_fold, hany]
        rw [htoken, helement]
        cases text with
        | nil => simp
        | cons d text => simp [Token.accepts, ih]
      · have helement : element (fold c) = .char (fold c) := by simp [element_fold, hrun, hany]
        have hone : token c ≠ .run ∧ ∀ d, (token c).accepts d = true ↔ fold c = fold d := by
          by_cases hbracket : c = '['
          · subst hbracket
            simp [token, Token.accepts, ClassItem.holds, eq_comm, fold]
          · simp [token, hrun, hany, hbracket, Token.accepts, eq_comm]
        rw [helement]
        cases text with
        | nil => simp [hone.1]
        | cons d text => simp [hone.1, hone.2, ih]

/-- Does the store select a field by a pattern? It takes the noncharacters U+FFFE and U+FFFF for
U+FFFD past the literal beginning of the pattern. -/
def Selected (pattern field : String) : Prop :=
  literalHead pattern.toList <+: field.toList ∧
    Fits (elements (pattern.toList.map fold)) (field.toList.map fold)

/-- Does the operator read the text as it is? -/
def IsPlain (text : String) : Prop := ∀ c ∈ text.toList, fold c = c

instance (text : String) : Decidable (IsPlain text) :=
  List.decidableBAll (fun c => fold c = c) text.toList

theorem map_fold {text : String} (h : IsPlain text) : text.toList.map fold = text.toList := by
  rw [List.map_congr_left h, List.map_id']

/-- Of texts that are read as they are the store selects what the pattern matches. -/
theorem selected_iff_matches {pattern field : String} (hpattern : IsPlain pattern)
    (hfield : IsPlain field) : Selected pattern field ↔ Matches pattern field := by
  rw [Selected, map_fold hpattern, map_fold hfield]
  exact ⟨fun h => h.2, fun h => ⟨Fits.literalHead_isPrefix h, h⟩⟩

/-- The text up to its first NUL. -/
def upToNul (text : String) : String := String.ofList (cut text.toList)

theorem toList_upToNul (text : String) : (upToNul text).toList = cut text.toList :=
  String.toList_ofList

theorem upToNul_of_not_mem {text : String} (h : '\x00' ∉ text.toList) : upToNul text = text := by
  have hwhole : cut text.toList = text.toList := by
    rw [cut, List.takeWhile_eq_self_iff]
    intro c hc
    simpa using fun heq : c = '\x00' => h (heq ▸ hc)
  rw [upToNul, hwhole, String.ofList_toList]

/-- The operator selects by a translated pattern what the store does by the pattern, each text read
up to its first NUL. -/
theorem selects_toSqlite_iff (pattern field : String) :
    selects (toSqlite pattern).toList field.toList = true ↔
      Selected (upToNul pattern) (upToNul field) := by
  have hcut : cut (toSqlite pattern).toList = (toSqlite (upToNul pattern)).toList := by
    rw [toList_toSqlite, toList_toSqlite, cut_flatMap_bracketed, toList_upToNul]
  simp only [selects, hcut, ← toList_upToNul, literalHead_toSqlite, tokens_toSqlite,
    Bool.and_eq_true, List.isPrefixOf_iff_prefix, accepts_map_token, Selected]

/-- The operator selects by a translated pattern what the store does by the pattern. -/
theorem selects_toSqlite {pattern field : String} (hpattern : '\x00' ∉ pattern.toList)
    (hfield : '\x00' ∉ field.toList) :
    selects (toSqlite pattern).toList field.toList = true ↔ Selected pattern field := by
  rw [selects_toSqlite_iff, upToNul_of_not_mem hpattern, upToNul_of_not_mem hfield]

/-! ## Both stores -/

/-- Whatever a pattern is, its translation into `LIKE` matches the fields that the pattern matches,
and is never refused. Its translation into `GLOB` selects them too, as long as neither the pattern
nor the field has one of the characters that the operator reads as another one; with these it
selects what the pattern matches as it is read. -/
theorem dialects_agree {pattern field : String} (hpattern : '\x00' ∉ pattern.toList)
    (hfield : '\x00' ∉ field.toList) :
    (selects (Dialect.sqlite.translate pattern).toList field.toList = true ↔
      Selected pattern field) ∧
    (LikeMatches (Dialect.postgres.translate pattern) field ↔ Matches pattern field) ∧
    likeElements? (Dialect.postgres.translate pattern).toList ≠ none ∧
    (IsPlain pattern → IsPlain field →
      (selects (Dialect.sqlite.translate pattern).toList field.toList = true ↔
        Matches pattern field) ∧
      (selects (Dialect.sqlite.translate pattern).toList field.toList = true ↔
        LikeMatches (Dialect.postgres.translate pattern) field)) := by
  have hsqlite : selects (Dialect.sqlite.translate pattern).toList field.toList = true ↔
      Selected pattern field := selects_toSqlite hpattern hfield
  have hpostgres : LikeMatches (Dialect.postgres.translate pattern) field ↔
      Matches pattern field := likeMatches_toLike
  have hread : likeElements? (Dialect.postgres.translate pattern).toList =
      some (elements pattern.toList) := likeElements?_toLike pattern
  refine ⟨hsqlite, hpostgres, by simp [hread], fun hplain hplain' => ?_⟩
  have hmatches := hsqlite.trans (selected_iff_matches hplain hplain')
  exact ⟨hmatches, hmatches.trans hpostgres.symm⟩

/-- Everything that is special to one of the operators stands for itself in a pattern. -/
theorem dialects_agree_literal :
    selects (Dialect.sqlite.translate "[^a-z]*%_\\?").toList "[^a-z]%_%_\\x".toList = true ∧
    LikeMatches (Dialect.postgres.translate "[^a-z]*%_\\?") "[^a-z]%_%_\\x" := by
  have hpattern : '\x00' ∉ "[^a-z]*%_\\?".toList := by decide
  have hfield : '\x00' ∉ "[^a-z]%_%_\\x".toList := by decide
  obtain ⟨-, hpostgres, -, hplain⟩ := dialects_agree hpattern hfield
  obtain ⟨hsqlite, -⟩ := hplain (by decide) (by decide)
  have hmatches : Matches "[^a-z]*%_\\?" "[^a-z]%_%_\\x" := by
    simp [Matches, elements, element]
  exact ⟨hsqlite.mpr hmatches, hpostgres.mpr hmatches⟩

/-- Past a star U+FFFE in a pattern selects U+FFFD in a field, which it does not match. -/
theorem selects_noncharacter :
    '\x00' ∉ "*\ufffe".toList ∧ '\x00' ∉ "\ufffd".toList ∧
    selects (Dialect.sqlite.translate "*\ufffe").toList "\ufffd".toList = true ∧
    ¬ Matches "*\ufffe" "\ufffd" ∧
    ¬ LikeMatches (Dialect.postgres.translate "*\ufffe") "\ufffd" := by
  have hunmatched : ¬ Matches "*\ufffe" "\ufffd" := by
    simp [Matches, elements, element]
  exact ⟨by decide, by decide, by decide, hunmatched, fun h => hunmatched (likeMatches_toLike.mp h)⟩

end SqlCache.Glob
