import Mathlib.Data.List.Induction
import Mathlib.Data.List.TakeWhile
import SqlCache.Proofs.Text.Integer

/-!
Which texts are integers. A numeral is an optional sign and one or more ASCII digits, which stand
for a number by their places; a text denotes a number if it is a numeral with nothing but white
space around it (`Denotes`). Main result: `read?_eq_some_iff`. What a reader makes of a text is the
number it denotes, if this fits a counter, and nothing otherwise. `encode` writes the usual decimal
form (`encode_eq_toString`).
-/

set_option autoImplicit false

namespace SqlCache.Text

/-! ## White space around a text -/

/-- Is there nothing but white space? -/
def AllBlank (cs : List Char) : Prop := ∀ c ∈ cs, isBlank c = true

/-- What is dropped in front is white space. -/
theorem exists_dropWhile (cs : List Char) :
    ∃ before, AllBlank before ∧ cs = before ++ cs.dropWhile isBlank :=
  ⟨cs.takeWhile isBlank, fun _ hc => List.mem_takeWhile_imp hc,
    (List.takeWhile_append_dropWhile).symm⟩

/-- Trimming leaves a text with white space around it. -/
theorem exists_trim (cs : List Char) :
    ∃ before after, AllBlank before ∧ AllBlank after ∧ cs = before ++ trim cs ++ after := by
  obtain ⟨before, hbefore, hfront⟩ := exists_dropWhile cs
  obtain ⟨after, hafter, hback⟩ := exists_dropWhile (cs.dropWhile isBlank).reverse
  refine ⟨before, after.reverse, hbefore, fun c hc => hafter c (List.mem_reverse.mp hc), ?_⟩
  have hrest : cs.dropWhile isBlank = trim cs ++ after.reverse := by
    rw [trim, ← List.reverse_append, ← hback, List.reverse_reverse]
  rw [List.append_assoc, ← hrest]
  exact hfront

/-- White space around a text that has none in it is dropped. -/
theorem trim_append {before body after : List Char} (hbefore : AllBlank before)
    (hbody : ∀ c ∈ body, isBlank c = false) (hafter : AllBlank after) (hne : body ≠ []) :
    trim (before ++ body ++ after) = body := by
  obtain ⟨c, cs, rfl⟩ := List.exists_cons_of_ne_nil hne
  have hfront : (before ++ (c :: cs) ++ after).dropWhile isBlank = (c :: cs) ++ after := by
    rw [List.append_assoc, List.dropWhile_append_of_pos hbefore, List.cons_append]
    exact dropWhile_isBlank_of_head (hbody c List.mem_cons_self)
  have hafter' : AllBlank after.reverse := fun d hd => hafter d (List.mem_reverse.mp hd)
  have hbody' : ∀ d ∈ (c :: cs).reverse, isBlank d = false :=
    fun d hd => hbody d (List.mem_reverse.mp hd)
  rw [trim, hfront, List.reverse_append, List.dropWhile_append_of_pos hafter',
    dropWhile_of_not_blank hbody', List.reverse_reverse]

namespace Integer

/-! ## Numerals -/

/-- Digits that stand for a number by their places, the last one for the ones. -/
inductive Digits : List Char → Nat → Prop where
  | one {c : Char} (digit : c.isDigit = true) : Digits [c] (c.toNat - 48)
  | snoc {cs : List Char} {n : Nat} {c : Char} (front : Digits cs n) (digit : c.isDigit = true) :
      Digits (cs ++ [c]) (10 * n + (c.toNat - 48))

/-- Digits with or without a sign. -/
inductive Numeral : List Char → Int → Prop where
  | plain {cs : List Char} {n : Nat} (digits : Digits cs n) : Numeral cs n
  | plus {cs : List Char} {n : Nat} (digits : Digits cs n) : Numeral ('+' :: cs) n
  | minus {cs : List Char} {n : Nat} (digits : Digits cs n) : Numeral ('-' :: cs) (-n)

/-- The text is a numeral for the number, with nothing but white space around it. -/
def Denotes (text : String) (n : Int) : Prop :=
  ∃ before body after, text.toList = before ++ body ++ after ∧ AllBlank before ∧ AllBlank after ∧
    Numeral body n

/-! ## Reading digits -/

theorem ofDigits_concat (cs : List Char) (c : Char) :
    ofDigits (cs ++ [c]) = 10 * ofDigits cs + (c.toNat - 48) := by
  rw [ofDigits, List.foldl_append, Nat.mul_comm]
  rfl

namespace Digits

variable {cs : List Char} {n : Nat}

theorem ne_nil (h : Digits cs n) : cs ≠ [] := by
  cases h with
  | one digit => exact List.cons_ne_nil _ _
  | snoc front digit => exact List.append_ne_nil_of_right_ne_nil _ (List.cons_ne_nil _ _)

theorem isDigit (h : Digits cs n) : ∀ c ∈ cs, c.isDigit = true := by
  induction h with
  | one digit => simpa using digit
  | snoc front digit ih =>
      intro c hc
      rcases List.mem_append.mp hc with hc | hc
      · exact ih c hc
      · rw [List.mem_singleton.mp hc]
        exact digit

theorem eq_ofDigits (h : Digits cs n) : n = ofDigits cs := by
  induction h with
  | one digit => simp [ofDigits]
  | snoc front digit ih => rw [ofDigits_concat, ih]

/-- Every run of digits stands for the number it is read as. -/
theorem of_isDigit (hne : cs ≠ []) (hall : ∀ c ∈ cs, c.isDigit = true) :
    Digits cs (ofDigits cs) := by
  induction cs using List.reverseRecOn with
  | nil => exact absurd rfl hne
  | append_singleton cs c ih =>
      have hlast : c.isDigit = true := hall c (by simp)
      cases cs with
      | nil =>
          have hone := Digits.one hlast
          simpa [ofDigits] using hone
      | cons d ds =>
          rw [ofDigits_concat]
          have hfront : ∀ e ∈ d :: ds, e.isDigit = true :=
            fun e he => hall e (List.mem_append_left _ he)
          exact .snoc (ih (List.cons_ne_nil _ _) hfront) hlast

end Digits

/-- Digits are read as the number they stand for. -/
theorem magnitude?_eq_some_iff {cs : List Char} {n : Nat} :
    magnitude? cs = some n ↔ Digits cs n := by
  unfold magnitude?
  constructor
  · intro h
    split at h
    · next hdigits =>
        rw [← Option.some.inj h]
        exact .of_isDigit hdigits.1 (List.all_eq_true.mp hdigits.2)
    · cases h
  · intro h
    rw [if_pos ⟨h.ne_nil, List.all_eq_true.mpr h.isDigit⟩, h.eq_ofDigits]

theorem magnitude?_map_eq_some_iff {cs : List Char} {sign : Int → Int} {n : Int} :
    (do let m ← magnitude? cs; pure (m : Int)).map sign = some n ↔
      ∃ m : Nat, Digits cs m ∧ sign m = n := by
  simp [Option.bind_eq_some_iff, magnitude?_eq_some_iff]

/-! ## Reading numerals -/

namespace Numeral

variable {cs : List Char} {n : Int}

theorem ne_nil (h : Numeral cs n) : cs ≠ [] := by
  cases h with
  | plain digits => exact digits.ne_nil
  | plus digits | minus digits => exact List.cons_ne_nil _ _

theorem not_blank (h : Numeral cs n) : ∀ c ∈ cs, isBlank c = false := by
  intro c hc
  cases h with
  | plain digits => exact isBlank_of_isDigit (digits.isDigit c hc)
  | plus digits | minus digits =>
      rcases List.mem_cons.mp hc with rfl | hc
      · decide
      · exact isBlank_of_isDigit (digits.isDigit c hc)

end Numeral

/-- A numeral is read as the number it stands for. -/
theorem unbounded?_eq_some_iff {cs : List Char} {n : Int} :
    unbounded? cs = some n ↔ Numeral cs n := by
  constructor
  · intro h
    unfold unbounded? at h
    split at h
    · obtain ⟨m, digits, rfl⟩ := magnitude?_map_eq_some_iff.mp h
      exact .minus digits
    · obtain ⟨m, digits, rfl⟩ := magnitude?_map_eq_some_iff.mp h
      exact .plus digits
    · obtain ⟨m, digits, rfl⟩ := magnitude?_map_eq_some_iff.mp h
      exact .plain digits
  · intro h
    cases h with
    | plus digits | minus digits => exact magnitude?_map_eq_some_iff.mpr ⟨_, digits, rfl⟩
    | plain digits =>
        -- a sign is no digit
        have hsign : ∀ c ∈ cs, c ≠ '-' ∧ c ≠ '+' := by
          intro c hc
          have hdigit := digits.isDigit c hc
          constructor <;> rintro rfl <;> exact absurd hdigit (by decide)
        unfold unbounded?
        split
        · exact absurd rfl (hsign '-' List.mem_cons_self).1
        · exact absurd rfl (hsign '+' List.mem_cons_self).2
        · exact magnitude?_map_eq_some_iff.mpr ⟨_, digits, rfl⟩

/-- A text is read as the number it denotes, if this fits a counter, and as nothing otherwise. -/
theorem read?_eq_some_iff {text : String} {n : Int} :
    read? text = some n ↔ Denotes text n ∧ fits n = true := by
  have hdecode : read? text = some n ↔ Numeral (trim text.toList) n ∧ fits n = true := by
    rw [← unbounded?_eq_some_iff, read?, decode?]
    cases hnumber : unbounded? (trim text.toList) with
    | none => simp
    | some m =>
        simp only [Option.some.injEq]
        split
        · next hfits =>
            rw [Option.some.injEq]
            constructor
            · rintro rfl
              exact ⟨rfl, hfits⟩
            · exact And.left
        · next hout =>
            constructor
            · intro h
              cases h
            · rintro ⟨rfl, hfits⟩
              exact absurd hfits hout
  rw [hdecode]
  refine and_congr_left fun _ => ⟨?_, ?_⟩
  · intro hnumeral
    obtain ⟨before, after, hbefore, hafter, htext⟩ := exists_trim text.toList
    exact ⟨before, _, after, htext, hbefore, hafter, hnumeral⟩
  · rintro ⟨before, body, after, htext, hbefore, hafter, hnumeral⟩
    rw [htext, trim_append hbefore hnumeral.not_blank hafter hnumeral.ne_nil]
    exact hnumeral

/-! ## Writing -/

/-- An integer is written in its usual decimal form. -/
theorem encode_eq_toString (n : Int) : encode n = toString n := by
  cases n with
  | ofNat m => rfl
  | negSucc m =>
      rw [encode, if_pos (Int.negSucc_lt_zero m)]
      rfl

end Integer

end SqlCache.Text
