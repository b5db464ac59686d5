import SqlCache.Text.Integer

/-!
What counters are written as is read back: `read?` takes the canonical form of every number that
fits a counter to that number (`read?_encode`).
-/

set_option autoImplicit false

namespace SqlCache.Text

/-- Where there is no white space, none is dropped. -/
theorem dropWhile_of_not_blank {cs : List Char} (h : ∀ c ∈ cs, isBlank c = false) :
    cs.dropWhile isBlank = cs := by
  cases cs with
  | nil => rfl
  | cons c cs => exact dropWhile_isBlank_of_head (h c (by simp))

/-- Text without white space at either end is not trimmed. -/
theorem trim_of_not_blank {cs : List Char} (h : ∀ c ∈ cs, isBlank c = false) : trim cs = cs := by
  have hreverse : ∀ c ∈ cs.reverse, isBlank c = false :=
    fun c hc => h c (List.mem_reverse.mp hc)
  rw [trim, dropWhile_of_not_blank h, dropWhile_of_not_blank hreverse, List.reverse_reverse]

/-- Digits are not white space. -/
theorem isBlank_of_isDigit {c : Char} (h : c.isDigit = true) : isBlank c = false := by
  have hrange : 48 ≤ c.toNat ∧ c.toNat ≤ 57 := by
    simp only [Char.isDigit, Bool.and_eq_true, decide_eq_true_eq] at h
    exact ⟨h.1, h.2⟩
  obtain ⟨hlow, hhigh⟩ := hrange
  simp only [isBlank, Bool.or_eq_false_iff, Bool.and_eq_false_iff, beq_eq_false_iff_ne,
    decide_eq_false_iff_not]
  omega

/-- A text is the text of its own bytes. -/
theorem fromUTF8?_toUTF8 (text : String) : String.fromUTF8? text.toUTF8 = some text := by
  have hvalid : text.toUTF8.IsValidUTF8 := text.isValidUTF8
  rw [String.fromUTF8?, dif_pos hvalid]
  rfl

namespace Integer

theorem ofDigits_eq (cs : List Char) : ofDigits cs = Nat.ofDigitChars 10 cs 0 := by
  rw [Nat.ofDigitChars_eq_foldl, ofDigits]
  congr 1
  funext n c
  rw [Nat.mul_comm]
  rfl

theorem magnitude?_toDigits (n : Nat) : magnitude? (Nat.toDigits 10 n) = some n := by
  have hdigits : (Nat.toDigits 10 n).all Char.isDigit = true :=
    List.all_eq_true.mpr fun c hc =>
      Nat.isDigit_of_mem_toDigits (by decide) (by decide) hc
  rw [magnitude?, if_pos ⟨Nat.toDigits_ne_nil, hdigits⟩, ofDigits_eq,
    Nat.ofDigitChars_ten_toDigits]

/-- A run of digits is read as a number without a sign. -/
theorem unbounded?_toDigits (n : Nat) : unbounded? (Nat.toDigits 10 n) = some (n : Int) := by
  have hhead : ∀ c ∈ Nat.toDigits 10 n, c ≠ '-' ∧ c ≠ '+' := by
    intro c hc
    have hdigit := Nat.isDigit_of_mem_toDigits (by decide) (by decide) hc
    constructor <;> rintro rfl <;> exact absurd hdigit (by decide)
  have hmagnitude := magnitude?_toDigits n
  unfold unbounded?
  split
  · next cs heq =>
      rw [heq] at hhead
      exact absurd rfl (hhead '-' (by simp)).1
  · next cs heq =>
      rw [heq] at hhead
      exact absurd rfl (hhead '+' (by simp)).2
  · rw [hmagnitude]
    rfl

theorem toList_encode (n : Int) : (encode n).toList =
    if n < 0 then '-' :: Nat.toDigits 10 n.natAbs else Nat.toDigits 10 n.natAbs := by
  unfold encode
  split
  · simp
  · simp

theorem not_blank_encode (n : Int) : ∀ c ∈ (encode n).toList, isBlank c = false := by
  intro c hc
  have hdigit : ∀ d ∈ Nat.toDigits 10 n.natAbs, isBlank d = false :=
    fun d hd => isBlank_of_isDigit (Nat.isDigit_of_mem_toDigits (by decide) (by decide) hd)
  rw [toList_encode] at hc
  split at hc
  · rcases List.mem_cons.mp hc with rfl | hc
    · decide
    · exact hdigit c hc
  · exact hdigit c hc

/-- The canonical form of a number is read as this number. -/
theorem unbounded?_encode (n : Int) : unbounded? (encode n).toList = some n := by
  rw [toList_encode]
  split
  · next hneg =>
      have hnat : -(n.natAbs : Int) = n := by omega
      simp only [unbounded?, magnitude?_toDigits]
      exact congrArg some hnat
  · next hpos =>
      have hnat : (n.natAbs : Int) = n := by omega
      rw [unbounded?_toDigits, hnat]

/-- A number that fits a counter is read back from its canonical form. -/
theorem read?_encode {n : Int} (h : fits n = true) : read? (encode n) = some n := by
  rw [read?, trim_of_not_blank (not_blank_encode n), decode?, unbounded?_encode]
  simp only [h, if_true]

end Integer

end SqlCache.Text
