import SqlCache.Time.Expiry

/-!
Expiries in whole numbers. The span of an entry is added to the clock without a bound and the sum
is cut off at `Instant.never`: the limits of spans and of instants lie so far out that what passes
them is cut off anyway (`Instant.expiry_of_isZero_eq_false`). Stored as milliseconds an expiry
loses what is finer; every millisecond between a clock and `Instant.never` is an instant again.
-/

set_option autoImplicit false

namespace SqlCache.Instant

variable {now : Instant} {ttl : Duration}

theorem millis_le_millis {a b : Instant} (h : a ≤ b) : a.millis ≤ b.millis :=
  Int.ediv_le_ediv (by decide) h

/-- The years that instants range over. -/
theorem isRepresentable_iff :
    now.isRepresentable = true ↔ earliest.nanos ≤ now.nanos ∧ now.nanos ≤ latest.nanos := by
  rw [isRepresentable, Bool.and_eq_true, decide_eq_true_eq, decide_eq_true_eq, le_def, le_def]

theorem eq_of_add?_eq_some {t : Instant} (h : now.add? ttl = some t) :
    t = ⟨now.nanos + ttl.nanos⟩ := by
  simp only [add?, Option.ite_none_right_eq_some, Option.some.injEq] at h
  exact h.2.symm

/-- A sum that is no instant lies far beyond `never`. -/
theorem never_le_of_add?_eq_none (hnow : now.isRepresentable = true) (h : now.add? ttl = none) :
    never.nanos ≤ now.nanos + ttl.nanos := by
  obtain ⟨hearly, -⟩ := isRepresentable_iff.mp hnow
  have hout : ttl.isAddable = false ∨
      (⟨now.nanos + ttl.nanos⟩ : Instant).isRepresentable = false := by
    rw [← Bool.and_eq_false_iff]
    simpa [add?, -Bool.and_eq_true] using h
  rcases hout with hspan | hsum
  · have hlong : Duration.longest.nanos < ttl.nanos := by simpa [Duration.isAddable] using hspan
    simp only [Duration.longest, Duration.ofMillis, earliest, never] at hlong hearly ⊢
    omega
  · simp only [isRepresentable, Bool.and_eq_false_iff, decide_eq_false_iff_not, le_def, earliest,
      latest, never] at hsum hearly ⊢
    omega

theorem expiry_of_isZero (h : ttl.isZero = true) : now.expiry ttl = never := by
  unfold expiry
  rw [if_pos h]

/-- An entry with a span to live expires a span later, or never if that is later still. -/
theorem expiry_of_isZero_eq_false (hnow : now.isRepresentable = true) (h : ttl.isZero = false) :
    now.expiry ttl = ⟨min (now.nanos + ttl.nanos) never.nanos⟩ := by
  unfold expiry
  rw [h]
  cases hadd : now.add? ttl with
  | none =>
      rw [Int.min_eq_right (never_le_of_add?_eq_none hnow hadd)]
      rfl
  | some t =>
      rw [eq_of_add?_eq_some hadd]
      simp only [Bool.false_eq_true, if_false, le_def]
      split
      · next hle => rw [Int.min_eq_left hle]
      · next hle => rw [Int.min_eq_right (by omega)]

theorem expiry_le_never : now.expiry ttl ≤ never := by
  unfold expiry
  split
  · exact Int.le_refl _
  · split
    · exact Int.le_refl _
    · split
      · next hle => exact hle
      · exact Int.le_refl _

/-- A stored millisecond between a reading of the clock and `never` reads as itself. -/
theorem ofMillis_of_between (hnow : now.isRepresentable = true) {ms : Int} (hlo : now.millis < ms)
    (hhi : ms ≤ never.millis) : ofMillis ms = ⟨ms * 1000000⟩ := by
  obtain ⟨hearly, -⟩ := isRepresentable_iff.mp hnow
  have hrange : (⟨ms * 1000000⟩ : Instant).isRepresentable = true := by
    simp only [isRepresentable, Bool.and_eq_true, decide_eq_true_eq, le_def, millis, earliest,
      latest, never] at hearly hlo hhi ⊢
    omega
  exact if_pos hrange

theorem remaining_of_never_le {e : Instant} (h : never ≤ e) : now.remaining e = none := if_pos h

theorem remaining_of_lt_never {e : Instant} (h : e < never) :
    now.remaining e = some (now.upTo e) :=
  if_neg (Int.not_le.mpr h)

/-- The entry that never expires stays so when what is left of it is written back. -/
theorem expiry_retained_of_never_le {e : Instant} (h : never ≤ e) :
    now.expiry (Duration.retained (now.remaining e)) = never := by
  rw [remaining_of_never_le h]
  exact expiry_of_isZero rfl

/-- An expiry that lies ahead comes back when what is left of it is written back. -/
theorem expiry_retained_of_lt (hnow : now.isRepresentable = true) {e : Instant} (hlo : now < e)
    (hhi : e ≤ never) : now.expiry (Duration.retained (now.remaining e)) = e := by
  simp only [lt_def, le_def] at hlo hhi
  by_cases hnever : never.nanos ≤ e.nanos
  · have hsame : e.nanos = never.nanos := Int.le_antisymm hhi hnever
    rw [expiry_retained_of_never_le hnever]
    exact congrArg mk hsame.symm
  · have hspan : (now.upTo e).isZero = false := by
      simp only [upTo, Duration.isZero, beq_eq_false_iff_ne]
      omega
    have hretained : Duration.retained (some (now.upTo e)) = now.upTo e := by
      rw [Duration.retained, if_neg (by simp [hspan])]
    have hsum : min (now.nanos + (now.upTo e).nanos) never.nanos = e.nanos := by
      simp only [upTo]
      omega
    rw [remaining_of_lt_never (Int.not_le.mp hnever), hretained,
      expiry_of_isZero_eq_false hnow hspan, hsum]

/-- The expiry of an entry that is live comes back to the millisecond when what is left of it is
written back, whether it is the last millisecond or never comes. -/
theorem millis_expiry_retained (hnow : now.isRepresentable = true) {ms : Int}
    (hlo : now.millis < ms) (hhi : ms ≤ never.millis) :
    (now.expiry (Duration.retained (now.remaining (ofMillis ms)))).millis = ms := by
  have hahead : now < ⟨ms * 1000000⟩ := by
    simp only [lt_def, millis] at hlo ⊢
    omega
  have hbefore : (⟨ms * 1000000⟩ : Instant) ≤ never := by
    simp only [le_def, millis, never] at hhi ⊢
    omega
  rw [ofMillis_of_between hnow hlo hhi, expiry_retained_of_lt hnow hahead hbefore, millis]
  exact Int.mul_ediv_cancel ms (by decide)

end SqlCache.Instant
