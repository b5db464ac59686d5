import SqlCache.Proofs.Time.Expiry

/-!
Expiries and spans as inverses of each other. An expiry is the sum of a clock and a span, cut off at
`Instant.never`; no limit of spans or of instants shows in it, and it grows with either of the two.
What is left of an expiry is the span it came from, as long as the sum was not cut off, and writing
back what is left gives the same expiry again. Main result: `expiry_remaining_inverse`.

Zero is the one span that does not add up: as a span to live it means that the entry never expires,
as what is left of one it means that the entry is over, and `Duration.retained` keeps the two apart.
-/

set_option autoImplicit false

namespace SqlCache.Instant

variable {now later e : Instant} {ttl longer : Duration}

/-- An entry with a span to live expires a span later, or never if that is later still. -/
theorem expiry_of_pos (hnow : now.isRepresentable = true) (hpos : 0 < ttl.nanos) :
    now.expiry ttl = ⟨min (now.nanos + ttl.nanos) never.nanos⟩ := by
  refine expiry_of_isZero_eq_false hnow ?_
  rw [Duration.isZero, beq_eq_false_iff_ne]
  exact Nat.ne_of_gt hpos

theorem expiry_of_eq_zero (hzero : ttl.nanos = 0) : now.expiry ttl = never :=
  expiry_of_isZero (by rw [Duration.isZero, hzero]; rfl)

/-- Every expiry is an instant. -/
theorem isRepresentable_expiry (hnow : now.isRepresentable = true) (ttl : Duration) :
    (now.expiry ttl).isRepresentable = true := by
  rcases Nat.eq_zero_or_pos ttl.nanos with hzero | hpos
  · rw [expiry_of_eq_zero hzero]
    decide
  · rw [expiry_of_pos hnow hpos]
    rw [isRepresentable_iff] at hnow ⊢
    simp only [earliest, latest, never] at hnow ⊢
    omega

/-- The years of instants are so few that the time between any two of them is a span that can be
added. -/
theorem isAddable_upTo (hnow : now.isRepresentable = true) (he : e.isRepresentable = true) :
    (now.upTo e).isAddable = true := by
  rw [isRepresentable_iff] at hnow he
  rw [Duration.isAddable, decide_eq_true_eq]
  simp only [Duration.longest, Duration.ofMillis, upTo, earliest, latest] at hnow he ⊢
  omega

/-- Who writes later, or for a longer time, writes a later expiry. -/
theorem expiry_le_expiry (hnow : now.isRepresentable = true)
    (hlater : later.isRepresentable = true) (hclock : now ≤ later) (hpos : 0 < ttl.nanos)
    (hspan : ttl.nanos ≤ longer.nanos) : now.expiry ttl ≤ later.expiry longer := by
  rw [expiry_of_pos hnow hpos, expiry_of_pos hlater (Nat.lt_of_lt_of_le hpos hspan)]
  simp only [le_def] at hclock ⊢
  omega

/-- What is left of an expiry at the moment it is computed is the span, if the sum was not cut
off. -/
theorem remaining_expiry_of_lt (hnow : now.isRepresentable = true) (hpos : 0 < ttl.nanos)
    (hshort : now.nanos + ttl.nanos < never.nanos) :
    now.remaining (now.expiry ttl) = some ttl := by
  have hsum : now.expiry ttl = ⟨now.nanos + ttl.nanos⟩ := by
    rw [expiry_of_pos hnow hpos, Int.min_eq_left (Int.le_of_lt hshort)]
  have hback : (now.nanos + ttl.nanos - now.nanos).toNat = ttl.nanos := by omega
  have hspan : now.upTo ⟨now.nanos + ttl.nanos⟩ = ttl := by
    rw [upTo, hback]
  rw [hsum, remaining_of_lt_never hshort, hspan]

/-- Nothing is told of an expiry that was cut off, or that never comes. -/
theorem remaining_expiry_of_not_lt (hnow : now.isRepresentable = true)
    (hlong : ¬ (0 < ttl.nanos ∧ now.nanos + ttl.nanos < never.nanos)) :
    now.remaining (now.expiry ttl) = none := by
  refine remaining_of_never_le ?_
  rcases Nat.eq_zero_or_pos ttl.nanos with hzero | hpos
  · rw [expiry_of_eq_zero hzero]
    exact Int.le_refl _
  · have hcut : never.nanos ≤ now.nanos + ttl.nanos := Int.not_lt.mp fun h => hlong ⟨hpos, h⟩
    rw [expiry_of_pos hnow hpos, Int.min_eq_right hcut]
    exact Int.le_refl _

/-- An entry whose time has run out gets a millisecond when what is left of it is written back. -/
theorem expiry_retained_of_le (hnow : now.isRepresentable = true) (hover : e ≤ now)
    (he : e < never) : now.expiry (Duration.retained (now.remaining e)) =
      ⟨min (now.nanos + 1000000) never.nanos⟩ := by
  have hnothing : now.upTo e = .zero := by
    simp only [le_def] at hover
    simp only [upTo, Duration.zero, Duration.mk.injEq]
    omega
  have hretained : Duration.retained (now.remaining e) = .ofMillis 1 := by
    rw [remaining_of_lt_never he, hnothing]
    rfl
  rw [hretained, expiry_of_pos hnow (by decide)]
  rfl

/-- The arithmetic of expiries at a reading of the clock: an expiry is the exact sum, cut off at
`never`; every expiry is an instant, and the time from the clock to an instant or back is a span, so
that nothing overflows; later clocks and longer spans give later expiries; what is left of an expiry
is the span it was computed from unless it was cut off; and what is left of any expiry, written
back, gives this expiry if it lies ahead, `never` if it lies past that, and a millisecond from now
if it is over. -/
theorem expiry_remaining_inverse (hnow : now.isRepresentable = true) :
    (∀ ttl : Duration, 0 < ttl.nanos →
      now.expiry ttl = ⟨min (now.nanos + ttl.nanos) never.nanos⟩) ∧
    ((∀ ttl, (now.expiry ttl).isRepresentable = true) ∧
      ∀ e : Instant, e.isRepresentable = true →
        (now.upTo e).isAddable = true ∧ (e.upTo now).isAddable = true) ∧
    (∀ later ttl longer, later.isRepresentable = true → now ≤ later → 0 < ttl.nanos →
      ttl.nanos ≤ longer.nanos → now.expiry ttl ≤ later.expiry longer) ∧
    (∀ ttl, now.remaining (now.expiry ttl) =
      if 0 < ttl.nanos ∧ now.nanos + ttl.nanos < never.nanos then some ttl else none) ∧
    ∀ e : Instant, e.isRepresentable = true →
      (now < e → e ≤ never → now.expiry (Duration.retained (now.remaining e)) = e) ∧
      (never < e → now.expiry (Duration.retained (now.remaining e)) = never) ∧
      (e ≤ now → e < never → now.expiry (Duration.retained (now.remaining e)) =
        ⟨min (now.nanos + 1000000) never.nanos⟩) := by
  refine ⟨fun ttl hpos => expiry_of_pos hnow hpos, ⟨isRepresentable_expiry hnow, ?_⟩, ?_, ?_, ?_⟩
  · intro e he
    exact ⟨isAddable_upTo hnow he, isAddable_upTo he hnow⟩
  · intro later ttl longer hlater hclock hpos hspan
    exact expiry_le_expiry hnow hlater hclock hpos hspan
  · intro ttl
    split
    · next hshort => exact remaining_expiry_of_lt hnow hshort.1 hshort.2
    · next hlong => exact remaining_expiry_of_not_lt hnow hlong
  · intro e _
    refine ⟨expiry_retained_of_lt hnow, ?_, expiry_retained_of_le hnow⟩
    intro hpast
    exact expiry_retained_of_never_le (Int.le_of_lt hpast)

/-- A nanosecond before `never`: a span of a nanosecond is cut off, one that is over gets the
nanosecond that is left, and an expiry of before 1970 has long been over. -/
theorem expiry_remaining_inverse_lastNanosecond :
    let now : Instant := ⟨never.nanos - 1⟩
    now.expiry ⟨1⟩ = never ∧ now.remaining (now.expiry ⟨1⟩) = none ∧
      now.expiry (Duration.retained (now.remaining never)) = never ∧
      now.expiry (Duration.retained (now.remaining ⟨-1⟩)) = never ∧
      (earliest.upTo now).isAddable = true := by
  intro now
  have hnow : now.isRepresentable = true := by decide
  obtain ⟨hsum, ⟨-, hspan⟩, -, hleft, hback⟩ := expiry_remaining_inverse hnow
  have hcut : now.expiry ⟨1⟩ = never := (hsum ⟨1⟩ (by decide)).trans (by decide)
  refine ⟨hcut, (hleft ⟨1⟩).trans (by decide), ?_, ?_, ?_⟩
  · exact (hback never (by decide)).1 (by decide) (by decide)
  · exact ((hback ⟨-1⟩ (by decide)).2.2 (by decide) (by decide)).trans (by decide)
  · exact (hspan earliest (by decide)).2

end SqlCache.Instant
