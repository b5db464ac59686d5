import SqlCache.Proofs.Lifetime.Basic
import SqlCache.Proofs.Time.Expiry

/-!
Whether a key that has just been written is there. The deadline and the clock are rounded to whole
milliseconds apart from each other, so a span may be over before it has begun: it counts only if it
ends in a later millisecond than it begins in (`Outlasts`). Spans of a millisecond and more always
do, and shorter ones do if they begin late enough in their millisecond.

The main result is `live_iff_outlasts`: who has been told that he wrote a key with a span to live
finds it at the same reading of the clock exactly if the span outlasts the millisecond. Otherwise he
has written a row that is dead from the start, and everybody who wants to take the key gets it
(`setNx_granted_twice`).
-/

set_option autoImplicit false

namespace SqlCache.Lifetime

variable {key : String} {ttl : Duration} {now : Instant} {o : Occasion} {op : Operation}

/-- The span, begun at this reading of the clock, has no end or ends in a later millisecond. -/
def Outlasts (now : Instant) (ttl : Duration) : Prop :=
  ttl.isZero = true ∨ now.millis < (now.nanos + ttl.nanos) / 1000000

instance (now : Instant) (ttl : Duration) : Decidable (Outlasts now ttl) :=
  inferInstanceAs (Decidable (_ ∨ _))

theorem outlasts_of_millisecond (h : 1000000 ≤ ttl.nanos) : Outlasts now ttl := by
  right
  simp only [Instant.millis]
  omega

/-- A span outlasts the millisecond exactly if the deadline that is stored lies ahead. -/
theorem millis_lt_expiry_iff (hnow : now.isRepresentable = true) (hnever : now < .never) :
    now.millis < (now.expiry ttl).millis ↔ Outlasts now ttl := by
  have hnever' : now.nanos < Instant.never.nanos := hnever
  have hsentinel : Instant.never.nanos = 253402300799999 * 1000000 := by decide
  cases hzero : ttl.isZero with
  | true =>
      rw [Instant.expiry_of_isZero hzero, Instant.millis, Instant.millis]
      refine iff_of_true ?_ (Or.inl hzero)
      omega
  | false =>
      rw [Instant.expiry_of_isZero_eq_false hnow hzero, Outlasts, hzero]
      simp only [Instant.millis, Bool.false_eq_true, false_or]
      omega

/-- Who has written a key finds its value there, at the same reading of the clock, if the deadline
that he has stored lies ahead, and finds nothing otherwise. -/
theorem Wrote.held? {s : Store} (wrote : Wrote key ttl op (s.apply now op).1) :
    ∃ value, valueAfter (s.apply now (.getBytes key)).1 op = .ok value ∧
      ((s.apply now op).2.held? now key).map Prod.fst =
        if now.millis < (now.expiry ttl).millis then some value else none := by
  obtain ⟨row, hrow, hdeadline, hvalue⟩ := wrote.row
  refine ⟨row.value, hvalue, ?_⟩
  rw [Store.held?, Store.live?, hrow, Option.filter_some, ScalarRow.isLive, hdeadline]
  by_cases hahead : now.millis < (now.expiry ttl).millis
  · simp [hahead]
  · simp [hahead]

/-- Somebody who has been told that he wrote a key, to live for a span, is told at the same reading
of the clock that it holds its value, and that it cannot be taken, if the span outlasts the
millisecond, as every span of a millisecond or more does; if it does not, he is told that there is
no such key, and that he has taken it again. -/
theorem live_iff_outlasts (hnow : o.now.isRepresentable = true) (hnever : o.now < .never)
    (wrote : Wrote key ttl op (o.ask op)) :
    ∃ value held, valueAfter (o.ask (.getBytes key)) op = .ok value ∧
      Told (o.call o.now op) key held ∧
      (∀ other span, (o.call o.now op).ask (.setNx key other span) = .ok held.isNone) ∧
      (Outlasts o.now ttl → held.map Prod.fst = some value) ∧
      (¬ Outlasts o.now ttl → held = none) ∧
      (ttl.isZero = true ∨ 1000000 ≤ ttl.nanos → Outlasts o.now ttl) := by
  obtain ⟨answer, hok⟩ := wrote.eq_ok
  obtain ⟨owns, hrefusal⟩ := Occasion.owns_of_write wrote.isWrite hok
  obtain ⟨htold, hstore, owns'⟩ := Occasion.owns_spec owns hrefusal
  have hbefore : o.ask (.getBytes key) = (o.store.apply o.now (.getBytes key)).1 :=
    (Occasion.owns_spec owns rfl).1
  rw [htold] at wrote
  obtain ⟨value, hvalue, hheld⟩ := wrote.held?
  refine ⟨value, (o.call o.now op).store.held? o.now key, ?_,
    told_of_reads (owns'.reads .scalars) key, ?_, ?_, ?_, ?_⟩
  · rw [hbefore]
    exact hvalue
  · intro other span
    rw [(Occasion.owns_spec owns' rfl).1, Store.apply_setNx]
    rfl
  · intro houtlasts
    rw [hstore, hheld, if_pos ((millis_lt_expiry_iff hnow hnever).mpr houtlasts)]
  · intro hbrief
    rw [hstore, ← Option.map_eq_none_iff, hheld,
      if_neg (mt (millis_lt_expiry_iff hnow hnever).mp hbrief)]
  · rintro (hzero | hlong)
    · exact Or.inl hzero
    · exact outlasts_of_millisecond hlong

/-- A nanosecond outlasts the millisecond when it begins with the last nanosecond of it. -/
theorem live_iff_outlasts_lastNanosecond :
    let o : Occasion := ⟨.empty .file, ⟨999999⟩, false⟩
    let op : Operation := .set "k" "a".toUTF8 ⟨1⟩
    o.ask op = .ok () ∧ (o.call o.now op).ask (.getBytes "k") = .ok "a".toUTF8 := by
  intro o op
  have wrote : Wrote "k" ⟨1⟩ op (o.ask op) := .set "a".toUTF8
  obtain ⟨value, held, hvalue, told, -, hlive, -, -⟩ :=
    live_iff_outlasts (by decide) (by decide) wrote
  obtain rfl : "a".toUTF8 = value := Except.ok.inj hvalue
  refine ⟨rfl, ?_⟩
  rw [told.bytes, hlive (by decide)]
  rfl

/-- Two holders at once: a key that was taken for a little less than a millisecond is not there, and
is taken by the next one who asks for it, at the same reading of the clock. -/
theorem setNx_granted_twice :
    let o : Occasion := ⟨.empty .file, .ofParts 1700000000 0, false⟩
    let op : Operation := .setNx "k" "a".toUTF8 ⟨999999⟩
    o.ask op = .ok true ∧ (o.call o.now op).ask (.getBytes "k") = .error .notFound ∧
      (o.call o.now op).ask (.setNx "k" "b".toUTF8 ⟨999999⟩) = .ok true := by
  refine ⟨rfl, rfl, rfl⟩

end SqlCache.Lifetime
