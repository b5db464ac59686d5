import Mathlib.Data.List.Basic

/-!
Running sums. Of the events of a run some count: such an event adds a delta to what has been counted
so far and answers the sum. What they answer is then the running sums of their deltas
(`Sums.answers`).
-/

set_option autoImplicit false

namespace SqlCache.Counter

/-- Events one after another that count on from an integer, if there is one, to another. -/
inductive Sums {Event : Type} (delta? value? : Event → Option Int) :
    Option Int → List Event → Option Int → Prop where
  | nil (count : Option Int) : Sums delta? value? count [] count
  | quiet {count final : Option Int} {e : Event} {es : List Event} (delta : delta? e = none)
      (value : value? e = none) (rest : Sums delta? value? count es final) :
      Sums delta? value? count (e :: es) final
  | counts {before d : Int} {final : Option Int} {e : Event} {es : List Event}
      (delta : delta? e = some d) (value : value? e = some (before + d))
      (rest : Sums delta? value? (some (before + d)) es final) :
      Sums delta? value? (some before) (e :: es) final

/-- The events that count answer the running sums of their deltas, and the last sum is what they
count to; without an integer to count on from there are none. -/
theorem Sums.answers {Event : Type} {delta? value? : Event → Option Int} {count final : Option Int}
    {events : List Event} (h : Sums delta? value? count events final) :
    (∀ v, count = some v →
      v :: events.filterMap value? = (events.filterMap delta?).scanl (· + ·) v) ∧
    (count = none → events.filterMap value? = []) ∧
    final = (events.filterMap value?).getLast?.or count := by
  induction h with
  | nil count => exact ⟨fun v _ => rfl, fun _ => rfl, rfl⟩
  | quiet hdelta hvalue rest ih =>
      rw [List.filterMap_cons_none hdelta, List.filterMap_cons_none hvalue]
      exact ih
  | @counts before d final e es hdelta hvalue rest ih =>
      rw [List.filterMap_cons_some hdelta, List.filterMap_cons_some hvalue]
      obtain ⟨hsums, -, hfinal⟩ := ih
      refine ⟨?_, by simp, ?_⟩
      · intro v hv
        obtain rfl := Option.some.inj hv
        rw [List.scanl_cons, hsums _ rfl]
      · rw [hfinal, List.getLast?_cons]
        cases (es.filterMap value?).getLast? <;> rfl

end SqlCache.Counter
