import Mathlib.Data.List.Sort
import Mathlib.Data.String.Basic
import SqlCache.Store.Live

/-!
The rows of a map. What a store lists for a map are its fields with their values, each once and in
the order of the fields (`mem_fieldsOf`, `pairwise_fieldsOf`), so two stores that hold the same
fields of a map list the same (`fieldsOf_congr`). A field comes into a map only by being set, and
leaves it only by being deleted.
-/

set_option autoImplicit false

namespace SqlCache.Store

open Std

variable {s t : Store} {key : String} {e : MapEntry}

theorem mem_fieldsOf :
    e ∈ s.fieldsOf key ↔ e.key = key ∧ s.field? key e.field = some e.value := by
  obtain ⟨k, f, v⟩ := e
  simp only [fieldsOf, List.mem_map, List.mem_filter, decide_eq_true_eq, Prod.exists,
    ExtTreeMap.mem_toList_iff_getElem?_eq_some, MapEntry.mk.injEq, field?, Option.map_eq_some_iff]
  constructor
  · rintro ⟨k', f', row, ⟨hrow, rfl⟩, rfl, rfl, rfl⟩
    exact ⟨rfl, row, hrow, rfl⟩
  · rintro ⟨rfl, row, hrow, rfl⟩
    exact ⟨k, f, row, ⟨hrow, rfl⟩, rfl, rfl, rfl⟩

/-- The fields of a map are listed in order, hence each once. -/
theorem pairwise_fieldsOf (s : Store) (key : String) :
    (s.fieldsOf key).Pairwise fun a b => a.field < b.field := by
  rw [fieldsOf, List.pairwise_map, List.pairwise_filter]
  refine ExtTreeMap.ordered_keys_toList.imp fun {a b} hlt ha hb => ?_
  have hkey : compare a.1.1 b.1.1 = .eq := by
    rw [of_decide_eq_true ha, of_decide_eq_true hb, compare_self]
  rw [comparePairs, hkey, Ordering.then] at hlt
  exact compare_lt_iff_lt.mp hlt

theorem fieldsOf_congr (h : ∀ field, s.field? key field = t.field? key field) :
    s.fieldsOf key = t.fieldsOf key := by
  have : Std.Irrefl fun a b : MapEntry => a.field < b.field := ⟨fun a => String.lt_irrefl a.field⟩
  refine (pairwise_fieldsOf s key).eq_of_mem_iff (pairwise_fieldsOf t key) fun e => ?_
  rw [mem_fieldsOf, mem_fieldsOf, h]

/-! ## Fields that come and go -/

theorem field?_setField (s : Store) (ms : Int) (key field value k f : String) :
    (s.setField ms key field value).field? k f =
      if (key, field) = (k, f) then some value else s.field? k f := by
  simp only [field?, setField, ExtTreeMap.getElem?_insert, LawfulEqCmp.compare_eq_iff_eq]
  split <;> rfl

theorem field?_deleteField (s : Store) (key field k f : String) :
    (s.deleteField key field).2.field? k f =
      if (key, field) = (k, f) then none else s.field? k f := by
  simp only [field?, deleteField, ExtTreeMap.getElem?_erase, LawfulEqCmp.compare_eq_iff_eq]
  split <;> rfl

/-- An operation sets a field, or deletes it, or leaves it as it is. -/
theorem field?_apply (s : Store) (now : Instant) (op : Operation) (key field : String) :
    (∃ value, op = .setField key field value ∧
      (s.apply now op).2.field? key field = some value) ∨
    (op = .deleteField key field ∧ (s.apply now op).2.field? key field = none) ∨
    (s.apply now op).2.field? key field = s.field? key field := by
  cases op with
  | setField k f value =>
      rw [apply, field?_setField]
      by_cases hplace : (k, f) = (key, field)
      · cases hplace
        exact Or.inl ⟨value, rfl, if_pos rfl⟩
      · exact Or.inr (Or.inr (if_neg hplace))
  | deleteField k f =>
      rw [apply, field?_deleteField]
      by_cases hplace : (k, f) = (key, field)
      · cases hplace
        exact Or.inr (Or.inl ⟨rfl, if_pos rfl⟩)
      · exact Or.inr (Or.inr (if_neg hplace))
  | setNx k value ttl =>
      right; right
      simp only [apply, setNx]
      split <;> rfl
  | expire k ttl =>
      right; right
      simp only [apply, expire]
      split <;> rfl
  | set | getBytes | delete | count | getField | getFields | scan | ttl | lock | publish =>
      exact Or.inr (Or.inr rfl)

end SqlCache.Store
