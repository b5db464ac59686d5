import Std.Data.ExtTreeMap

/-!
The tables of a store. A `Store` holds scalar keys, fields of maps, published messages and delivery
cursors, each as a finite map from its primary key to its row, ordered by that key; text is ordered
by its code points. Two stores with the same rows are equal (`Store.ext`), so a store is nothing but
its tables. Times are milliseconds since the start of 1970.
-/

set_option autoImplicit false

namespace SqlCache

open Std

/-- Pairs of texts, ordered by the first and then by the second. -/
def comparePairs (a b : String × String) : Ordering :=
  (compare a.1 b.1).then (compare a.2 b.2)

instance : OrientedCmp comparePairs where
  eq_swap {a b} := by
    simp only [comparePairs, Ordering.swap_then, ← OrientedOrd.eq_swap]

instance : TransCmp comparePairs where
  isLE_trans {a b c} := by
    have h := (inferInstance : TransCmp (compareLex
      (compareOn (Prod.fst : String × String → String)) (compareOn Prod.snd)))
    exact h.isLE_trans

instance : LawfulEqCmp comparePairs where
  eq_of_compare {a b} h := by
    simp only [comparePairs, Ordering.then_eq_eq] at h
    exact Prod.ext (LawfulEqCmp.eq_of_compare h.1) (LawfulEqCmp.eq_of_compare h.2)

/-- The row of a scalar key. -/
structure ScalarRow where
  value : ByteArray
  expireAt : Int
  createdAt : Int
  updatedAt : Int

/-- The row of one field of a map. -/
structure FieldRow where
  value : String
  createdAt : Int
  updatedAt : Int
  deriving DecidableEq, Repr

/-- The row of a message. -/
structure MessageRow where
  channel : String
  payload : String
  createdAt : Int
  deriving DecidableEq, Repr

/-- The row of a delivery cursor. -/
structure CursorRow where
  last : Int
  createdAt : Int
  updatedAt : Int
  deriving DecidableEq, Repr

/-- The tables of a store. -/
structure Store where
  scalars : ExtTreeMap String ScalarRow
  /-- By key and field. -/
  fields : ExtTreeMap (String × String) FieldRow comparePairs
  /-- By id. -/
  messages : ExtTreeMap Int MessageRow
  /-- By channel and subscriber. -/
  cursors : ExtTreeMap (String × String) CursorRow comparePairs
  /-- The greatest message id given out so far. -/
  lastMessageId : Int

namespace Store

/-- A store without rows. -/
def empty : Store := ⟨∅, ∅, ∅, ∅, 0⟩

/-- Which table of a store. -/
inductive Table where
  | scalars
  | fields
  | messages
  | cursors
  deriving DecidableEq, Repr

/-- The name of a table. -/
def Table.name : Table → String
  | scalars => "cache_kvs"
  | fields => "cache_maps"
  | messages => "cache_messages"
  | cursors => "cache_message_subscribes"

end Store

end SqlCache
