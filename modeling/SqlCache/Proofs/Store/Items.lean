import Mathlib.Data.Set.Lattice
import Mathlib.Order.CompletePartialOrder
import SqlCache.Proofs.Store.Cursors
import SqlCache.Proofs.Store.Fields
import SqlCache.Proofs.Store.Frame

/-!
Items: the rows that calls name. A scalar key, a field of a map, a cursor and the log of messages
are items, and a store is nothing but what it holds of each of them (`Store.ext_row`). Something
that is done to a store is confined to some items if it leaves all others alone and if these are all
that it looks at (`Confined`). What is done in turn, or taken back where it fails, is confined if
its parts are. Main results: `Confined.commute`, that things which are confined to disjoint items
can be done in either order, and `Store.confined_apply` and `Store.confined_applyLog`, that
operations and calls on the log are confined to the items they name.
-/

set_option autoImplicit false

namespace SqlCache

open Std

/-! ## Items and their rows -/

/-- What a call can name. -/
inductive Item where
  | scalar (key : String)
  | field (key field : String)
  /-- The messages of all channels, and the ids given out so far. -/
  | messages
  | cursor (channel subscriber : String)
  deriving DecidableEq, Repr

/-- What a store holds of an item. -/
abbrev Item.Row : Item → Type
  | scalar .. => Option ScalarRow
  | field .. => Option FieldRow
  | messages => ExtTreeMap Int MessageRow × Int
  | cursor .. => Option CursorRow

/-- The row of an item. -/
def Store.row (s : Store) : (item : Item) → item.Row
  | .scalar key => s.scalars[key]?
  | .field key field => s.fields[(key, field)]?
  | .messages => (s.messages, s.lastMessageId)
  | .cursor channel subscriber => s.cursors[(channel, subscriber)]?

/-- A store is what it holds of each item. -/
theorem Store.ext_row {s t : Store} (h : ∀ item, s.row item = t.row item) : s = t := by
  have hscalars : s.scalars = t.scalars := ExtTreeMap.ext_getElem? fun {key} => h (.scalar key)
  have hfields : s.fields = t.fields :=
    ExtTreeMap.ext_getElem? fun {place} => h (.field place.1 place.2)
  have hcursors : s.cursors = t.cursors :=
    ExtTreeMap.ext_getElem? fun {place} => h (.cursor place.1 place.2)
  obtain ⟨hmessages, hlast⟩ := Prod.mk.inj (h .messages)
  cases s
  cases t
  simp only at hscalars hfields hcursors hmessages hlast
  rw [hscalars, hfields, hcursors, hmessages, hlast]

/-- Two stores hold the same of some items. -/
def Store.AgreeOn (items : Set Item) (s t : Store) : Prop :=
  ∀ item ∈ items, s.row item = t.row item

/-! ## What is confined to items -/

/-- What is done to a store changes some items only, and looks at these only. -/
structure Confined {α : Type} (items : Set Item) (act : Store → α × Store) : Prop where
  kept : ∀ (s : Store) {item : Item}, item ∉ items → (act s).2.row item = s.row item
  answer : ∀ {s t : Store}, Store.AgreeOn items s t → (act s).1 = (act t).1
  agree : ∀ {s t : Store}, Store.AgreeOn items s t → Store.AgreeOn items (act s).2 (act t).2

namespace Confined

variable {α β : Type} {items others : Set Item} {act : Store → α × Store}

/-- What only answers is confined to the items that its answer depends on. -/
theorem of_reading (keeps : ∀ s, (act s).2 = s)
    (answer : ∀ {s t : Store}, Store.AgreeOn items s t → (act s).1 = (act t).1) :
    Confined items act where
  kept s item _ := by rw [keeps]
  answer := answer
  agree {s t} h := by
    rw [keeps, keeps]
    exact h

/-- A fixed answer. -/
theorem const (items : Set Item) (a : α) : Confined items fun s => (a, s) :=
  of_reading (fun _ => rfl) fun _ => rfl

/-- What is confined to some items is confined to more. -/
theorem mono (h : Confined items act) (hsub : items ⊆ others) : Confined others act where
  kept s item hitem := h.kept s fun hin => hitem (hsub hin)
  answer hagree := h.answer fun item hin => hagree item (hsub hin)
  agree {s t} hagree item hitem := by
    by_cases hin : item ∈ items
    · exact h.agree (fun item hin => hagree item (hsub hin)) item hin
    · rw [h.kept s hin, h.kept t hin]
      exact hagree item hitem

/-- One thing after another, which the answer of the first decides. -/
theorem andThen {next : α → Store → β × Store} (h : Confined items act)
    (hnext : ∀ a, Confined items (next a)) :
    Confined items fun s => next (act s).1 (act s).2 where
  kept s item hitem := by rw [(hnext _).kept _ hitem, h.kept s hitem]
  answer {s t} hagree := by
    rw [h.answer hagree]
    exact (hnext _).answer (h.agree hagree)
  agree {s t} hagree := by
    rw [h.answer hagree]
    exact (hnext _).agree (h.agree hagree)

/-- The answer put into another form. -/
theorem map (h : Confined items act) (f : α → β) :
    Confined items fun s => (f (act s).1, (act s).2) :=
  h.andThen fun a => const items (f a)

/-- What is taken back if it fails. -/
theorem orRestored {act : Store → Result α × Store} (h : Confined items act) :
    Confined items fun s =>
      match (act s).1 with
      | .ok a => (Except.ok a, (act s).2)
      | .error e => (Except.error e, s) where
  kept s item hitem := by
    cases (act s).1 with
    | ok a => exact h.kept s hitem
    | error e => rfl
  answer {s t} hagree := by
    simp only [h.answer hagree]
    cases (act t).1 <;> rfl
  agree {s t} hagree := by
    simp only [h.answer hagree]
    cases (act t).1 with
    | ok a => exact h.agree hagree
    | error e => exact hagree

/-- The items of one thing are as they were after another that is confined to others. -/
theorem agreeOn_of_disjoint (h : Confined others act) (hdisjoint : Disjoint items others)
    (s : Store) : Store.AgreeOn items (act s).2 s :=
  fun _ hitem => h.kept s (Set.disjoint_left.mp hdisjoint hitem)

/-- Things that are confined to disjoint items give the same answers and leave the same store in
either order. -/
theorem commute {act' : Store → β × Store} (h : Confined items act) (h' : Confined others act')
    (hdisjoint : Disjoint items others) (s : Store) :
    (act' (act s).2).1 = (act' s).1 ∧ (act (act' s).2).1 = (act s).1 ∧
      (act' (act s).2).2 = (act (act' s).2).2 := by
  have hleft := h'.agreeOn_of_disjoint hdisjoint s
  have hright := h.agreeOn_of_disjoint hdisjoint.symm s
  refine ⟨h'.answer hright, h.answer hleft, Store.ext_row fun item => ?_⟩
  by_cases hitem : item ∈ items
  · have hout : item ∉ others := Set.disjoint_left.mp hdisjoint hitem
    rw [h'.kept _ hout]
    exact (h.agree hleft item hitem).symm
  · rw [h.kept (act' s).2 hitem]
    by_cases hin : item ∈ others
    · exact h'.agree hright item hin
    · rw [h'.kept _ hin, h'.kept _ hin, h.kept _ hitem]

/-! ## One row -/

/-- What works on the row of one item. -/
theorem of_item {item : Item}
    (elsewhere : ∀ s other, other ≠ item → (act s).2.row other = s.row other)
    (row : ∀ {s t : Store}, s.row item = t.row item →
      (act s).1 = (act t).1 ∧ (act s).2.row item = (act t).2.row item) :
    Confined {item} act where
  kept s other hother := elsewhere s other hother
  answer hagree := (row (hagree _ rfl)).1
  agree := by
    rintro s t hagree _ rfl
    exact (row (hagree _ rfl)).2

/-- What works on the row of one key. -/
theorem of_scalar {key : String}
    (rest : ∀ s, (act s).2 = { s with scalars := (act s).2.scalars })
    (elsewhere : ∀ s k, k ≠ key → (act s).2.scalars[k]? = s.scalars[k]?)
    (row : ∀ {s t : Store}, s.scalars[key]? = t.scalars[key]? →
      (act s).1 = (act t).1 ∧ (act s).2.scalars[key]? = (act t).2.scalars[key]?) :
    Confined {.scalar key} act := by
  refine of_item (fun s other hne => ?_) row
  cases other with
  | scalar k => exact elsewhere s k fun heq => hne (congrArg Item.scalar heq)
  | field | messages | cursor => rw [rest s]; rfl

/-- What works on the row of one field. -/
theorem of_field {key field : String}
    (rest : ∀ s, (act s).2 = { s with fields := (act s).2.fields })
    (elsewhere : ∀ s place, place ≠ (key, field) → (act s).2.fields[place]? = s.fields[place]?)
    (row : ∀ {s t : Store}, s.fields[(key, field)]? = t.fields[(key, field)]? →
      (act s).1 = (act t).1 ∧ (act s).2.fields[(key, field)]? = (act t).2.fields[(key, field)]?) :
    Confined {.field key field} act := by
  refine of_item (fun s other hne => ?_) row
  cases other with
  | field k f =>
      exact elsewhere s (k, f) fun heq => hne (congrArg (fun p => Item.field p.1 p.2) heq)
  | scalar | messages | cursor => rw [rest s]; rfl

/-- What works on the row of one cursor. -/
theorem of_cursor {channel subscriber : String}
    (rest : ∀ s, (act s).2 = { s with cursors := (act s).2.cursors })
    (elsewhere : ∀ s place, place ≠ (channel, subscriber) →
      (act s).2.cursors[place]? = s.cursors[place]?)
    (row : ∀ {s t : Store}, s.cursors[(channel, subscriber)]? = t.cursors[(channel, subscriber)]? →
      (act s).1 = (act t).1 ∧
        (act s).2.cursors[(channel, subscriber)]? = (act t).2.cursors[(channel, subscriber)]?) :
    Confined {.cursor channel subscriber} act := by
  refine of_item (fun s other hne => ?_) row
  cases other with
  | cursor c u =>
      exact elsewhere s (c, u) fun heq => hne (congrArg (fun p => Item.cursor p.1 p.2) heq)
  | scalar | field | messages => rw [rest s]; rfl

end Confined

/-! ## Operations -/

/-- The scalar keys of a list. -/
def Item.scalars (keys : List String) : Set Item := {item | ∃ key ∈ keys, item = .scalar key}

/-- The fields of a map. -/
def Item.fieldsOf (key : String) : Set Item := {item | ∃ field, item = .field key field}

/-- The items that an operation names. One that counts all keys or lists a map names all of them. -/
def Operation.items : Operation → Set Item
  | set key .. | getBytes key | delete key | setNx key .. | expire key _ | ttl key => {.scalar key}
  | count keys => if keys.isEmpty then Set.range .scalar else Item.scalars keys
  | setField key field _ | getField key field | deleteField key field => {.field key field}
  | getFields key | scan key .. => Item.fieldsOf key
  | lock _ => ∅
  | publish .. => {.messages}

/-- The items that a call on the log names. -/
def PubSub.LogCall.items : PubSub.LogCall → Set Item
  | attach channel subscriber | advance channel subscriber _ | detach channel subscriber =>
      {.cursor channel subscriber}
  | fetchAfter .. => {.messages}

namespace Store

variable {s t : Store} {now : Instant}

theorem live?_congr {key : String} (h : s.scalars[key]? = t.scalars[key]?) (ms : Int) :
    s.live? ms key = t.live? ms key := by
  rw [live?, live?, h]

/-- Counting depends on the keys that are counted. -/
theorem count_congr {keys : List String} (ms : Int)
    (h : AgreeOn (Operation.count keys).items s t) : s.count ms keys = t.count ms keys := by
  unfold count
  cases hkeys : keys.isEmpty with
  | true =>
      rw [Operation.items, hkeys, if_pos rfl] at h
      have hscalars : s.scalars = t.scalars :=
        ExtTreeMap.ext_getElem? fun {key} => h (.scalar key) ⟨key, rfl⟩
      rw [if_pos rfl, if_pos rfl, countAll, countAll, hscalars]
  | false =>
      rw [Operation.items, hkeys, if_neg Bool.false_ne_true] at h
      rw [if_neg Bool.false_ne_true, if_neg Bool.false_ne_true, countKeys, countKeys]
      refine List.countP_congr fun key hkey => ?_
      have hnamed : key ∈ keys := by
        have hmem := ExtTreeSet.mem_toList.mp hkey
        rw [ExtTreeSet.mem_ofList, List.contains_iff_mem] at hmem
        exact hmem
      rw [live?_congr (h (.scalar key) ⟨key, hnamed, rfl⟩)]

/-- An operation is confined to the items it names. -/
theorem confined_apply (now : Instant) (op : Operation) :
    Confined op.items fun s => s.apply now op := by
  have elsewhere {key : String} (hkey : op.writtenKey? = some key) (s : Store) (k : String)
      (hne : k ≠ key) : (s.apply now op).2.scalars[k]? = s.scalars[k]? :=
    apply_scalars_of_writtenKey?_ne (by rw [hkey]; exact fun heq => hne (Option.some.inj heq).symm)
  cases op with
  | set key value ttl =>
      refine .of_scalar (fun _ => rfl) (elsewhere rfl) fun {s t} hrow => ⟨rfl, ?_⟩
      simp only [apply, set, hrow, ExtTreeMap.getElem?_insert_self]
  | delete key =>
      refine .of_scalar (fun _ => rfl) (elsewhere rfl) fun {s t} hrow => ?_
      simp only [apply, delete, live?_congr hrow, ExtTreeMap.getElem?_erase_self, and_self]
  | setNx key value ttl =>
      refine .of_scalar (fun s => ?_) (elsewhere rfl) fun {s t} hrow => ?_
      · simp only [apply, setNx]
        split <;> rfl
      · simp only [apply, setNx, live?_congr hrow]
        cases t.live? now.millis key with
        | none => simp only [ExtTreeMap.getElem?_insert_self, and_self]
        | some row => exact ⟨rfl, hrow⟩
  | expire key ttl =>
      refine .of_scalar (fun s => ?_) (elsewhere rfl) fun {s t} hrow => ?_
      · simp only [apply, expire]
        split <;> rfl
      · simp only [apply, expire, live?_congr hrow]
        cases t.live? now.millis key with
        | none => exact ⟨rfl, hrow⟩
        | some row => simp only [ExtTreeMap.getElem?_insert_self, and_self]
  | getBytes key =>
      refine .of_reading (fun _ => rfl) fun hagree => ?_
      simp only [apply, live?_congr (hagree (.scalar key) rfl)]
  | ttl key =>
      refine .of_reading (fun _ => rfl) fun hagree => ?_
      simp only [apply, live?_congr (hagree (.scalar key) rfl)]
  | count keys =>
      refine .of_reading (fun _ => rfl) fun hagree => ?_
      simp only [apply, count_congr now.millis hagree]
  | setField key field value =>
      refine .of_field (fun _ => rfl) (fun s place hne => ?_) fun {s t} hrow => ⟨rfl, ?_⟩
      · simp only [apply, setField, ExtTreeMap.getElem?_insert, LawfulEqCmp.compare_eq_iff_eq,
          if_neg hne.symm]
      · simp only [apply, setField, hrow, ExtTreeMap.getElem?_insert_self]
  | deleteField key field =>
      refine .of_field (fun _ => rfl) (fun s place hne => ?_) fun {s t} hrow => ?_
      · simp only [apply, deleteField, ExtTreeMap.getElem?_erase, LawfulEqCmp.compare_eq_iff_eq,
          if_neg hne.symm]
      · simp only [apply, deleteField, ExtTreeMap.mem_iff_isSome_getElem?, hrow,
          ExtTreeMap.getElem?_erase_self, and_self]
  | getField key field =>
      refine .of_reading (fun _ => rfl) fun hagree => ?_
      have hrow := hagree (.field key field) rfl
      simp only [row] at hrow
      simp only [apply, field?, hrow]
  | getFields key =>
      refine .of_reading (fun _ => rfl) fun {s t} hagree => ?_
      have hmap : s.fieldsOf key = t.fieldsOf key := fieldsOf_congr fun field =>
        congrArg (Option.map FieldRow.value) (hagree (.field key field) ⟨field, rfl⟩)
      simp only [apply, hmap]
  | scan key cursor pattern count =>
      refine .of_reading (fun _ => rfl) fun {s t} hagree => ?_
      have hmap : s.fieldsOf key = t.fieldsOf key := fieldsOf_congr fun field =>
        congrArg (Option.map FieldRow.value) (hagree (.field key field) ⟨field, rfl⟩)
      simp only [apply, scan, matching, hmap]
  | lock key => exact .const _ _
  | publish channel message =>
      refine ⟨fun s item hitem => ?_, fun _ => rfl, ?_⟩
      · cases item with
        | messages => exact absurd rfl hitem
        | scalar | field | cursor => rfl
      · rintro s t hagree _ rfl
        obtain ⟨hmessages, hlast⟩ := Prod.mk.inj (hagree .messages rfl)
        simp only [apply, publish, row, hmessages, hlast]

/-- A call on the log is confined to the items it names. -/
theorem confined_applyLog (now : Instant) (call : PubSub.LogCall) :
    Confined call.items fun s => s.applyLog now call := by
  cases call with
  | attach channel subscriber =>
      refine .of_cursor (fun s => ?_) (fun s place hne => ?_) fun {s t} hrow => ?_
      · simp only [applyLog, attach]
        split <;> rfl
      · simp only [applyLog, attach]
        split
        · rfl
        · simp only [ExtTreeMap.getElem?_insert, LawfulEqCmp.compare_eq_iff_eq, if_neg hne.symm]
      · simp only [applyLog, attach, ExtTreeMap.mem_iff_isSome_getElem?, hrow]
        split
        · simp only [hrow, and_self]
        · simp only [ExtTreeMap.getElem?_insert_self, and_self]
  | advance channel subscriber id =>
      refine .of_cursor (fun s => ?_) (fun s place hne => ?_) fun {s t} hrow => ⟨rfl, ?_⟩
      · simp only [applyLog, advance]
        split <;> rfl
      · simp only [applyLog, advance]
        split
        · simp only [ExtTreeMap.getElem?_insert, LawfulEqCmp.compare_eq_iff_eq, if_neg hne.symm]
        · rfl
      · simp only [applyLog, advance, hrow]
        split
        · simp only [ExtTreeMap.getElem?_insert_self]
        · exact hrow
  | detach channel subscriber =>
      refine .of_cursor (fun _ => rfl) (fun s place hne => ?_) fun {s t} hrow => ⟨rfl, ?_⟩
      · simp only [applyLog, detach, ExtTreeMap.getElem?_erase, LawfulEqCmp.compare_eq_iff_eq,
          if_neg hne.symm]
      · simp only [applyLog, detach, ExtTreeMap.getElem?_erase_self]
  | fetchAfter channel after limit =>
      refine .of_reading (fun _ => rfl) fun hagree => ?_
      obtain ⟨hmessages, -⟩ := Prod.mk.inj (hagree .messages rfl)
      simp only [applyLog, messagesAfter, hmessages]

end Store

end SqlCache
