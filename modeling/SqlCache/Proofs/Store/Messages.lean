import SqlCache.Proofs.Database.Lock

/-!
Messages over time. Ids are given out once and grow, so what happens to the tables of a store can
remove messages and add later ones, but neither changes a message nor brings one back
(`Store.Evolves`). A draft is evolved from the committed tables, and so are the tables that are
committed later.
-/

set_option autoImplicit false

namespace SqlCache

open Std

namespace Store

/-- No message has an id that has not been given out. -/
def Bounded (s : Store) : Prop :=
  ∀ {id row}, s.messages[id]? = some row → id ≤ s.lastMessageId

/-- A store can become another one: messages go away, or come with ids not given out before. -/
structure Evolves (s t : Store) : Prop where
  last_le : s.lastMessageId ≤ t.lastMessageId
  keeps : ∀ {id row}, id ≤ s.lastMessageId → t.messages[id]? = some row →
    s.messages[id]? = some row
  bounded : s.Bounded → t.Bounded

theorem bounded_empty : empty.Bounded := by
  intro id row h
  simp [empty] at h

namespace Evolves

variable {s t u : Store}

theorem of_same (hmessages : t.messages = s.messages)
    (hlast : t.lastMessageId = s.lastMessageId) : Evolves s t where
  last_le := Int.le_of_eq hlast.symm
  keeps _ h := by rwa [hmessages] at h
  bounded hs := by
    intro id row h
    rw [hmessages] at h
    rw [hlast]
    exact hs h

theorem refl (s : Store) : Evolves s s := .of_same rfl rfl

theorem trans (first : Evolves s t) (rest : Evolves t u) : Evolves s u where
  last_le := Int.le_trans first.last_le rest.last_le
  keeps hid h := first.keeps hid (rest.keeps (Int.le_trans hid first.last_le) h)
  bounded hs := rest.bounded (first.bounded hs)

/-- Removing messages is an evolution. -/
theorem of_removed (hmessages : ∀ {id : Int} {row : MessageRow}, t.messages[id]? = some row →
      s.messages[id]? = some row)
    (hlast : t.lastMessageId = s.lastMessageId) : Evolves s t where
  last_le := Int.le_of_eq hlast.symm
  keeps _ h := hmessages h
  bounded hs := by
    intro id row h
    rw [hlast]
    exact hs (hmessages h)

/-- Publishing gives out the next id. -/
theorem publish (s : Store) (now : Int) (channel payload : String) :
    Evolves s (s.publish now channel payload) where
  last_le := by
    simp only [Store.publish]
    omega
  keeps {id row} hid h := by
    have hne : s.lastMessageId + 1 ≠ id := by omega
    simpa [Store.publish, ExtTreeMap.getElem?_insert, hne] using h
  bounded hs := by
    intro id row h
    simp only [Store.publish, ExtTreeMap.getElem?_insert] at h ⊢
    split at h
    · next heq =>
        have hid : s.lastMessageId + 1 = id := by simpa using heq
        omega
    · have hle := hs h
      omega

theorem apply (s : Store) (now : Instant) (op : Operation) : Evolves s (s.apply now op).2 := by
  cases op with
  | publish channel message => exact publish s now.millis channel message
  | setNx key value ttl =>
      simp only [Store.apply, setNx]
      split <;> exact .of_same rfl rfl
  | expire key ttl =>
      simp only [Store.apply, expire]
      split <;> exact .of_same rfl rfl
  | set | getBytes | delete | count | setField | getField | deleteField | getFields | scan | ttl
  | lock => exact .of_same rfl rfl

theorem applyPurge (s : Store) (call : Reaper.PurgeCall) : Evolves s (s.applyPurge call).2 := by
  cases call with
  | expired now => exact .of_same rfl rfl
  | messages olderThan =>
      refine .of_removed ?_ rfl
      intro id row h
      simp only [Store.applyPurge, purgeMessages, ExtTreeMap.getElem?_filter'] at h
      exact (Option.filter_eq_some_iff.mp h).1

end Evolves

/-- No call on the log touches a message. -/
theorem applyLog_messages (s : Store) (now : Instant) (call : PubSub.LogCall) :
    (s.applyLog now call).2.messages = s.messages ∧
      (s.applyLog now call).2.lastMessageId = s.lastMessageId := by
  cases call with
  | attach =>
      simp only [applyLog, attach]
      split <;> exact ⟨rfl, rfl⟩
  | advance =>
      simp only [applyLog, advance]
      split <;> exact ⟨rfl, rfl⟩
  | fetchAfter | detach => exact ⟨rfl, rfl⟩

/-- Whatever a statement does to the tables is an evolution. -/
theorem Evolves.effect (s : Store) (q : Statement) : Evolves s (q.effect s) := by
  cases q with
  | operate now op => exact .apply s now op
  | log now call =>
      obtain ⟨hmessages, hlast⟩ := s.applyLog_messages now call
      exact .of_same hmessages hlast
  | purge call => exact .applyPurge s call

/-! ## The messages in order -/

theorem mem_messages {s : Store} {r : Int × MessageRow} :
    r ∈ s.messages.toList ↔ s.messages[r.1]? = some r.2 :=
  ExtTreeMap.mem_toList_iff_getElem?_eq_some

theorem ascending_messages (s : Store) :
    s.messages.toList.Pairwise fun a b => a.1 < b.1 :=
  ExtTreeMap.ordered_keys_toList.imp Int.compare_eq_lt.mp

end Store

end SqlCache
