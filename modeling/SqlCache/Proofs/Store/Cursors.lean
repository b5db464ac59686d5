import SqlCache.Proofs.Store.Messages

/-!
Cursors and what they select. A cursor is written by calls on the log alone, each of which touches
the cursor of its own channel and subscriber and no other. What a fetch brings is the beginning of
the channel's messages past the cursor: nothing up to its last message is left out.
-/

set_option autoImplicit false

namespace SqlCache

namespace PubSub.LogCall

/-- The channel and the subscriber whose cursor a call is about. -/
def place? : LogCall → Option (String × String)
  | attach channel subscriber | advance channel subscriber _ | detach channel subscriber =>
    some (channel, subscriber)
  | fetchAfter .. => none

/-- The cursor that a call writes. -/
def written? : LogCall → Option Int
  | attach .. => some start
  | advance _ _ id => some id
  | fetchAfter .. | detach .. => none

end PubSub.LogCall

namespace Store

open Std

variable {s : Store}

/-- The cursor that is stored for a channel and a subscriber. -/
def cursor? (s : Store) (place : String × String) : Option Int :=
  (s.cursors[place]?).map CursorRow.last

theorem cursor?_congr {t : Store} (h : t.cursors = s.cursors) (place : String × String) :
    t.cursor? place = s.cursor? place := by
  rw [cursor?, cursor?, h]

/-! ## What leaves the cursors alone -/

theorem apply_cursors (s : Store) (now : Instant) (op : Operation) :
    (s.apply now op).2.cursors = s.cursors := by
  cases op with
  | setNx key value ttl =>
      simp only [apply, setNx]
      split <;> rfl
  | expire key ttl =>
      simp only [apply, expire]
      split <;> rfl
  | set | getBytes | delete | count | setField | getField | deleteField | getFields | scan | ttl
  | lock | publish => rfl

theorem applyPurge_cursors (s : Store) (call : Reaper.PurgeCall) :
    (s.applyPurge call).2.cursors = s.cursors := by
  cases call <;> rfl

/-! ## What the calls on the log do to them -/

/-- Attaching leaves a cursor that is there, and puts a new one at the start. -/
theorem cursor?_attach (s : Store) (now : Int) (channel subscriber : String)
    (place : String × String) :
    (s.attach now channel subscriber).cursor? place =
      if place = (channel, subscriber) then some ((s.cursor? place).getD PubSub.start)
      else s.cursor? place := by
  unfold attach cursor?
  by_cases hthere : (channel, subscriber) ∈ s.cursors
  · rw [if_pos hthere]
    split
    · next heq =>
        rw [ExtTreeMap.mem_iff_isSome_getElem?, Option.isSome_iff_exists] at hthere
        obtain ⟨row, hrow⟩ := hthere
        rw [heq, hrow]
        rfl
    · rfl
  · rw [if_neg hthere]
    have hnone := ExtTreeMap.getElem?_eq_none hthere
    rw [ExtTreeMap.getElem?_insert]
    by_cases heq : place = (channel, subscriber)
    · rw [if_pos heq, heq, hnone, if_pos ReflCmp.compare_self]
      rfl
    · rw [if_neg heq, if_neg fun h => heq (LawfulEqCmp.eq_of_compare h).symm]

/-- Storing a cursor does so where there is one. -/
theorem cursor?_advance (s : Store) (now : Int) (channel subscriber : String) (id : Int)
    (place : String × String) :
    (s.advance now channel subscriber id).cursor? place =
      if place = (channel, subscriber) then (s.cursor? place).map fun _ => id
      else s.cursor? place := by
  unfold advance cursor?
  cases hrow : s.cursors[(channel, subscriber)]? with
  | none =>
      simp only
      split
      · next heq =>
          rw [heq, hrow]
          rfl
      · rfl
  | some row =>
      simp only
      rw [ExtTreeMap.getElem?_insert]
      by_cases heq : place = (channel, subscriber)
      · rw [if_pos heq, heq, hrow, if_pos ReflCmp.compare_self]
        rfl
      · rw [if_neg heq, if_neg fun h => heq (LawfulEqCmp.eq_of_compare h).symm]

theorem cursor?_detach (s : Store) (channel subscriber : String) (place : String × String) :
    (s.detach channel subscriber).cursor? place =
      if place = (channel, subscriber) then none else s.cursor? place := by
  unfold detach cursor?
  rw [ExtTreeMap.getElem?_erase]
  by_cases heq : place = (channel, subscriber)
  · rw [if_pos heq, heq, if_pos ReflCmp.compare_self]
    rfl
  · rw [if_neg heq, if_neg fun h => heq (LawfulEqCmp.eq_of_compare h).symm]

/-- A stored cursor is what it was before a call, or what the call writes. -/
theorem applyLog_cursor?_cases {now : Instant} {call : PubSub.LogCall} {place : String × String}
    {last : Int} (h : (s.applyLog now call).2.cursor? place = some last) :
    s.cursor? place = some last ∨ call.written? = some last := by
  cases call with
  | attach channel subscriber =>
      simp only [applyLog, cursor?_attach] at h
      split at h
      · cases hthere : s.cursor? place with
        | none =>
            rw [hthere] at h
            exact Or.inr h
        | some cursor =>
            rw [hthere] at h
            exact Or.inl h
      · exact Or.inl h
  | fetchAfter => exact Or.inl h
  | advance channel subscriber id =>
      simp only [applyLog, cursor?_advance] at h
      split at h
      · obtain ⟨_, -, rfl⟩ := Option.map_eq_some_iff.mp h
        exact Or.inr rfl
      · exact Or.inl h
  | detach channel subscriber =>
      simp only [applyLog, cursor?_detach] at h
      split at h
      · cases h
      · exact Or.inl h

/-- A call is about the cursor of one place, and leaves all others. -/
theorem applyLog_cursor?_elsewhere (now : Instant) {call : PubSub.LogCall}
    {place : String × String} (h : call.place? ≠ some place) :
    (s.applyLog now call).2.cursor? place = s.cursor? place := by
  have hne {channel subscriber : String} (heq : call.place? = some (channel, subscriber)) :
      place ≠ (channel, subscriber) := by
    rintro rfl
    exact h heq
  cases call with
  | attach channel subscriber =>
      simp only [applyLog, cursor?_attach, if_neg (hne rfl)]
  | fetchAfter => rfl
  | advance channel subscriber id =>
      simp only [applyLog, cursor?_advance, if_neg (hne rfl)]
  | detach channel subscriber =>
      simp only [applyLog, cursor?_detach, if_neg (hne rfl)]

/-! ## What a fetch brings -/

/-- All messages of a channel past an id. -/
def messagesPast (s : Store) (channel : String) (after : Int) : List LogEntry :=
  (s.messages.toList.filter fun r =>
    decide (r.2.channel = channel) && decide (after < r.1)).map fun r => ⟨r.1, r.2.payload⟩

theorem messagesAfter_eq (s : Store) (channel : String) (after limit : Int) :
    s.messagesAfter channel after limit = (s.messagesPast channel after).take limit.toNat := rfl

theorem mem_messagesPast {channel : String} {after : Int} {m : LogEntry} :
    m ∈ s.messagesPast channel after ↔
      ∃ row, s.messages[m.id]? = some row ∧ row.channel = channel ∧ after < m.id ∧
        row.payload = m.payload := by
  simp only [messagesPast, List.mem_map, List.mem_filter, mem_messages, Bool.and_eq_true,
    decide_eq_true_eq]
  constructor
  · rintro ⟨r, ⟨hrow, hchannel, hafter⟩, rfl⟩
    exact ⟨r.2, hrow, hchannel, hafter, rfl⟩
  · rintro ⟨row, hrow, hchannel, hafter, hpayload⟩
    exact ⟨(m.id, row), ⟨hrow, hchannel, hafter⟩, by rw [hpayload]⟩

theorem lt_of_mem_messagesPast {channel : String} {after : Int} {m : LogEntry}
    (h : m ∈ s.messagesPast channel after) : after < m.id := by
  obtain ⟨-, -, -, hafter, -⟩ := mem_messagesPast.mp h
  exact hafter

/-- A message is past any id before its own. -/
theorem mem_messagesPast_of_lt {channel : String} {after id : Int} {m : LogEntry}
    (h : m ∈ s.messagesPast channel after) (hlt : id < m.id) : m ∈ s.messagesPast channel id := by
  obtain ⟨row, hrow, hchannel, -, hpayload⟩ := mem_messagesPast.mp h
  exact mem_messagesPast.mpr ⟨row, hrow, hchannel, hlt, hpayload⟩

theorem ascending_messagesPast (s : Store) (channel : String) (after : Int) :
    (s.messagesPast channel after).Pairwise fun a b => a.id < b.id :=
  List.pairwise_map.mpr (s.ascending_messages.filter _)

/-- Nothing up to a message that is fetched is left out. -/
theorem mem_messagesAfter_of_le {channel : String} {after limit : Int} {m n : LogEntry}
    (h : m ∈ s.messagesAfter channel after limit) (hn : n ∈ s.messagesPast channel after)
    (hle : n.id ≤ m.id) : n ∈ s.messagesAfter channel after limit := by
  rw [messagesAfter_eq] at h ⊢
  have hsplit := List.take_append_drop limit.toNat (s.messagesPast channel after)
  have hasc := s.ascending_messagesPast channel after
  rw [← hsplit] at hn hasc
  rcases List.mem_append.mp hn with htaken | hleft
  · exact htaken
  · have hlt := (List.pairwise_append.mp hasc).2.2 m h n hleft
    omega

/-- A fetch that asks for enough messages brings all of them. -/
theorem mem_messagesAfter {channel : String} {after limit : Int} {m : LogEntry}
    (hlimit : s.messages.size ≤ limit.toNat) (hm : m ∈ s.messagesPast channel after) :
    m ∈ s.messagesAfter channel after limit := by
  have hlength : (s.messagesPast channel after).length ≤ limit.toNat := by
    rw [messagesPast, List.length_map]
    refine Nat.le_trans (List.length_filter_le _ _) ?_
    rw [ExtTreeMap.length_toList]
    exact hlimit
  rw [messagesAfter_eq, List.take_of_length_le hlength]
  exact hm

end Store

end SqlCache
