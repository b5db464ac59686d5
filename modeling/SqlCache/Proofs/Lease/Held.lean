import SqlCache.Proofs.Database.Lock
import SqlCache.Proofs.Store.Dictionary

/-!
A key as a lease. Whoever writes a key with `setNx` takes it until its deadline: the write succeeds
only while the key is not live, and nothing else writes the key (`Contends`). What the row of the
key then says about the leases that have been granted is `Held`; it is kept by one lemma for each
way in which tables change.
-/

set_option autoImplicit false

namespace SqlCache

/-- A key that has been taken: when, with which value and for how long. -/
structure Lease where
  now : Instant
  value : ByteArray
  ttl : Duration

namespace Lease

/-- The millisecond at which a lease is over. -/
def deadline (lease : Lease) : Int := Dictionary.deadline lease.now lease.ttl

/-- The lease on a key that the answer of an operation grants. -/
def granted (key : String) (now : Instant) : (op : Operation) → op.Reply → Option Lease
  | .setNx other value ttl, .ok true => if other = key then some ⟨now, value, ttl⟩ else none
  | _, _ => none

/-- Has an operation been told that the key is taken? -/
def Refused (key : String) : (op : Operation) → op.Reply → Prop
  | .setNx other _ _, .ok false => other = key
  | _, _ => False

/-- Does an operation write the key at most in order to take it? -/
def Contends (key : String) (op : Operation) : Prop :=
  op.writtenKey? ≠ some key ∨ ∃ value ttl, op = .setNx key value ttl

variable {key : String} {now : Instant} {op : Operation}

theorem granted_of_writtenKey?_ne (h : op.writtenKey? ≠ some key) (reply : op.Reply) :
    granted key now op reply = none := by
  cases op with
  | setNx other value ttl =>
      have hne : other ≠ key := fun heq => h (by simp [Operation.writtenKey?, heq])
      cases reply with
      | error e => rfl
      | ok written => cases written <;> simp [granted, hne]
  | set | getBytes | delete | count | setField | getField | deleteField | getFields | scan | expire
  | ttl | lock | publish => rfl

theorem granted_error (e : CacheError) : granted key now op (.error e) = none := by
  cases op <;> rfl

@[simp] theorem granted_setNx_true (value : ByteArray) (ttl : Duration) :
    granted key now (.setNx key value ttl) (.ok true) = some ⟨now, value, ttl⟩ := by
  simp [granted]

@[simp] theorem granted_setNx_false (value : ByteArray) (ttl : Duration) :
    granted key now (.setNx key value ttl) (.ok false) = none := rfl

/-- An operation that is told that the key is taken leaves the tables as they are. -/
theorem apply_of_refused {s : Store} (h : Refused key op (s.apply now op).1) :
    (s.apply now op).2 = s := by
  cases op with
  | setNx other value ttl =>
      cases hlive : s.live? now.millis other with
      | none => simp [Store.apply, Store.setNx, hlive, Refused] at h
      | some row => simp [Store.apply, Store.setNx, hlive]
  | set | getBytes | delete | count | setField | getField | deleteField | getFields | scan | expire
  | ttl | lock | publish => exact h.elim

/-- What the row of a key says about the leases that have been granted on it, oldest first: until
its deadline a lease is what the row says, and the row is that of the last lease or of before all
of them, when it was dead already at the `start`. -/
structure Held (key : String) (start clock : Int) (leases : List Lease) (s : Store) : Prop where
  stored : ∀ lease ∈ leases, clock < lease.deadline →
    ∃ row, s.scalars[key]? = some row ∧ row.expireAt = lease.deadline
  latest : ∀ row, s.scalars[key]? = some row → row.expireAt ≤ start ∨
    ∃ lease, leases.getLast? = some lease ∧ row.value = lease.value ∧
      row.expireAt = lease.deadline
  inTurn : leases.Pairwise fun a b => a.deadline ≤ b.now.millis

namespace Held

variable {start clock clock' : Int} {leases : List Lease} {s t : Store}

/-- A key that is not live has not been taken. -/
theorem free (h : s.live? start key = none) : Held key start start [] s where
  stored lease hlease := by simp at hlease
  latest row hrow := by
    left
    simpa [Store.live?, hrow, ScalarRow.isLive] using h
  inTurn := .nil

/-- The clock goes on, and other rows change. -/
theorem later (h : Held key start clock leases s) (hclock : clock ≤ clock')
    (hrow : t.scalars[key]? = s.scalars[key]?) : Held key start clock' leases t where
  stored lease hlease hahead := by
    rw [hrow]
    exact h.stored lease hlease (by omega)
  latest := by
    rw [hrow]
    exact h.latest
  inTurn := h.inTurn

/-- While the key is live, its row is that of the last lease. -/
theorem of_live (h : Held key start clock leases s) {ms : Int} (hms : start ≤ ms)
    {row : ScalarRow} (hlive : s.live? ms key = some row) :
    ∃ lease, leases.getLast? = some lease ∧ row.value = lease.value ∧
      row.expireAt = lease.deadline := by
  rw [Store.live?, Option.filter_eq_some_iff, ScalarRow.isLive, decide_eq_true_eq] at hlive
  obtain ⟨hrow, hahead⟩ := hlive
  rcases h.latest row hrow with hdead | hlast
  · omega
  · exact hlast

/-- Before its deadline a lease keeps the key live. -/
theorem live_of_lt (h : Held key start clock leases s) (hclock : clock ≤ clock') {lease : Lease}
    (hlease : lease ∈ leases) (hahead : clock' < lease.deadline) :
    ∃ row, s.live? clock' key = some row ∧ row.expireAt = lease.deadline := by
  obtain ⟨row, hrow, hexpire⟩ := h.stored lease hlease (by omega)
  have hlive : row.isLive clock' = true := by
    rw [ScalarRow.isLive, decide_eq_true_eq]
    omega
  exact ⟨row, by rw [Store.live?, hrow, Option.filter_some, if_pos hlive], hexpire⟩

/-- Where the key is not live, all leases are over. -/
theorem over_of_live?_eq_none (h : Held key start clock leases s) (hclock : clock ≤ clock')
    (hfree : s.live? clock' key = none) : ∀ lease ∈ leases, lease.deadline ≤ clock' := by
  intro lease hlease
  by_contra hahead
  obtain ⟨row, hlive, -⟩ := h.live_of_lt hclock hlease (by omega)
  rw [hfree] at hlive
  cases hlive

/-- A purge removes the row of a key only when the lease is over. -/
theorem purgeExpired (h : Held key start clock leases s) (hclock : clock ≤ clock') :
    Held key start clock' leases (s.purgeExpired clock').2 where
  stored lease hlease hahead := by
    rw [Store.purgeExpired_scalars]
    exact h.live_of_lt hclock hlease hahead
  latest row hrow := by
    rw [Store.purgeExpired_scalars, Store.live?, Option.filter_eq_some_iff] at hrow
    exact h.latest row hrow.1
  inTurn := h.inTurn

/-- Whoever finds the key free takes it. -/
theorem taken (h : Held key start clock leases s) (hclock : clock ≤ now.millis)
    (hnow : now.isRepresentable = true) (hfree : s.live? now.millis key = none)
    (value : ByteArray) (ttl : Duration) :
    Held key start now.millis (leases ++ [⟨now, value, ttl⟩])
      (s.apply now (.setNx key value ttl)).2 := by
  have hover := h.over_of_live?_eq_none hclock hfree
  have hrow : (s.apply now (.setNx key value ttl)).2.scalars[key]? =
      some ⟨value, (now.expiry ttl).millis, now.millis, now.millis⟩ := by
    simp [Store.apply, Store.setNx, hfree]
  have hdeadline : (⟨now, value, ttl⟩ : Lease).deadline = (now.expiry ttl).millis :=
    Store.deadline_eq hnow ttl
  refine ⟨?_, ?_, ?_⟩
  · intro lease hlease hahead
    rcases List.mem_append.mp hlease with hold | hnew
    · have := hover lease hold
      omega
    · rw [List.mem_singleton.mp hnew]
      exact ⟨_, hrow, hdeadline.symm⟩
  · intro row hother
    rw [hrow] at hother
    obtain rfl := Option.some.inj hother
    exact Or.inr ⟨_, List.getLast?_concat, rfl, hdeadline.symm⟩
  · refine List.pairwise_append.mpr ⟨h.inTurn, List.pairwise_singleton _ _, ?_⟩
    intro a ha b hb
    rw [List.mem_singleton.mp hb]
    exact hover a ha

/-- An operation that contends for the key: the key is taken if its answer says so, and otherwise
its row stays. -/
theorem apply (h : Held key start clock leases s) (hclock : clock ≤ now.millis)
    (hnow : now.isRepresentable = true) (contends : Contends key op) :
    Held key start now.millis (leases ++ (granted key now op (s.apply now op).1).toList)
      (s.apply now op).2 := by
  rcases contends with hother | ⟨value, ttl, rfl⟩
  · rw [granted_of_writtenKey?_ne hother, Option.toList_none, List.append_nil]
    exact h.later hclock (Store.apply_scalars_of_writtenKey?_ne hother)
  · cases hlive : s.live? now.millis key with
    | none =>
        have hreply : (s.apply now (.setNx key value ttl)).1 = .ok true := by
          simp [Store.apply, Store.setNx, hlive]
        rw [hreply, granted_setNx_true, Option.toList_some]
        exact h.taken hclock hnow hlive value ttl
    | some row =>
        have hkept : s.apply now (.setNx key value ttl) = (.ok false, s) := by
          simp [Store.apply, Store.setNx, hlive]
        rw [hkept, granted_setNx_false, Option.toList_none, List.append_nil]
        exact h.later hclock rfl

end Held

end Lease

end SqlCache
