import SqlCache.Proofs.Backend.Clock
import SqlCache.Proofs.Database.Lock
import SqlCache.Proofs.Store.Dictionary

/-!
Tables that clients cannot tell apart. Two stores are alike at a millisecond if they stand for the
same dictionary and have the same maps, messages and cursors; the rows of keys that are gone may
differ, and so may the times at which keys were created. Two databases are alike if their committed
tables and the drafts of their open transactions are. Main result: `Database.bisimulation`, that
whatever a client does, it gets the same answer from databases that are alike, and they stay alike.
-/

set_option autoImplicit false

namespace SqlCache

open Std

/-! ## Stores -/

/-- The same keys are live with the same values and expiries, and all else is the same. -/
structure Store.Alike (ms : Int) (s t : Store) : Prop where
  dictionary : s.dictionary ms = t.dictionary ms
  fields : s.fields = t.fields
  messages : s.messages = t.messages
  cursors : s.cursors = t.cursors
  lastMessageId : s.lastMessageId = t.lastMessageId

namespace Store.Alike

variable {ms : Int} {s t : Store} {now : Instant}

theorem refl (ms : Int) (s : Store) : Alike ms s s := ⟨rfl, rfl, rfl, rfl, rfl⟩

/-- Stores that are alike stay alike while time passes. -/
theorem later {ms' : Int} (hle : ms ≤ ms') (h : Alike ms s t) : Alike ms' s t where
  dictionary := by rw [← present_dictionary s hle, h.dictionary, present_dictionary t hle]
  fields := h.fields
  messages := h.messages
  cursors := h.cursors
  lastMessageId := h.lastMessageId

/-- A key is live in both stores, with the same entry, or in neither. -/
theorem live_cases (h : Alike ms s t) (key : String) :
    (s.live? ms key = none ∧ t.live? ms key = none) ∨
      ∃ row row', s.live? ms key = some row ∧ t.live? ms key = some row' ∧
        row.value = row'.value ∧ row.expireAt = row'.expireAt := by
  have hentry : (s.live? ms key).map ScalarRow.entry = (t.live? ms key).map ScalarRow.entry := by
    rw [← getElem?_dictionary, h.dictionary, getElem?_dictionary]
  cases hs : s.live? ms key with
  | none =>
      rw [hs] at hentry
      exact Or.inl ⟨rfl, Option.map_eq_none_iff.mp hentry.symm⟩
  | some row =>
      rw [hs] at hentry
      obtain ⟨row', ht, hrow⟩ := Option.map_eq_some_iff.mp hentry.symm
      injection hrow with hvalue hexpire
      exact Or.inr ⟨row, row', rfl, ht, hvalue.symm, hexpire.symm⟩

/-- Rows with the same value and expiry are written to a key. -/
theorem insert (h : Alike ms s t) (key : String) {row row' : ScalarRow}
    (hvalue : row.value = row'.value) (hexpire : row.expireAt = row'.expireAt) :
    Alike ms { s with scalars := s.scalars.insert key row }
      { t with scalars := t.scalars.insert key row' } where
  dictionary := by
    have hentry : row.entry = row'.entry := congrArg₂ Dictionary.Entry.mk hvalue hexpire
    rw [dictionary_insert, dictionary_insert, h.dictionary, hentry]
  fields := h.fields
  messages := h.messages
  cursors := h.cursors
  lastMessageId := h.lastMessageId

theorem erase (h : Alike ms s t) (key : String) :
    Alike ms { s with scalars := s.scalars.erase key }
      { t with scalars := t.scalars.erase key } where
  dictionary := by rw [dictionary_erase, dictionary_erase, h.dictionary]
  fields := h.fields
  messages := h.messages
  cursors := h.cursors
  lastMessageId := h.lastMessageId

/-- The same rows are written to the tables other than that of the scalar keys. -/
theorem withTables (h : Alike ms s t) (fields : ExtTreeMap (String × String) FieldRow comparePairs)
    (messages : ExtTreeMap Int MessageRow)
    (cursors : ExtTreeMap (String × String) CursorRow comparePairs) (lastMessageId : Int) :
    Alike ms ⟨s.scalars, fields, messages, cursors, lastMessageId⟩
      ⟨t.scalars, fields, messages, cursors, lastMessageId⟩ where
  dictionary := by
    have hentries := congrArg Dictionary.entries h.dictionary
    exact congrArg (Dictionary.mk · _) hentries
  fields := rfl
  messages := rfl
  cursors := rfl
  lastMessageId := rfl

/-- An operation gets the same answer from stores that are alike. -/
theorem apply (h : Alike now.millis s t) (op : Operation) :
    Agree (Alike now.millis) (s.apply now op) (t.apply now op) := by
  have hfieldsOf (key : String) : s.fieldsOf key = t.fieldsOf key := by
    unfold fieldsOf
    rw [h.fields]
  cases op with
  | set key value ttl => exact ⟨rfl, h.insert key rfl rfl⟩
  | getBytes key =>
      refine ⟨?_, h⟩
      simp only [Store.apply]
      rcases h.live_cases key with ⟨hs, ht⟩ | ⟨row, row', hs, ht, hvalue, -⟩
      · rw [hs, ht]
      · simp only [hs, ht, hvalue]
  | delete key =>
      refine ⟨?_, h.erase key⟩
      simp only [Store.apply, delete]
      rcases h.live_cases key with ⟨hs, ht⟩ | ⟨row, row', hs, ht, -⟩
      · rw [hs, ht]
      · rw [hs, ht]
        rfl
  | count keys =>
      refine ⟨?_, h⟩
      simp only [Store.apply]
      rw [← count_dictionary, ← count_dictionary, h.dictionary]
  | setNx key value ttl =>
      simp only [Store.apply, setNx]
      rcases h.live_cases key with ⟨hs, ht⟩ | ⟨row, row', hs, ht, -⟩
      · rw [hs, ht]
        exact ⟨rfl, h.insert key rfl rfl⟩
      · rw [hs, ht]
        exact ⟨rfl, h⟩
  | expire key ttl =>
      simp only [Store.apply, expire]
      rcases h.live_cases key with ⟨hs, ht⟩ | ⟨row, row', hs, ht, hvalue, -⟩
      · rw [hs, ht]
        exact ⟨rfl, h⟩
      · rw [hs, ht]
        exact ⟨rfl, h.insert key hvalue rfl⟩
  | ttl key =>
      refine ⟨?_, h⟩
      simp only [Store.apply]
      rcases h.live_cases key with ⟨hs, ht⟩ | ⟨row, row', hs, ht, -, hexpire⟩
      · rw [hs, ht]
      · simp only [hs, ht, hexpire]
  | lock key => exact ⟨rfl, h⟩
  | setField key field value =>
      refine ⟨rfl, ?_⟩
      simp only [Store.apply, setField]
      rw [h.fields, h.messages, h.cursors, h.lastMessageId]
      exact h.withTables _ _ _ _
  | getField key field =>
      refine ⟨?_, h⟩
      simp only [Store.apply, field?]
      rw [h.fields]
  | deleteField key field =>
      simp only [Store.apply, deleteField]
      rw [h.fields, h.messages, h.cursors, h.lastMessageId]
      exact ⟨rfl, h.withTables _ _ _ _⟩
  | getFields key =>
      refine ⟨?_, h⟩
      simp only [Store.apply]
      rw [hfieldsOf]
  | scan key cursor pattern count =>
      refine ⟨?_, h⟩
      simp only [Store.apply, scan, matching]
      rw [hfieldsOf]
  | publish channel message =>
      refine ⟨rfl, ?_⟩
      simp only [Store.apply, publish]
      rw [h.fields, h.messages, h.cursors, h.lastMessageId]
      exact h.withTables _ _ _ _

/-- A call on the log gets the same answer from stores that are alike. -/
theorem applyLog (h : Alike ms s t) (now : Instant) (call : PubSub.LogCall) :
    Agree (Alike ms) (s.applyLog now call) (t.applyLog now call) := by
  cases call with
  | attach channel subscriber =>
      simp only [Store.applyLog, attach]
      rw [h.cursors]
      split
      · exact ⟨by rw [h.cursors], h⟩
      · rw [h.fields, h.messages, h.lastMessageId]
        exact ⟨rfl, h.withTables _ _ _ _⟩
  | fetchAfter channel after limit =>
      refine ⟨?_, h⟩
      simp only [Store.applyLog, messagesAfter]
      rw [h.messages]
  | advance channel subscriber id =>
      refine ⟨rfl, ?_⟩
      simp only [Store.applyLog, advance]
      rw [h.cursors]
      split
      · rw [h.fields, h.messages, h.lastMessageId]
        exact h.withTables _ _ _ _
      · exact h
  | detach channel subscriber =>
      refine ⟨rfl, ?_⟩
      simp only [Store.applyLog, detach]
      rw [h.fields, h.messages, h.cursors, h.lastMessageId]
      exact h.withTables _ _ _ _

/-- A purge of the keys that are gone goes unnoticed. -/
theorem purgeExpired (h : Alike ms s t) : Alike ms (s.purgeExpired ms).2 t where
  dictionary := by
    rw [← h.dictionary]
    refine dictionary_eq ?_ rfl
    intro key
    rw [live?_purgeExpired (Int.le_refl ms), getElem?_dictionary]
  fields := h.fields
  messages := h.messages
  cursors := h.cursors
  lastMessageId := h.lastMessageId

end Store.Alike

/-! ## Databases -/

/-- The drafts are alike and have written the same tables. -/
structure Draft.Alike (ms : Int) (d e : Draft) : Prop where
  store : d.store.Alike ms e.store
  touched : d.touched = e.touched

/-- Clients cannot tell the databases apart, inside of a transaction or outside. -/
structure Database.Alike (ms : Int) (d e : Database) : Prop where
  committed : d.committed.Alike ms e.committed
  draft : Option.Rel (Draft.Alike ms) d.draft e.draft
  sharing : d.sharing = e.sharing
  isReadOnly : d.isReadOnly = e.isReadOnly

namespace Database.Alike

variable {ms : Int} {d e : Database} {now : Instant} {α : Type}

theorem refl (ms : Int) (d : Database) : Alike ms d d where
  committed := .refl ms _
  draft := by
    cases d.draft with
    | none => exact .none
    | some draft => exact .some ⟨.refl ms _, rfl⟩
  sharing := rfl
  isReadOnly := rfl

/-- A transaction is open on both databases, with drafts that are alike, or on neither. -/
theorem draft_cases (h : Alike ms d e) :
    (d.draft = none ∧ e.draft = none) ∨
      ∃ s t touched, d.draft = some ⟨s, touched⟩ ∧ e.draft = some ⟨t, touched⟩ ∧
        s.Alike ms t := by
  have hdraft := h.draft
  rcases hd : d.draft with - | ⟨s, touched⟩
  · rw [hd] at hdraft
    cases he : e.draft with
    | none => exact Or.inl ⟨rfl, rfl⟩
    | some draft =>
        rw [he] at hdraft
        cases hdraft
  · rw [hd] at hdraft
    rcases he : e.draft with - | ⟨t, touched'⟩
    · rw [he] at hdraft
      cases hdraft
    · rw [he] at hdraft
      cases hdraft with
      | some halike =>
          obtain rfl : touched = touched' := halike.touched
          exact Or.inr ⟨s, t, touched, rfl, rfl, halike.store⟩

theorem later {ms' : Int} (hle : ms ≤ ms') (h : Alike ms d e) : Alike ms' d e where
  committed := h.committed.later hle
  draft := by
    rcases h.draft_cases with ⟨hd, he⟩ | ⟨s, t, touched, hd, he, hst⟩
    · rw [hd, he]
      exact .none
    · rw [hd, he]
      exact .some ⟨hst.later hle, rfl⟩
  sharing := h.sharing
  isReadOnly := h.isReadOnly

theorem withCommitted (h : Alike ms d e) {s t : Store} (hst : s.Alike ms t) :
    Alike ms { d with committed := s } { e with committed := t } :=
  ⟨hst, h.draft, h.sharing, h.isReadOnly⟩

theorem withDraft (h : Alike ms d e) {s t : Store} (hst : s.Alike ms t)
    (touched : List Store.Table) :
    Alike ms { d with draft := some ⟨s, touched⟩ } { e with draft := some ⟨t, touched⟩ } :=
  ⟨h.committed, .some ⟨hst, rfl⟩, h.sharing, h.isReadOnly⟩

theorem conflict? (h : Alike ms d e) (writes : Bool) (table : Option Store.Table) :
    d.conflict? writes table = e.conflict? writes table := by
  unfold Database.conflict? lockFault sharesPages
  rw [h.sharing]
  rcases h.draft_cases with ⟨hd, he⟩ | ⟨s, t, touched, hd, he, -⟩
  · rw [hd, he]
  · rw [hd, he]

theorem writeFault? (h : Alike ms d e) (writes : Bool) :
    d.writeFault? writes = e.writeFault? writes := by
  unfold Database.writeFault?
  rw [h.isReadOnly]

theorem absence? (h : Alike ms d e) (table : Option Store.Table) :
    d.absence? table = e.absence? table := by
  unfold Database.absence?
  rw [h.sharing]
  rcases h.draft_cases with ⟨hd, he⟩ | ⟨s, t, touched, hd, he, -⟩
  · rw [hd, he]
  · rw [hd, he]

/-- Work on the committed tables that has the same answer on stores that are alike has the same
answer on databases that are. -/
theorem direct (h : Alike ms d e) (writes : Bool) (table : Option Store.Table)
    {work : Store → Result α × Store}
    (hwork : ∀ {s t : Store}, s.Alike ms t → Agree (Store.Alike ms) (work s) (work t)) :
    Agree (Alike ms) (d.direct writes table work) (e.direct writes table work) := by
  unfold Database.direct
  rw [h.writeFault?, h.conflict?]
  cases e.writeFault? writes <|> e.conflict? writes table with
  | some fault => exact ⟨rfl, h⟩
  | none =>
      obtain ⟨hreply, hnext⟩ := hwork h.committed
      exact ⟨hreply, h.withCommitted hnext⟩

theorem apply (h : Alike now.millis d e) (op : Operation) :
    Agree (Alike now.millis) (d.apply now op) (e.apply now op) := by
  unfold Database.apply
  cases op.refusal? with
  | some error => exact ⟨rfl, h⟩
  | none => exact h.direct _ _ fun hst => hst.apply op

theorem applyLog (h : Alike ms d e) (now : Instant) (call : PubSub.LogCall) :
    Agree (Alike ms) (d.applyLog now call) (e.applyLog now call) :=
  h.direct _ _ fun hst => hst.applyLog now call

theorem applyInside (h : Alike now.millis d e) (op : Operation) :
    Agree (Alike now.millis) (d.applyInside now op) (e.applyInside now op) := by
  unfold Database.applyInside
  rw [h.writeFault?, h.absence?]
  cases op.refusal? <|> (e.absence? op.table? <|> e.writeFault? op.isWrite).map .store with
  | some error => exact ⟨rfl, h⟩
  | none =>
      rcases h.draft_cases with ⟨hd, he⟩ | ⟨s, t, touched, hd, he, hst⟩
      · rw [hd, he]
        exact h.apply op
      · rw [hd, he]
        obtain ⟨hreply, hnext⟩ := hst.apply op
        exact ⟨hreply, h.withDraft hnext _⟩

theorem begin (h : Alike ms d e) : Agree (Alike ms) d.begin e.begin := by
  rcases h.draft_cases with ⟨hd, he⟩ | ⟨s, t, touched, hd, he, -⟩
  · by_cases hshared : e.sharing = .nothing
    · have apart : d.Apart := ⟨hd, h.sharing.trans hshared⟩
      rw [apart.begin_eq, Apart.begin_eq ⟨he, hshared⟩]
      exact ⟨rfl, h⟩
    · have hshared' : d.sharing ≠ .nothing := fun hnothing => hshared (h.sharing ▸ hnothing)
      rw [begin_of_draft_eq_none hd hshared', begin_of_draft_eq_none he hshared]
      exact ⟨rfl, h.withDraft h.committed []⟩
  · unfold Database.begin lockFault sharesPages
    rw [hd, he, h.sharing]
    exact ⟨rfl, h⟩

theorem commit (h : Alike ms d e) : Alike ms d.commit e.commit := by
  refine ⟨?_, .none, h.sharing, h.isReadOnly⟩
  unfold Database.commit
  rcases h.draft_cases with ⟨hd, he⟩ | ⟨s, t, touched, hd, he, hst⟩
  · rw [hd, he]
    exact h.committed
  · rw [hd, he]
    exact hst

theorem rollback (h : Alike ms d e) : Alike ms d.rollback e.rollback :=
  ⟨h.committed, .none, h.sharing, h.isReadOnly⟩

/-- A purge of the keys that are gone goes unnoticed. -/
theorem purgeExpired (h : Alike now.millis d e) :
    Alike now.millis (d.applyPurge (.expired now)).2 e := by
  obtain ⟨s, hs, hcases⟩ := d.execute_eq_committed (.purge (.expired now))
  show Alike now.millis (d.execute (.purge (.expired now))).2 e
  rw [hs]
  rcases hcases with rfl | rfl
  · exact h
  · exact ⟨h.committed.purgeExpired, h.draft, h.sharing, h.isReadOnly⟩

end Database.Alike

/-- Databases that are alike answer whatever a client asks alike, and stay alike. -/
theorem Database.bisimulation :
    Bisimulation Database.backend fun now d e => Database.Alike now.millis d e where
  later hle h := h.later (Instant.millis_le_millis hle)
  operate op h := h.apply op
  begin h := by
    obtain ⟨hreply, hnext⟩ := h.begin
    have hmap := congrArg (fun r : Result Unit => r.map fun _ => (⟨true⟩ : Connection)) hreply
    exact ⟨hmap, hnext⟩
  within c op h := h.applyInside op
  commit c h := ⟨rfl, h.commit⟩
  rollback c h := h.rollback

end SqlCache
