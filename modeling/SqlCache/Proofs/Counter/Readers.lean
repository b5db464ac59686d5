import SqlCache.Command
import SqlCache.Proofs.Counter.Increment
import SqlCache.Proofs.Database.Alone
import SqlCache.Proofs.Text.Numeral

/-!
The two readers of a number: the one of a reply (`readAt`) and the one of an increment (`countAt`).
Both read the numbers that texts denote, and what an increment writes is the usual decimal form of
its answer, which both read back. Main result: `readers_agree`. Calls take their readings of the
clock one after the other.
-/

set_option autoImplicit false

namespace SqlCache.Counter

open Std Text.Integer

/-- The integer that a reader is told a key holds. -/
def readAt (d : Database) (clock : Nat → Instant) (key : String) : Result Int :=
  SqlCache.Outcome.int64 ⟨(Command.get key).name,
    (Database.backend.ticking.perform (clock 0) (Command.plan (.get key)) (d, clock)).1⟩

/-- What an increment answers, and the database after it. -/
def countAt (d : Database) (clock : Nat → Instant) (key : String) (delta : Int) :
    Result Int × Database :=
  let done := Database.backend.ticking.perform (clock 0) (Command.plan (.incrBy key delta))
    (d, clock)
  (done.1, done.2.1)

variable {d : Database} {key : String} {clock : Nat → Instant} {row : ScalarRow}
  {row? : Option ScalarRow} {delta value : Int}

/-! ## What a row stands for -/

/-- A row stands for the number that its text denotes, if this fits a counter. -/
theorem valueOf?_eq_some_iff : valueOf? (some row) = some value ↔
    ∃ text : String, row.value = text.toUTF8 ∧ Denotes text value ∧ fits value = true := by
  rw [valueOf?, Option.bind_eq_some_iff]
  constructor
  · rintro ⟨text, htext, hread⟩
    refine ⟨text, ?_, read?_eq_some_iff.mp hread⟩
    unfold String.fromUTF8? at htext
    split at htext
    · rw [← Option.some.inj htext]
      rfl
    · cases htext
  · rintro ⟨text, htext, hread⟩
    rw [htext]
    exact ⟨text, Text.fromUTF8?_toUTF8 text, read?_eq_some_iff.mpr hread⟩

/-- A reader is told the number that a live row stands for. -/
theorem readAt_eq_ok_iff (hidle : d.draft = none)
    (hlive : d.committed.live? (clock 0).millis key = some row) :
    readAt d clock key = .ok value ↔ valueOf? (some row) = some value := by
  have hbytes : (d.apply (clock 0) (.getBytes key)).1 = .ok row.value := by
    rw [Database.apply_of_reading hidle (rfl : (Operation.getBytes key).refusal? = none) rfl]
    simp only [Store.apply, hlive]
  have hget : (Database.backend.ticking.perform (clock 0) (Command.plan (.get key))
      (d, clock)).1 = textOf key row.value := by
    show (d.apply (clock 0) (.getBytes key)).1.bind (textOf key) = _
    rw [hbytes]
    rfl
  rw [readAt, hget, valueOf?, textOf]
  cases String.fromUTF8? row.value with
  | none =>
      constructor
      · intro h
        cases h
      · intro h
        cases h
  | some text =>
      show SqlCache.Outcome.int64 ⟨(Command.get key).name, .ok text⟩ = .ok value ↔
        read? text = some value
      rw [SqlCache.Outcome.int64]
      cases hread : read? text with
      | none =>
          constructor
          · intro h
            simp only [bind, Except.bind, hread] at h
            cases h
          · intro h
            cases h
      | some n =>
          simp only [bind, Except.bind, hread, Option.some.injEq]
          exact ⟨Except.ok.inj, congrArg Except.ok⟩

/-! ## An increment on tables of its own -/

section Attend

variable {s : Store}

theorem run_body_attend (key : String) (delta : Int) (s : Store) (clock : Nat → Instant) :
    (body key delta).run.run Store.attend (s, clock) =
      (found key delta (s.apply (clock 1) (.getBytes key)).1).run Store.attend
        (s, fun n => clock (n + 2)) := by
  rw [body_run]
  rfl

/-- A number that is known is added to, and the sum is written if it fits. -/
theorem run_adding_attend (remaining : Option Duration) :
    (adding key delta value remaining).run Store.attend (s, clock) =
      if fits (value + delta) then
        (.ok (value + delta), s.set (clock 0).millis
          ((clock 0).expiry (Duration.retained remaining)).millis key
          (encode (value + delta)).toUTF8, fun n => clock (n + 1))
      else (.error (.validation (.overflow key)), s, clock) := by
  unfold adding
  split
  · rfl
  · rfl

/-- An increment of a key that is live throughout, or absent throughout, adds to the number that it
stands for. -/
theorem run_body_of_value (delta : Int) (steady : ∀ i, s.live? (clock i).millis key = row?)
    (hvalue : valueOf? row? = some value) : ∃ remaining later,
      (body key delta).run.run Store.attend (s, clock) =
        (adding key delta value remaining).run Store.attend (s, later) := by
  rw [run_body_attend]
  cases row? with
  | none =>
      have hbytes : (s.apply (clock 1) (.getBytes key)).1 = .error .notFound := by
        simp only [Store.apply, steady 1]
      rw [hbytes]
      obtain rfl : 0 = value := Option.some.inj hvalue
      exact ⟨none, _, rfl⟩
  | some row =>
      have hbytes : (s.apply (clock 1) (.getBytes key)).1 = .ok row.value := by
        simp only [Store.apply, steady 1]
      rw [hbytes]
      have hcount : countOf? (.ok row.value) = some value := hvalue
      rcases found_cases key delta (.ok row.value) with ⟨habsent, -⟩ |
        ⟨bytes, other, -, hother, hfound⟩ | ⟨e, -, herror, -⟩ | ⟨hnone, -⟩
      · cases habsent
      · rw [hcount] at hother
        cases hother
        have httl : (s.apply (clock 2) (.ttl key)).1 =
            .ok ((clock 2).remaining (.ofMillis row.expireAt)) := by
          simp only [Store.apply, steady 2]
        refine ⟨(clock 2).remaining (.ofMillis row.expireAt), fun n => clock (n + 3), ?_⟩
        rw [hfound, Dialogue.run_ask, Store.attend_of_accepted rfl, httl]
        rfl
      · cases herror
      · rw [hcount] at hnone
        cases hnone

/-- An increment of a key that stands for no number is refused. -/
theorem run_body_of_no_value (delta : Int) (steady : ∀ i, s.live? (clock i).millis key = row?)
    (hvalue : valueOf? row? = none) : ∃ fault later,
      (body key delta).run.run Store.attend (s, clock) =
        (.error (.validation fault), s, later) := by
  rw [run_body_attend]
  cases row? with
  | none => cases hvalue
  | some row =>
      have hbytes : (s.apply (clock 1) (.getBytes key)).1 = .ok row.value := by
        simp only [Store.apply, steady 1]
      rw [hbytes]
      have hcount : countOf? (.ok row.value) = none := hvalue
      rcases found_cases key delta (.ok row.value) with ⟨habsent, -⟩ |
        ⟨bytes, other, -, hother, -⟩ | ⟨e, -, herror, -⟩ | ⟨-, fault, hfound⟩
      · cases habsent
      · rw [hcount] at hother
        cases hother
      · cases herror
      · refine ⟨fault, fun n => clock (n + 2), ?_⟩
        rw [hfound]
        rfl

end Attend

/-! ## An increment that nobody stands in the way of -/

section Alone

/-- What an increment comes to by what its body makes of the committed tables. -/
theorem countAt_eq (hidle : d.draft = none) (hshared : d.sharing ≠ .nothing)
    (hwritable : d.isReadOnly = false) :
    countAt d clock key delta =
      match (body key delta).run.run Store.attend (d.committed, clock) with
      | (.ok value, s, _) => (.ok value, { d with committed := s })
      | (.error e, _, _) => (.error e, d) := by
  have hdone : Database.backend.ticking.perform (clock 0) (Command.plan (.incrBy key delta))
      (d, clock) = Database.backend.ticking.transaction (clock 0) (body key delta) (d, clock) := rfl
  rw [countAt, hdone, Database.ticking_transaction_alone hidle hshared hwritable]
  rcases (body key delta).run.run Store.attend (d.committed, clock) with ⟨r, s, later⟩
  cases r with
  | ok value => rfl
  | error e => rfl

/-- An increment of a key that stands for a number answers the sum and has written it in its usual
form, if it fits, and is refused otherwise. -/
theorem countAt_of_value (delta : Int) (hidle : d.draft = none) (hshared : d.sharing ≠ .nothing)
    (hwritable : d.isReadOnly = false)
    (steady : ∀ i, d.committed.live? (clock i).millis key = row?)
    (hvalue : valueOf? row? = some value) :
    (fits (value + delta) = true → ∃ row, row.value = (toString (value + delta)).toUTF8 ∧
      countAt d clock key delta = (.ok (value + delta), d.withRow key row)) ∧
    (fits (value + delta) = false →
      countAt d clock key delta = (.error (.validation (.overflow key)), d)) := by
  obtain ⟨remaining, later, hrun⟩ := run_body_of_value delta steady hvalue
  rw [countAt_eq hidle hshared hwritable, hrun, run_adding_attend]
  constructor
  · intro hfits
    rw [if_pos hfits]
    refine ⟨_, ?_, rfl⟩
    rw [← encode_eq_toString]
  · intro hout
    rw [if_neg (by simp [hout])]

theorem countAt_of_no_value (delta : Int) (hidle : d.draft = none) (hshared : d.sharing ≠ .nothing)
    (hwritable : d.isReadOnly = false)
    (steady : ∀ i, d.committed.live? (clock i).millis key = row?) (hvalue : valueOf? row? = none) :
    ∃ fault, countAt d clock key delta = (.error (.validation fault), d) := by
  obtain ⟨fault, later, hrun⟩ := run_body_of_no_value delta steady hvalue
  refine ⟨fault, ?_⟩
  rw [countAt_eq hidle hshared hwritable, hrun]

end Alone

/-! ## What an increment that succeeds has done -/

section Succeeds

variable {σ : Type} {handle : (op : Operation) → σ → op.Reply × σ} {holds : σ → Prop} {s : σ}

/-- The end of an increment that succeeds is the writing of its answer. -/
theorem set_of_run_adding_eq_ok {before : Int} {remaining : Option Duration}
    (hok : ((adding key delta before remaining).run handle s).1 = .ok value) :
    fits value = true ∧ ∃ ttl, (handle (.set key (encode value).toUTF8 ttl) s).1 = .ok () ∧
      ((adding key delta before remaining).run handle s).2 =
        (handle (.set key (encode value).toUTF8 ttl) s).2 := by
  unfold adding at hok ⊢
  split at hok
  · next hfits =>
      rw [if_pos hfits]
      rw [Dialogue.run_ask] at hok ⊢
      cases hset : (handle (.set key (encode (before + delta)).toUTF8
          (Duration.retained remaining)) s).1 with
      | error e =>
          rw [hset] at hok
          cases hok
      | ok u =>
          rw [hset] at hok
          obtain rfl := Except.ok.inj hok
          exact ⟨hfits, _, hset, rfl⟩
  · cases hok

/-- Whoever answers its requests: an increment that succeeds has only read until at last it writes
its answer. -/
theorem set_of_run_body_eq_ok
    (keeps : ∀ (op : Operation) s, op.isWrite = false → holds s → holds (handle op s).2)
    (hs : holds s)
    (hok : ((body key delta).run.run handle s).1 = .ok value) :
    fits value = true ∧ ∃ last ttl, holds last ∧
      (handle (.set key (encode value).toUTF8 ttl) last).1 = .ok () ∧
      ((body key delta).run.run handle s).2 =
        (handle (.set key (encode value).toUTF8 ttl) last).2 := by
  rw [body_run, Dialogue.run_ask] at hok ⊢
  have hlocked := keeps (.lock key) s rfl hs
  revert hok hlocked
  rcases handle (.lock key) s with ⟨r, s₁⟩
  cases r with
  | error e =>
      intro hok
      cases hok
  | ok u =>
      intro hok hlocked
      simp only [locked, Dialogue.run_ask] at hok ⊢
      have hread := keeps (.getBytes key) s₁ rfl hlocked
      revert hok hread
      rcases handle (.getBytes key) s₁ with ⟨r, s₂⟩
      intro hok hread
      rcases found_cases key delta r with ⟨-, hfound⟩ | ⟨bytes, before, -, -, hfound⟩ |
        ⟨e, -, -, hfound⟩ | ⟨-, fault, hfound⟩
      · simp only [hfound] at hok ⊢
        obtain ⟨hfits, ttl, hset, hend⟩ := set_of_run_adding_eq_ok hok
        exact ⟨hfits, s₂, ttl, hread, hset, hend⟩
      · simp only [hfound, Dialogue.run_ask] at hok ⊢
        have hmeasured := keeps (.ttl key) s₂ rfl hread
        revert hok hmeasured
        rcases handle (.ttl key) s₂ with ⟨r, s₃⟩
        cases r with
        | error e =>
            intro hok
            cases hok
        | ok remaining =>
            intro hok hmeasured
            obtain ⟨hfits, ttl, hset, hend⟩ := set_of_run_adding_eq_ok hok
            exact ⟨hfits, s₃, ttl, hmeasured, hset, hend⟩
      · simp only [hfound] at hok
        cases hok
      · simp only [hfound] at hok
        cases hok

end Succeeds

/-- A transaction that succeeds has a body that has succeeded. -/
theorem eq_ok_of_finish_eq_ok {σ α : Type} {b : Backend σ} {c : Connection} {r : Result α} {s : σ}
    {a : α} (h : (b.finish c r s).1 = .ok a) : r = .ok a := by
  cases r with
  | error e => cases h
  | ok a' =>
      unfold Backend.finish at h
      revert h
      rcases b.commit c s with ⟨committed, s'⟩
      cases committed with
      | error e =>
          intro h
          cases h
      | ok u => exact id

/-- An increment succeeds only where no other transaction is open, on a database that its
connections share and that can be written to. -/
theorem alone_of_countAt_eq_ok (hok : (countAt d clock key delta).1 = .ok value) :
    d.draft = none ∧ d.sharing ≠ .nothing ∧ d.isReadOnly = false := by
  have htransaction : (Database.backend.ticking.transaction (clock 0) (body key delta)
      (d, clock)).1 = .ok value := hok
  have hstart : Database.backend.begin d =
      (d.begin.1.map fun _ => (⟨true⟩ : Connection), d.begin.2) := rfl
  rw [Backend.ticking_transaction, hstart] at htransaction
  cases hbegin : d.begin with
  | mk r begun =>
      rw [hbegin] at htransaction
      cases r with
      | error e => cases htransaction
      | ok u =>
          rcases Database.of_begin_ok hbegin with ⟨hidle, hshared, hbegun⟩ | ⟨apart, -⟩
          · refine ⟨hidle, hshared, ?_⟩
            let holds (t : Database × (Nat → Instant)) : Prop :=
              ∃ draft, t.1 = { d with draft := some draft }
            have keeps (op : Operation) (t : Database × (Nat → Instant)) (_ : op.isWrite = false)
                (ht : holds t) :
                holds (Database.backend.ticking.within (clock 0) ⟨true⟩ op t).2 := by
              obtain ⟨draft, hdraft⟩ := ht
              obtain ⟨draft', hafter, -⟩ := Database.applyInside_eq_draft
                (d := { d with draft := some draft }) rfl (t.2 0) op
              refine ⟨draft', ?_⟩
              show (t.1.applyInside (t.2 0) op).2 = _
              rw [hdraft, hafter]
            have hran : ((body key delta).run.run (Database.backend.ticking.within (clock 0) ⟨true⟩)
                (begun, clock)).1 = .ok value := eq_ok_of_finish_eq_ok htransaction
            obtain ⟨-, last, ttl, ⟨draft, hlast⟩, hset, -⟩ :=
              set_of_run_body_eq_ok keeps ⟨_, hbegun⟩ hran
            have htold : (last.1.applyInside (last.2 0)
                (.set key (encode value).toUTF8 ttl)).1 = .ok () := hset
            rw [hlast] at htold
            exact (Database.of_applyInside_eq_ok rfl htold).2.1
          · have hfails : (Database.backend.ticking.transaction (clock 0) (body key delta)
                (d, clock)).1 = .ok value := hok
            rw [apart.ticking_transaction_eq, run_body_attendApart] at hfails
            cases hfails

/-- An increment that succeeds has written its answer in its usual form. -/
theorem written_of_countAt_eq_ok (hok : (countAt d clock key delta).1 = .ok value) :
    fits value = true ∧ ∃ row, row.value = (toString value).toUTF8 ∧
      (countAt d clock key delta).2 = d.withRow key row := by
  obtain ⟨hidle, hshared, hwritable⟩ := alone_of_countAt_eq_ok hok
  have keeps (op : Operation) (t : Store × (Nat → Instant)) (hread : op.isWrite = false)
      (ht : t.1 = d.committed) : (Store.attend op t).2.1 = d.committed := by
    unfold Store.attend
    cases op.refusal? with
    | some e => exact ht
    | none => exact (Store.apply_of_isWrite_eq_false hread).trans ht
  have hwrites
      (hran : ((body key delta).run.run Store.attend (d.committed, clock)).1 = .ok value) :=
    set_of_run_body_eq_ok keeps rfl hran
  rw [countAt_eq hidle hshared hwritable] at hok ⊢
  revert hok hwrites
  rcases (body key delta).run.run Store.attend (d.committed, clock) with ⟨r, s, later⟩
  cases r with
  | error e =>
      intro hok
      cases hok
  | ok answer =>
      intro hok hwrites
      obtain ⟨hfits, ⟨before, rest⟩, ttl, hbefore, -, hend⟩ := hwrites hok
      have hbefore' : before = d.committed := hbefore
      rw [Store.attend_of_accepted rfl, hbefore'] at hend
      obtain rfl := congrArg Prod.fst hend
      refine ⟨hfits, _, ?_, rfl⟩
      rw [← encode_eq_toString]

/-! ## Reading back and counting on -/

theorem live?_withRow (d : Database) (key : String) {row : ScalarRow} {ms : Int}
    (hlive : row.isLive ms = true) : (d.withRow key row).committed.live? ms key = some row := by
  simp [Database.withRow, Store.live?, hlive]

/-- A row that an increment has written stands for its answer. -/
theorem valueOf?_toString (hfits : fits value = true)
    (htext : row.value = (toString value).toUTF8) : valueOf? (some row) = some value := by
  rw [← encode_eq_toString] at htext
  exact valueOf?_encode hfits htext

/-- An increment by nothing answers the number that a live row stands for. -/
theorem countAt_zero_eq_ok_iff (hidle : d.draft = none) (hshared : d.sharing ≠ .nothing)
    (hwritable : d.isReadOnly = false)
    (steady : ∀ i, d.committed.live? (clock i).millis key = some row) :
    (countAt d clock key 0).1 = .ok value ↔ valueOf? (some row) = some value := by
  cases hvalue : valueOf? (some row) with
  | none =>
      obtain ⟨fault, hcount⟩ := countAt_of_no_value 0 hidle hshared hwritable steady hvalue
      rw [hcount]
      simp
  | some n =>
      obtain ⟨text, -, -, hfits⟩ := valueOf?_eq_some_iff.mp hvalue
      rw [← Int.add_zero n] at hfits
      obtain ⟨row', -, hcount⟩ :=
        (countAt_of_value 0 hidle hshared hwritable steady hvalue).1 hfits
      rw [hcount, Int.add_zero]
      simp

/-- While a counter that has been written is live, it is read back and counted on from. -/
theorem readAt_and_countAt_withRow (hidle : d.draft = none) (hshared : d.sharing ≠ .nothing)
    (hwritable : d.isReadOnly = false) (hfits : fits value = true)
    (htext : row.value = (toString value).toUTF8)
    (hlive : ∀ i, row.isLive (clock i).millis = true) :
    readAt (d.withRow key row) clock key = .ok value ∧
      ∀ more, (countAt (d.withRow key row) clock key more).1 =
        if fits (value + more) then .ok (value + more)
        else .error (.validation (.overflow key)) := by
  have hvalue := valueOf?_toString hfits htext
  have hfirst := live?_withRow d key (hlive 0)
  refine ⟨(readAt_eq_ok_iff (d := d.withRow key row) hidle hfirst).mpr hvalue, ?_⟩
  intro more
  obtain ⟨hcounts, hrefused⟩ := countAt_of_value (d := d.withRow key row) more hidle hshared
    hwritable (fun i => live?_withRow d key (hlive i)) hvalue
  cases hsum : fits (value + more) with
  | true =>
      obtain ⟨row', -, hcount⟩ := hcounts hsum
      rw [hcount]
      rfl
  | false =>
      rw [hrefused hsum]
      rfl

/-- The two readers of a number and the writer of it fit together.

While a key is live, a reader of its reply is told a number exactly if an increment by nothing,
where nobody else writes, answers this number, namely if the bytes under the key are the text of a
numeral that fits a counter, with nothing but white space around it. Whatever an increment does, if
it succeeds it leaves the usual decimal form of its answer, which is read back and counted on from
as long as the key is live. And two increments come to what their sum comes to at once, unless a sum
on the way does not fit. -/
theorem readers_agree (key : String) :
    (∀ (d : Database) (row : ScalarRow) (reading counting : Nat → Instant) (value : Int),
      d.draft = none → d.sharing ≠ .nothing → d.isReadOnly = false →
      d.committed.live? (reading 0).millis key = some row →
      (∀ i, d.committed.live? (counting i).millis key = some row) →
      (readAt d reading key = .ok value ↔ (countAt d counting key 0).1 = .ok value) ∧
      (readAt d reading key = .ok value ↔
        ∃ text : String, row.value = text.toUTF8 ∧ Denotes text value ∧ fits value = true)) ∧
    (∀ (d : Database) (clock : Nat → Instant) (delta value : Int),
      (countAt d clock key delta).1 = .ok value →
      fits value = true ∧ ∃ row, row.value = (toString value).toUTF8 ∧
        (countAt d clock key delta).2 = d.withRow key row ∧
        ∀ later : Nat → Instant, (∀ i, row.isLive (later i).millis = true) →
          readAt (d.withRow key row) later key = .ok value ∧
          ∀ more, (countAt (d.withRow key row) later key more).1 =
            if fits (value + more) then .ok (value + more)
            else .error (.validation (.overflow key))) ∧
    (∀ (d : Database) (row? : Option ScalarRow) (first second whole : Nat → Instant)
      (before a b : Int),
      d.draft = none → d.sharing ≠ .nothing → d.isReadOnly = false →
      (∀ i, d.committed.live? (first i).millis key = row?) →
      (∀ i, d.committed.live? (whole i).millis key = row?) →
      valueOf? row? = some before →
      fits (before + a) = true → fits (before + a + b) = true →
      let once := countAt d first key a
      let twice := countAt once.2 second key b
      let together := countAt d whole key (a + b)
      (∀ i, (once.2.committed.live? (second i).millis key).isSome = true) →
      once.1 = .ok (before + a) ∧ twice.1 = .ok (before + a + b) ∧
        together.1 = .ok (before + a + b) ∧
        ∃ left right, twice.2.committed.scalars[key]? = some left ∧
          together.2.committed.scalars[key]? = some right ∧ left.value = right.value) := by
  refine ⟨?_, ?_, ?_⟩
  · intro d row reading counting value hidle hshared hwritable hread hcount
    have hreads : readAt d reading key = .ok value ↔ valueOf? (some row) = some value :=
      readAt_eq_ok_iff hidle hread
    refine ⟨?_, hreads.trans valueOf?_eq_some_iff⟩
    exact hreads.trans (countAt_zero_eq_ok_iff hidle hshared hwritable hcount).symm
  · intro d clock delta value hok
    obtain ⟨hidle, hshared, hwritable⟩ := alone_of_countAt_eq_ok hok
    obtain ⟨hfits, row, htext, hafter⟩ := written_of_countAt_eq_ok hok
    refine ⟨hfits, row, htext, hafter, ?_⟩
    intro later hlive
    exact readAt_and_countAt_withRow hidle hshared hwritable hfits htext hlive
  · intro d row? first second whole before a b hidle hshared hwritable hfirst hwhole hbefore hone
      hboth once twice together hlive
    obtain ⟨row, htext, honce⟩ := (countAt_of_value a hidle hshared hwritable hfirst hbefore).1 hone
    have hsum : before + (a + b) = before + a + b := (Int.add_assoc before a b).symm
    rw [← hsum] at hboth
    obtain ⟨right, hright, htogether⟩ :=
      (countAt_of_value (a + b) hidle hshared hwritable hwhole hbefore).1 hboth
    rw [hsum] at hboth hright htogether
    -- what the first increment has written is what the second one counts on from
    have honce' : once = (.ok (before + a), d.withRow key row) := honce
    have hsecond : ∀ i, (d.withRow key row).committed.live? (second i).millis key = some row := by
      intro i
      have hsome := hlive i
      rw [honce'] at hsome
      rw [Store.live?_eq_scalars hsome]
      exact ExtTreeMap.getElem?_insert_self
    obtain ⟨left, hleft, htwice⟩ := (countAt_of_value (d := d.withRow key row) b hidle hshared
      hwritable hsecond (valueOf?_toString hone htext)).1 hboth
    have htwice' : twice = (.ok (before + a + b), (d.withRow key row).withRow key left) := by
      show countAt once.2 second key b = _
      rw [honce']
      exact htwice
    have htogether' : together = (.ok (before + a + b), d.withRow key right) := htogether
    refine ⟨by rw [honce'], by rw [htwice'], by rw [htogether'], left, right, ?_, ?_, ?_⟩
    · rw [htwice']
      exact ExtTreeMap.getElem?_insert_self
    · rw [htogether']
      exact ExtTreeMap.getElem?_insert_self
    · rw [hleft, hright]

/-- The least counter, written with white space around it, is read by both, and counted on from with
a clock that moves. -/
theorem readers_agree_least :
    let row : ScalarRow := ⟨"\u00a0-9223372036854775808\n".toUTF8, 100, 0, 0⟩
    let d := (Database.empty .file).withRow "n" row
    let clock (i : Nat) : Instant := ⟨1000000 * (min i 7 : Nat)⟩
    readAt d clock "n" = .ok least ∧ (countAt d clock "n" 0).1 = .ok least ∧
      (∃ row', row'.value = "-9223372036854775808".toUTF8 ∧
        (countAt d clock "n" 0).2 = d.withRow "n" row') ∧
      (countAt (countAt d clock "n" 3).2 clock "n" 4).1 = (countAt d clock "n" 7).1 := by
  intro row d clock
  obtain ⟨hreads, hwrites, hsums⟩ := readers_agree "n"
  have hearly : ∀ i, (clock i).millis < 8 := by
    intro i
    show (1000000 * ((min i 7 : Nat) : Int)) / 1000000 < 8
    omega
  have hlive : ∀ i, d.committed.live? (clock i).millis "n" = some row := by
    intro i
    refine live?_withRow _ "n" (decide_eq_true ?_)
    have h := hearly i
    show (clock i).millis < 100
    omega
  have hvalue : valueOf? (some row) = some least := by decide +kernel
  obtain ⟨hagree, hdenotes⟩ :=
    hreads d row clock clock least rfl (by decide) rfl (hlive 0) hlive
  have hread : readAt d clock "n" = .ok least := hdenotes.mpr (valueOf?_eq_some_iff.mp hvalue)
  have hcount := hagree.mp hread
  obtain ⟨-, row', htext, hafter, -⟩ := hwrites d clock 0 least hcount
  have hbetween : ((countAt d clock "n" 3).2.committed.scalars["n"]?).map ScalarRow.expireAt =
      some 101 := by
    decide +kernel
  obtain ⟨-, htwice, htogether, -⟩ := hsums d (some row) clock clock clock least 3 4 rfl (by decide)
    rfl hlive hlive hvalue (by decide) (by decide) (by
      intro i
      obtain ⟨found, hfound, hexpire⟩ := Option.map_eq_some_iff.mp hbetween
      have h := hearly i
      have hahead : found.isLive (clock i).millis = true := decide_eq_true (by omega)
      rw [Store.live?, hfound, Option.filter_some, if_pos hahead]
      rfl)
  refine ⟨hread, hcount, ⟨row', ?_, hafter⟩, htwice.trans htogether.symm⟩
  rw [htext]
  rfl

end SqlCache.Counter
