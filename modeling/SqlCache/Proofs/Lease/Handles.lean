import SqlCache.Proofs.Handles.Basic
import SqlCache.Proofs.Lease.Held

/-!
Several handles that contend for one key, in any order with reads, with passes of a reaper and with
whatever is done to other keys, also in transactions. A lease is granted only when the one before it
is over; whoever is refused changes nothing; and what a live key holds is the last lease. Main
result: `exclusive`.

A transaction that is rolled back takes its leases with it, so these are kept apart from those that
stand (`Grants`). While a transaction is open nobody else is granted anything.
-/

set_option autoImplicit false

namespace SqlCache.Lease

open Handles

variable {τ α : Type}

/-- Does a move leave the writing of a key to those that contend for it? -/
def Among (key : String) : Event τ α → Prop
  | .statement _ (.operate _ op) _ | .within _ _ _ op _ => Contends key op
  | _ => True

/-- The lease on a key that a move grants. -/
def grantedBy (key : String) : Event τ α → Option Lease
  | .statement _ (.operate now op) reply | .within _ _ now op reply => granted key now op reply
  | _ => none

/-- Is somebody told by a move that the key is taken? -/
def RefusedBy (key : String) : Event τ α → Prop
  | .statement _ (.operate _ op) reply | .within _ _ _ op reply => Refused key op reply
  | _ => False

/-- The leases on a key that have been granted, each list in the order of the grants. -/
structure Grants where
  /-- Outside of transactions, or in one that has been committed. -/
  kept : List Lease
  /-- In the transaction that is open. -/
  pending : List Lease
  /-- In transactions that have been rolled back. -/
  undone : List Lease

namespace Grants

/-- Nothing has been granted. -/
def none : Grants := ⟨[], [], []⟩

/-- The leases that stand, for whoever is in the open transaction. -/
def standing (g : Grants) : List Lease := g.kept ++ g.pending

/-- The leases after a move. -/
def after (key : String) (g : Grants) : Event τ α → Grants
  | .statement _ (.operate now op) reply =>
    { g with kept := g.kept ++ (granted key now op reply).toList }
  | .within _ _ now op reply =>
    { g with pending := g.pending ++ (granted key now op reply).toList }
  | .finish _ _ (.ok _) => ⟨g.kept ++ g.pending, [], g.undone⟩
  | .finish _ _ (.error _) => ⟨g.kept, [], g.undone ++ g.pending⟩
  | _ => g

end Grants

/-- The leases on a key that the moves grant. -/
def grants (key : String) (events : List (Event τ α)) : Grants :=
  events.foldl (Grants.after key) .none

/-- A move reads the clock at most once. -/
theorem readings_cases (e : Event τ α) : e.readings = [] ∨ ∃ now, e.readings = [now] := by
  cases e with
  | statement h q reply =>
      cases q with
      | operate now op => exact Or.inr ⟨now, rfl⟩
      | log now call => exact Or.inr ⟨now, rfl⟩
      | purge call =>
          cases call with
          | expired now => exact Or.inr ⟨now, rfl⟩
          | messages olderThan => exact Or.inl rfl
  | within h task now op reply => exact Or.inr ⟨now, rfl⟩
  | begin | nested | finish => exact Or.inl rfl

/-! ## The leases at a moment -/

/-- The committed tables hold the leases that are kept, and the draft of the open transaction holds
all that stand. `past` are the leases that have been granted so far. -/
structure Guarded (key : String) (start clock : Int) (past : List Lease) (g : Grants)
    (s : Handles τ α) : Prop where
  oneWriter : OneWriter s
  committed : Held key start clock g.kept s.database.committed
  draft : ∀ draft, s.database.draft = some draft → Held key start clock g.standing draft.store
  idle : s.database.draft = none → g.pending = []
  complete : g.undone = [] → g.standing = past

namespace Guarded

variable {body : τ → Body α} {key : String} {start clock clock' : Int} {past : List Lease}
  {g : Grants} {s t : Handles τ α}

/-- The clock goes on. -/
theorem later (guarded : Guarded key start clock past g s) (hclock : clock ≤ clock') :
    Guarded key start clock' past g s where
  oneWriter := guarded.oneWriter
  committed := guarded.committed.later hclock rfl
  draft draft hd := (guarded.draft draft hd).later hclock rfl
  idle := guarded.idle
  complete := guarded.complete

/-- The committed tables change while no transaction is open, and grant what they grant. -/
theorem withCommitted (guarded : Guarded key start clock past g s)
    (hidle : s.database.draft = none) {leases : List Lease} {store : Store}
    (held : Held key start clock' (g.kept ++ leases) store) :
    Guarded key start clock' (past ++ leases) { g with kept := g.kept ++ leases }
      ⟨{ s.database with committed := store }, s.running⟩ where
  oneWriter := guarded.oneWriter.of_database fun {draft} hd => ⟨draft, hd⟩
  committed := held
  draft draft hd := by
    have hopen : s.database.draft = some draft := hd
    rw [hidle] at hopen
    cases hopen
  idle _ := guarded.idle hidle
  complete hundone := by
    have hstanding := guarded.complete hundone
    simp only [Grants.standing, guarded.idle hidle, List.append_nil] at hstanding ⊢
    rw [hstanding]

/-- A statement that has nothing to do with the key. -/
theorem elsewhere {h : Nat} {q : Statement} {reply : q.Reply}
    (guarded : Guarded key start clock past g s) (hclock : clock ≤ clock')
    (held : s.database.draft = none →
      Held key start clock' g.kept (q.effect s.database.committed))
    (step : Step body s (.statement h q reply) t) : Guarded key start clock' past g t := by
  rcases step.statement_spec with rfl | ⟨hidle, rfl⟩
  · exact guarded.later hclock
  · have hnone : Held key start clock' (g.kept ++ []) (q.effect s.database.committed) := by
      rw [List.append_nil]
      exact held hidle
    simpa using guarded.withCommitted hidle hnone

/-- A statement is granted the lease that its answer grants. -/
theorem statement {h : Nat} {q : Statement} {reply : q.Reply}
    (guarded : Guarded key start clock past g s) (hclock : clock ≤ clock')
    (hread : ∀ now ∈ (Event.statement h q reply : Event τ α).readings,
      now.millis = clock' ∧ now.isRepresentable = true)
    (among : Among key (Event.statement h q reply : Event τ α))
    (step : Step body s (.statement h q reply) t) :
    Guarded key start clock'
      (past ++ (grantedBy key (Event.statement h q reply : Event τ α)).toList)
      (g.after key (Event.statement h q reply : Event τ α)) t := by
  cases q with
  | operate now op =>
      obtain ⟨rfl, hnow⟩ := hread now (by simp [Event.readings])
      have held := guarded.committed.apply hclock hnow among
      rcases s.database.apply_cases now op with ⟨e, hfails⟩ | ⟨hidle, hworks⟩
      · cases step with
        | statement answers =>
            cases hfails.symm.trans answers
            simpa [grantedBy, Grants.after, granted_error] using guarded.later hclock
      · cases step with
        | statement answers =>
            cases hworks.symm.trans answers
            cases hwrite : op.isWrite with
            | true => exact guarded.withCommitted (hidle hwrite) held
            | false =>
                have hread : op.writtenKey? ≠ some key := by
                  rw [op.writtenKey?_of_isWrite_eq_false hwrite]
                  simp
                rw [Store.apply_of_isWrite_eq_false hwrite]
                simpa [grantedBy, Grants.after, granted_of_writtenKey?_ne hread] using
                  guarded.later hclock
  | log now call =>
      obtain ⟨rfl, -⟩ := hread now (by simp [Event.readings])
      have hscalars : (s.database.committed.applyLog now call).2.scalars[key]? =
          s.database.committed.scalars[key]? := by rw [Store.applyLog_scalars]
      simpa [grantedBy, Grants.after] using guarded.elsewhere (q := .log now call) hclock
        (fun _ => guarded.committed.later hclock hscalars) step
  | purge call =>
      cases call with
      | expired now =>
          obtain ⟨rfl, -⟩ := hread now (by simp [Event.readings])
          simpa [grantedBy, Grants.after] using guarded.elsewhere (q := .purge (.expired now))
            hclock (fun _ => guarded.committed.purgeExpired hclock) step
      | messages olderThan =>
          simpa [grantedBy, Grants.after] using
            guarded.elsewhere (q := .purge (.messages olderThan)) hclock
              (fun _ => guarded.committed.later hclock rfl) step

/-- A transaction begins with the leases that are kept. -/
theorem begun {h : Nat} {task : τ} (guarded : Guarded key start clock past g s)
    (step : Step body s (.begin h task (.ok ())) t) : Guarded key start clock past g t := by
  obtain ⟨hidle, hdatabase, -⟩ := step.begun_spec
  refine ⟨guarded.oneWriter.step step, ?_, ?_, ?_, guarded.complete⟩
  · rw [hdatabase]
    exact guarded.committed
  · intro draft hd
    rw [hdatabase] at hd
    obtain rfl := Option.some.inj hd
    rw [Grants.standing, guarded.idle hidle, List.append_nil]
    exact guarded.committed
  · intro hd
    rw [hdatabase] at hd
    cases hd

/-- An operation of a transaction is granted the lease that its answer grants. -/
theorem within {h : Nat} {task : τ} {now : Instant} {op : Operation} {reply : op.Reply}
    (guarded : Guarded key start clock past g s) (hclock : clock ≤ now.millis)
    (hnow : now.isRepresentable = true) (among : Contends key op)
    (step : Step body s (.within h task now op reply) t) :
    Guarded key start now.millis (past ++ (granted key now op reply).toList)
      (g.after key (Event.within h task now op reply : Event τ α)) t := by
  have w' := guarded.oneWriter.step step
  cases step with
  | @within d _ _ _ _ next _ running answers =>
      obtain ⟨draft, hd⟩ := guarded.oneWriter.open_of_running running
      rcases Database.applyInside_cases hd now op with ⟨e, hfails⟩ | ⟨touched, hworks⟩
      · cases hfails.symm.trans answers
        have same := guarded.later hclock
        rw [granted_error, Option.toList_none, List.append_nil]
        simp only [Grants.after, granted_error, Option.toList_none, List.append_nil]
        exact ⟨w', same.committed, same.draft, same.idle, same.complete⟩
      · cases hworks.symm.trans answers
        have held := (guarded.draft draft hd).apply hclock hnow among
        rw [Grants.standing, List.append_assoc] at held
        refine ⟨w', guarded.committed.later hclock rfl, ?_, ?_, ?_⟩
        · intro other hother
          obtain rfl := Option.some.inj hother
          exact held
        · intro hnone
          cases hnone
        · intro hundone
          rw [← guarded.complete hundone]
          exact (List.append_assoc _ _ _).symm

/-- A transaction that ends keeps its leases, or undoes them. -/
theorem finish {h : Nat} {task : τ} {result : Result α}
    (guarded : Guarded key start clock past g s)
    (step : Step body s (.finish h task result) t) :
    Guarded key start clock past (g.after key (Event.finish h task result : Event τ α)) t := by
  have w' := guarded.oneWriter.step step
  have hidle := step.draft_of_finish guarded.oneWriter
  obtain ⟨running, -, hcommit, hrollback⟩ := step.finish_spec guarded.oneWriter
  obtain ⟨draft, hd⟩ := guarded.oneWriter.open_of_running running
  have hdraft (g' : Grants) : ∀ draft, t.database.draft = some draft →
      Held key start clock g'.standing draft.store := by
    intro draft hsome
    rw [hidle] at hsome
    cases hsome
  cases result with
  | ok a =>
      refine ⟨w', ?_, hdraft _, fun _ => rfl, ?_⟩
      · rw [hcommit a rfl, Database.commit_committed hd]
        exact guarded.draft draft hd
      · intro hundone
        rw [← guarded.complete hundone]
        exact List.append_nil _
  | error e =>
      refine ⟨w', ?_, hdraft _, fun _ => rfl, ?_⟩
      · rw [hrollback e rfl]
        exact guarded.committed
      · intro hundone
        obtain ⟨hnone, hpending⟩ := List.append_eq_nil_iff.mp hundone
        rw [← guarded.complete hnone, Grants.standing, Grants.standing, hpending]
        rfl

/-- One move, at a clock that goes on. -/
theorem step {e : Event τ α} (guarded : Guarded key start clock past g s) (hclock : clock ≤ clock')
    (hread : ∀ now ∈ e.readings, now.millis = clock' ∧ now.isRepresentable = true)
    (among : Among key e) (step : Step body s e t) :
    Guarded key start clock' (past ++ (grantedBy key e).toList) (g.after key e) t := by
  cases e with
  | statement h q reply => exact guarded.statement hclock hread among step
  | begin h task result =>
      cases result with
      | error e =>
          rw [step.eq_of_refused]
          simpa [grantedBy, Grants.after] using guarded.later hclock
      | ok u => simpa [grantedBy, Grants.after] using (guarded.begun step).later hclock
  | within h task now op reply =>
      obtain ⟨rfl, hnow⟩ := hread now (by simp [Event.readings])
      exact guarded.within hclock hnow among step
  | nested h task result =>
      rw [step.nested_spec.2.1]
      simpa [grantedBy, Grants.after] using guarded.later hclock
  | finish h task result => simpa [grantedBy] using (guarded.finish step).later hclock

/-- Moves at a clock that does not go back. -/
theorem run {events : List (Event τ α)} {final : Handles τ α} {reading : Instant}
    (guarded : Guarded key start reading.millis past g s) (run : Run body s events final)
    (among : ∀ e ∈ events, Among key e)
    (hclock : (reading :: events.flatMap Event.readings).Pairwise (· ≤ ·))
    (hrange : ∀ now ∈ events.flatMap Event.readings, now.isRepresentable = true) :
    ∃ clock, Guarded key start clock (past ++ events.filterMap (grantedBy key))
      (events.foldl (Grants.after key) g) final := by
  induction run generalizing past g reading with
  | nil s => exact ⟨reading.millis, by simpa using guarded⟩
  | @cons s t u e es step rest ih =>
      have hamong : ∀ f ∈ es, Among key f := fun f hf => among f (List.mem_cons_of_mem e hf)
      have hlater : ∃ next : Instant, reading.millis ≤ next.millis ∧
          (∀ now ∈ e.readings, now.millis = next.millis ∧ now.isRepresentable = true) ∧
          (next :: es.flatMap Event.readings).Pairwise (· ≤ ·) := by
        rw [List.flatMap_cons] at hclock hrange
        rcases readings_cases e with hnone | ⟨now, hone⟩
        · rw [hnone, List.nil_append] at hclock
          exact ⟨reading, Int.le_refl _, by simp [hnone], hclock⟩
        · rw [hone, List.singleton_append, List.pairwise_cons] at hclock
          refine ⟨now, Instant.millis_le_millis (hclock.1 now (by simp)), ?_, hclock.2⟩
          intro other hother
          rw [hone, List.mem_singleton] at hother
          subst hother
          exact ⟨rfl, hrange other (by simp [hone])⟩
      obtain ⟨next, hgoes, hread, hordered⟩ := hlater
      have hrangeLater : ∀ now ∈ es.flatMap Event.readings, now.isRepresentable = true :=
        fun now hnow => hrange now (by rw [List.flatMap_cons]; exact List.mem_append_right _ hnow)
      have guarded' := guarded.step hgoes hread (among e (by simp)) step
      obtain ⟨clock, hfinal⟩ := ih guarded' hamong hordered hrangeLater
      refine ⟨clock, ?_⟩
      have hpast : past ++ (e :: es).filterMap (grantedBy key) =
          past ++ (grantedBy key e).toList ++ es.filterMap (grantedBy key) := by
        cases hgranted : grantedBy key e with
        | none => simp [hgranted]
        | some lease => simp [hgranted]
      rw [hpast]
      exact hfinal

end Guarded

/-- Whoever is told that the key is taken has changed nothing. -/
theorem refused_spec {body : τ → Body α} {key : String} {s t : Handles τ α} {e : Event τ α}
    (w : OneWriter s) (step : Step body s e t) (refused : RefusedBy key e) :
    t.database.committed = s.database.committed ∧
      t.database.draft.map Draft.store = s.database.draft.map Draft.store := by
  cases step with
  | @statement d h q reply answers =>
      cases q with
      | operate now op =>
          rcases s.database.apply_cases now op with ⟨e, hfails⟩ | ⟨-, hworks⟩
          · cases hfails.symm.trans answers
            exact ⟨rfl, rfl⟩
          · cases hworks.symm.trans answers
            exact ⟨apply_of_refused refused, rfl⟩
      | log now call => exact refused.elim
      | purge call => exact refused.elim
  | @within d _ task now op next reply running answers =>
      obtain ⟨draft, hd⟩ := w.open_of_running running
      rcases Database.applyInside_cases hd now op with ⟨e, hfails⟩ | ⟨touched, hworks⟩
      · cases hfails.symm.trans answers
        exact ⟨rfl, rfl⟩
      · cases hworks.symm.trans answers
        refine ⟨rfl, ?_⟩
        rw [hd]
        exact congrArg some (apply_of_refused refused)
  | refused | begun | nested | finish => exact refused.elim

section Exclusive

variable {body : τ → Body α} {key : String} {d : Database} {first : Instant}
  {events : List (Event τ α)} {final : Handles τ α}

/-- Of any number of handles that contend for a key which is not live when they start, nobody is
granted a lease before all leases that stand are over, whatever else is done meanwhile. While no
lease has been undone by a rollback, those that stand are all that have been granted. Whenever the
key is live it holds the last lease that stands, for whoever reads the committed tables as for
whoever is in the open transaction. A call that is refused leaves all tables as they are. -/
theorem exclusive (hidle : d.draft = none) (hfree : d.committed.live? first.millis key = none)
    (run : Run body (start d) events final) (among : ∀ e ∈ events, Among key e)
    (hclock : (first :: events.flatMap Event.readings).Pairwise (· ≤ ·))
    (hrange : ∀ now ∈ events.flatMap Event.readings, now.isRepresentable = true) :
    ((grants key events).standing.Pairwise fun a b => a.deadline ≤ b.now.millis) ∧
    ((grants key events).undone = [] →
      (grants key events).standing = events.filterMap (grantedBy key)) ∧
    (∀ ms, first.millis ≤ ms →
      (∀ row, final.database.committed.live? ms key = some row →
        ∃ lease, (grants key events).kept.getLast? = some lease ∧ row.value = lease.value ∧
          row.expireAt = lease.deadline) ∧
      (∀ draft row, final.database.draft = some draft → draft.store.live? ms key = some row →
        ∃ lease, (grants key events).standing.getLast? = some lease ∧ row.value = lease.value ∧
          row.expireAt = lease.deadline)) ∧
    (∀ before e later s t, events = before ++ e :: later → Run body (start d) before s →
      Step body s e t → RefusedBy key e → t.database.committed = s.database.committed ∧
        t.database.draft.map Draft.store = s.database.draft.map Draft.store) := by
  have guarded : Guarded key first.millis first.millis [] .none (start d : Handles τ α) := by
    refine ⟨OneWriter.start d, .free hfree, ?_, fun _ => rfl, fun _ => rfl⟩
    intro draft hd
    have hsome : d.draft = some draft := hd
    rw [hidle] at hsome
    cases hsome
  obtain ⟨clock, hfinal⟩ := guarded.run run among hclock hrange
  refine ⟨?_, hfinal.complete, ?_, ?_⟩
  · cases hd : final.database.draft with
    | none =>
        have hpending : (grants key events).pending = [] := hfinal.idle hd
        rw [Grants.standing, hpending, List.append_nil]
        exact hfinal.committed.inTurn
    | some draft => exact (hfinal.draft draft hd).inTurn
  · intro ms hms
    exact ⟨fun row hlive => hfinal.committed.of_live hms hlive,
      fun draft row hd hlive => (hfinal.draft draft hd).of_live hms hlive⟩
  · intro before e later s t _ first step refused
    exact refused_spec (first.oneWriter (OneWriter.start d)) step refused

end Exclusive

/-- Handle 0 takes a key for a millisecond. Handle 1 is refused, and takes the key when a reaper has
removed it. -/
def contest : List (Event Unit Unit) :=
  [.statement 0 (.operate ⟨0⟩ (.setNx "k" "a".toUTF8 ⟨1000000⟩)) (.ok true),
    .statement 1 (.operate ⟨999999⟩ (.setNx "k" "b".toUTF8 .zero)) (.ok false),
    .statement 2 (.purge (.expired ⟨1000000⟩)) (.ok 1),
    .statement 1 (.operate ⟨1000000⟩ (.setNx "k" "b".toUTF8 .zero)) (.ok true)]

theorem exclusive_contest : ∃ final,
    Run (fun _ => pure ()) (start (.empty .file)) contest final ∧
    (contest.filterMap (grantedBy "k")).Pairwise (fun a b => a.deadline ≤ b.now.millis) ∧
    ∀ row, final.database.committed.live? 1 "k" = some row → row.value = "b".toUTF8 := by
  let d₀ : Database := .empty .file
  let d₁ := (d₀.execute (.operate ⟨0⟩ (.setNx "k" "a".toUTF8 ⟨1000000⟩))).2
  let d₂ := (d₁.execute (.purge (.expired ⟨1000000⟩))).2
  let body : Unit → Body Unit := fun _ => pure ()
  let d₃ := (d₂.execute (.operate ⟨1000000⟩ (.setNx "k" "b".toUTF8 .zero))).2
  have takes : Step body (start d₀) (.statement 0 (.operate ⟨0⟩ (.setNx "k" "a".toUTF8 ⟨1000000⟩))
      (.ok true)) (start d₁) := .statement rfl
  have waits : Step body (start d₁) (.statement 1 (.operate ⟨999999⟩ (.setNx "k" "b".toUTF8 .zero))
      (.ok false)) (start d₁) := .statement rfl
  have reaps : Step body (start d₁) (.statement 2 (.purge (.expired ⟨1000000⟩)) (.ok 1))
      (start d₂) := .statement (Prod.ext (by decide +kernel) rfl)
  have takesOver : Step body (start d₂)
      (.statement 1 (.operate ⟨1000000⟩ (.setNx "k" "b".toUTF8 .zero)) (.ok true)) (start d₃) :=
    .statement (Prod.ext (by decide +kernel) rfl)
  have run : Run body (start d₀) contest (start d₃) :=
    .cons takes (.cons waits (.cons reaps (.single takesOver)))
  have hfree : d₀.committed.live? (⟨0⟩ : Instant).millis "k" = none := rfl
  have among : ∀ e ∈ contest, Among "k" e := by simp [contest, Among, Contends]
  obtain ⟨hturns, hall, hlive, -⟩ := exclusive rfl hfree run among (by decide) (by decide)
  refine ⟨_, run, ?_, ?_⟩
  · rw [← hall rfl]
    exact hturns
  · intro row hrow
    obtain ⟨lease, hlast, hvalue, -⟩ := (hlive 1 (by decide)).1 row hrow
    cases hlast
    exact hvalue

end SqlCache.Lease
