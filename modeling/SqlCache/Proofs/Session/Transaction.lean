import SqlCache.Proofs.Database.Lock
import SqlCache.Session.Run

/-!
Transactions of a session on a database. The body of a transaction is a program that puts requests
to the transaction's handle. It takes effect as a whole or not at all, and it does what the same
operations do one after another outside of a transaction; what a handle refuses inside of a
transaction it refuses without doing anything. Main result: `Scope.transact_atomic`.
-/

set_option autoImplicit false

namespace SqlCache.Session

/-- What the body of a transaction can ask its handle for. -/
inductive Request where
  | operate (op : Operation)
  | getText (key : String)
  | increment (key : String) (delta : Int)
  | transaction (steps : List Step) (propagate : Bool) (failure : Option CacheError)
  | subscribe (name channel : String) (subscriber : Option String)

namespace Request

/-- The step that a request is. -/
def step : Request → Step
  | operate op => .operate op
  | getText key => .getText key
  | increment key delta => .increment key delta
  | transaction steps propagate failure => .transaction steps propagate failure
  | subscribe name channel subscriber => .subscribe name channel subscriber

/-- What a request is told that no handle of a transaction grants. -/
def refusal? : Request → Option Answer
  | operate _ | getText _ => none
  | increment .. => some (.integer (.error (.validation .nestedTransaction)))
  | transaction .. => some (.transaction [] (.error (.validation .nestedTransaction)))
  | subscribe .. => some (.subscribed (.error (.validation .subscribeInTransaction)))

/-- Answer a request. -/
def serve (scope : Scope) (q : Request) (s : Session) : Answer × Session := run scope q.step s

end Request

/-- The body of a transaction: a program that goes on with the answers to its requests, and ends
with a result of its own. -/
abbrev Program (α : Type) := Dialogue Request (fun _ => Answer) (Result α)

namespace Program

variable {α σ : Type}

/-- The program without the requests that are refused; it knows what they are told. -/
def plain : Program α → Program α
  | .done r => .done r
  | .ask q next =>
    match q.refusal? with
    | some answer => plain (next answer)
    | none => .ask q fun answer => plain (next answer)

/-- The requests of a program with their answers. -/
def exchanges (handle : Request → σ → Answer × σ) : Program α → σ → List (Request × Answer)
  | .done _, _ => []
  | .ask q next, s =>
    let (answer, s) := handle q s
    (q, answer) :: exchanges handle (next answer) s

end Program

/-- Run a program in a transaction of its own. -/
def Scope.transact {α : Type} (scope : Scope) (program : Program α) (s : Session) :
    Result α × Session :=
  match (scope.backend s).begin s with
  | (.error e, s') => (.error e, s')
  | (.ok c, s') =>
    let (result, s') := program.run (Request.serve ⟨scope.client, some c⟩) s'
    (scope.backend s).finish c result s'

/-! ## Databases of a session -/

section Database

variable {s : Session} {i : Nat}

@[simp] theorem setDatabase_clock (d : Database) : (s.setDatabase i d).clock = s.clock := rfl

@[simp] theorem setDatabase_setDatabase (d d' : Database) :
    (s.setDatabase i d).setDatabase i d' = s.setDatabase i d' := by
  simp [setDatabase, List.set_set]

theorem database_setDatabase (hi : i < s.databases.length) (d : Database) :
    (s.setDatabase i d).database i = d := by
  simp [setDatabase, database, hi]

theorem setDatabase_database (hi : i < s.databases.length) :
    s.setDatabase i (s.database i) = s := by
  simp [setDatabase, database, hi]

/-- The session while a transaction on a database has come to a draft. -/
def withDraft (s : Session) (i : Nat) (draft : Draft) : Session :=
  s.setDatabase i { s.database i with draft := some draft }

/-- The session once a database has these tables. -/
def withCommitted (s : Session) (i : Nat) (store : Store) : Session :=
  s.setDatabase i { s.database i with committed := store }

end Database

/-! ## Requests inside and outside -/

section Serve

variable {s : Session} {k i : Nat} {c : Connection} {α : Type}

theorem perform_outside (hk : (s.client k).endpoint = .database i) (op : Operation)
    (read : op.Answer → Result α) :
    (Scope.outside k).perform (.single op read) s =
      (((s.database i).apply s.clock op).1.bind read,
        s.setDatabase i ((s.database i).apply s.clock op).2) := by
  simp only [Scope.perform, Scope.outside, Scope.backend, hk]
  rfl

theorem perform_inside (hk : (s.client k).endpoint = .database i) (op : Operation)
    (read : op.Answer → Result α) :
    (⟨k, some c⟩ : Scope).perform (.single op read) s =
      (((s.database i).applyInside s.clock op).1.bind read,
        s.setDatabase i ((s.database i).applyInside s.clock op).2) := by
  simp only [Scope.perform, Scope.backend, hk]
  rfl

/-- What a transaction's handle refuses, it refuses at once. -/
theorem Request.serve_refused {q : Request} {answer : Answer} (hq : q.refusal? = some answer)
    (s : Session) : q.serve ⟨k, some c⟩ s = (answer, s) := by
  cases q with
  | operate op => cases hq
  | getText key => cases hq
  | increment key delta =>
      cases hq
      rfl
  | transaction steps propagate failure =>
      cases hq
      simp only [Request.serve, Request.step, run]
  | subscribe name channel subscriber =>
      cases hq
      rfl

/-- An operation does the same inside of a transaction as outside. -/
theorem perform_single (hk : (s.client k).endpoint = .database i)
    (hi : i < s.databases.length) (hd : (s.database i).draft = none) (op : Operation)
    (read : op.Answer → Result α) (store : Store) (touched : List Store.Table) :
    ∃ result store' touched',
      (⟨k, some c⟩ : Scope).perform (.single op read) (s.withDraft i ⟨store, touched⟩) =
        (result, s.withDraft i ⟨store', touched'⟩) ∧
      (Scope.outside k).perform (.single op read) (s.withCommitted i store) =
        (result, s.withCommitted i store') := by
  obtain ⟨reply, store', touched', hinside, houtside⟩ :=
    Database.applyInside_eq_apply hd store touched s.clock op
  refine ⟨reply.bind read, store', touched', ?_, ?_⟩
  · rw [perform_inside (s := s.withDraft i ⟨store, touched⟩) hk]
    simp only [withDraft, database_setDatabase hi, setDatabase_clock, hinside,
      setDatabase_setDatabase]
  · rw [perform_outside (s := s.withCommitted i store) hk]
    simp only [withCommitted, database_setDatabase hi, setDatabase_clock, houtside,
      setDatabase_setDatabase]

/-- A request that is not refused is answered inside of a transaction as outside. -/
theorem Request.serve_granted (hk : (s.client k).endpoint = .database i)
    (hi : i < s.databases.length) (hd : (s.database i).draft = none) {q : Request}
    (hq : q.refusal? = none) (store : Store) (touched : List Store.Table) :
    ∃ answer store' touched',
      q.serve ⟨k, some c⟩ (s.withDraft i ⟨store, touched⟩) =
        (answer, s.withDraft i ⟨store', touched'⟩) ∧
      q.serve (.outside k) (s.withCommitted i store) = (answer, s.withCommitted i store') := by
  cases q with
  | increment | transaction | subscribe => cases hq
  | operate op =>
      obtain ⟨result, store', touched', hinside, houtside⟩ :=
        perform_single (c := c) hk hi hd op .ok store touched
      refine ⟨.operation op result, store', touched', ?_, ?_⟩
      · simp only [Request.serve, Request.step, run, Plan.operation, hinside]
      · simp only [Request.serve, Request.step, run, Plan.operation, houtside]
  | getText key =>
      obtain ⟨result, store', touched', hinside, houtside⟩ :=
        perform_single (c := c) hk hi hd (.getBytes key) (textOf key) store touched
      refine ⟨.text result, store', touched', ?_, ?_⟩
      · simp only [Request.serve, Request.step, run, Plan.getText, hinside]
      · simp only [Request.serve, Request.step, run, Plan.getText, houtside]

/-- A program does inside of a transaction what its operations do outside, request by request. -/
theorem Program.run_inside (hk : (s.client k).endpoint = .database i)
    (hi : i < s.databases.length) (hd : (s.database i).draft = none) (program : Program α)
    (store : Store) (touched : List Store.Table) :
    ∃ result store' touched',
      program.run (Request.serve ⟨k, some c⟩) (s.withDraft i ⟨store, touched⟩) =
        (result, s.withDraft i ⟨store', touched'⟩) ∧
      program.plain.run (Request.serve (.outside k)) (s.withCommitted i store) =
        (result, s.withCommitted i store') := by
  induction program generalizing store touched with
  | done result => exact ⟨result, store, touched, rfl, rfl⟩
  | ask q next ih =>
      cases hq : q.refusal? with
      | some answer =>
          obtain ⟨result, store', touched', hinside, houtside⟩ := ih answer store touched
          refine ⟨result, store', touched', ?_, ?_⟩
          · rw [Dialogue.run_ask, Request.serve_refused hq]
            exact hinside
          · simp only [Program.plain, hq]
            exact houtside
      | none =>
          obtain ⟨answer, store₁, touched₁, hanswer, hanswer'⟩ :=
            Request.serve_granted (c := c) hk hi hd hq store touched
          obtain ⟨result, store', touched', hinside, houtside⟩ := ih answer store₁ touched₁
          refine ⟨result, store', touched', ?_, ?_⟩
          · rw [Dialogue.run_ask, hanswer]
            exact hinside
          · simp only [Program.plain, hq]
            rw [Dialogue.run_ask, hanswer']
            exact houtside

/-- Is the request one that a handle of a transaction grants? -/
def Request.isGranted (q : Request) : Bool := q.refusal?.isNone

/-- In a transaction the operations of a program are answered as they are outside. -/
theorem Program.exchanges_inside (hk : (s.client k).endpoint = .database i)
    (hi : i < s.databases.length) (hd : (s.database i).draft = none) (program : Program α)
    (store : Store) (touched : List Store.Table) :
    (program.exchanges (Request.serve ⟨k, some c⟩) (s.withDraft i ⟨store, touched⟩)).filter
        (fun x => x.1.isGranted) =
      program.plain.exchanges (Request.serve (.outside k)) (s.withCommitted i store) := by
  induction program generalizing store touched with
  | done result => rfl
  | ask q next ih =>
      cases hq : q.refusal? with
      | some answer =>
          simp only [Program.plain, hq, Program.exchanges, Request.serve_refused hq]
          rw [List.filter_cons_of_neg (by simp [Request.isGranted, hq])]
          exact ih answer store touched
      | none =>
          obtain ⟨answer, store₁, touched₁, hanswer, hanswer'⟩ :=
            Request.serve_granted (c := c) hk hi hd hq store touched
          simp only [Program.plain, hq, Program.exchanges, hanswer, hanswer']
          rw [List.filter_cons_of_pos (by simp [Request.isGranted, hq])]
          exact congrArg (List.cons (q, answer)) (ih answer store₁ touched₁)

/-- In a transaction an attempt at something that is not granted fails as one. -/
theorem Program.exchanges_refused (program : Program α) (s : Session) {x : Request × Answer}
    (hx : x ∈ program.exchanges (Request.serve ⟨k, some c⟩) s) {answer : Answer}
    (hq : x.1.refusal? = some answer) : x.2 = answer := by
  induction program generalizing s with
  | done result => cases hx
  | ask q next ih =>
      rcases List.mem_cons.mp hx with rfl | hrest
      · exact congrArg Prod.fst (Request.serve_refused hq s)
      · exact ih _ _ hrest

end Serve

/-! ## Transactions -/

section Transact

variable {s : Session} {k i : Nat} {α : Type}

/-- A transaction on a database begins with a draft of the committed tables. -/
theorem Scope.begin_eq (hk : (s.client k).endpoint = .database i)
    (hd : (s.database i).draft = none) (hshared : (s.database i).sharing ≠ .nothing) :
    ((Scope.outside k).backend s).begin s =
      (.ok ⟨true⟩, s.withDraft i ⟨(s.database i).committed, []⟩) := by
  have hbegin := Database.begin_of_draft_eq_none hd hshared
  simp only [Scope.backend, Scope.outside, hk, Session.backend, Backend.through,
    Database.backend, hbegin]
  rfl

/-- A transaction on a database keeps or drops its draft as its program ends. -/
theorem Scope.transact_eq (hk : (s.client k).endpoint = .database i)
    (hi : i < s.databases.length) (hd : (s.database i).draft = none)
    (hshared : (s.database i).sharing ≠ .nothing) (program : Program α) {result : Result α}
    {store : Store} {touched : List Store.Table}
    (run : program.run (Request.serve ⟨k, some ⟨true⟩⟩)
      (s.withDraft i ⟨(s.database i).committed, []⟩) = (result, s.withDraft i ⟨store, touched⟩)) :
    (Scope.outside k).transact program s =
      (result, if result.isOk then s.withCommitted i store else s) := by
  have hrollback : ({ s.database i with draft := none } : Database) = s.database i :=
    Database.rollback_of_draft_eq_none hd
  rw [Scope.transact, Scope.begin_eq hk hd hshared]
  simp only [Scope.outside, run, Scope.backend, hk]
  cases result with
  | ok a =>
      have hcommit := Database.commit_of_draft hd ⟨store, touched⟩
      show (Except.ok a, (s.withDraft i ⟨store, touched⟩).setDatabase i
        ((s.withDraft i ⟨store, touched⟩).database i).commit) = _
      rw [withDraft, database_setDatabase hi, setDatabase_setDatabase, hcommit]
      rfl
  | error e =>
      show (Except.error e, (s.withDraft i ⟨store, touched⟩).setDatabase i
        ((s.withDraft i ⟨store, touched⟩).database i).rollback) = _
      rw [withDraft, database_setDatabase hi, setDatabase_setDatabase]
      exact congrArg (Prod.mk _) ((congrArg (s.setDatabase i) hrollback).trans
        (setDatabase_database hi))

/-- The body that puts requests one after the other. With `propagate` the first failing one is the
last; otherwise the body fails with `failure`, if that is given. -/
def Program.ofRequests (propagate : Bool) (failure : Option CacheError) :
    List Request → Program Unit
  | [] => .done (bodyResult none failure)
  | q :: rest => .ask q fun answer =>
    match answer.error?, propagate with
    | some e, true => .done (.error e)
    | _, _ => ofRequests propagate failure rest

/-- No request to a database has to do with a server. -/
theorem Request.serve_inside_frame {c : Connection} {s : Session}
    (hk : (s.client k).endpoint = .database i) (q : Request) :
    (q.serve ⟨k, some c⟩ s).2.server = s.server ∧
      ((q.serve ⟨k, some c⟩ s).2.client k).endpoint = .database i := by
  cases hq : q.refusal? with
  | some answer =>
      rw [Request.serve_refused hq]
      exact ⟨rfl, hk⟩
  | none =>
      cases q with
      | increment | transaction | subscribe => cases hq
      | operate op =>
          have hperform := perform_inside (c := c) hk op .ok
          simp only [Request.serve, Request.step, run, Plan.operation, hperform]
          exact ⟨rfl, hk⟩
      | getText key =>
          have hperform := perform_inside (c := c) hk (.getBytes key) (textOf key)
          simp only [Request.serve, Request.step, run, Plan.getText, hperform]
          exact ⟨rfl, hk⟩

/-- Steps that are requests do what the program of these requests does. -/
theorem runAll_requests {c : Connection} (propagate : Bool) (failure : Option CacheError)
    (requests : List Request) {s : Session} (hserver : s.server = none)
    (hk : (s.client k).endpoint = .database i) :
    ∃ reports stopped final,
      runAll ⟨k, some c⟩ propagate (requests.map Request.step) s = (reports, stopped, final) ∧
      (Program.ofRequests propagate failure requests).run (Request.serve ⟨k, some c⟩) s =
        (bodyResult stopped failure, final) := by
  induction requests generalizing s with
  | nil => exact ⟨[], none, s, by simp only [List.map_nil, runAll], rfl⟩
  | cons q rest ih =>
      obtain ⟨hserver', hk'⟩ := Request.serve_inside_frame (c := c) hk q
      obtain ⟨answer, t, hserve⟩ : ∃ answer t, q.serve ⟨k, some c⟩ s = (answer, t) := ⟨_, _, rfl⟩
      rw [hserve] at hserver' hk'
      have hnone : t.server = none := hserver'.trans hserver
      have hreport : t.report answer = (⟨answer, []⟩, t) := by
        simp only [report, takeRecord, hnone]
      have hrun : run ⟨k, some c⟩ q.step s = (answer, t) := hserve
      obtain ⟨reports, stopped, final, hall, hprogram⟩ := ih hnone hk'
      simp only [List.map_cons, runAll, hrun, hreport, hall, Program.ofRequests, Dialogue.run_ask,
        hserve]
      cases answer.error? with
      | none => exact ⟨⟨answer, []⟩ :: reports, stopped, final, rfl, hprogram⟩
      | some e =>
          cases propagate with
          | false => exact ⟨⟨answer, []⟩ :: reports, stopped, final, rfl, hprogram⟩
          | true => exact ⟨[⟨answer, []⟩], some e, t, rfl, rfl⟩

/-- A step that is a transaction of requests is the transaction of their program. -/
theorem run_transaction (hserver : s.server = none) (hk : (s.client k).endpoint = .database i)
    (propagate : Bool) (failure : Option CacheError) (requests : List Request) :
    ∃ reports result final,
      run (.outside k) (.transaction (requests.map Request.step) propagate failure) s =
        (.transaction reports result, final) ∧
      (Scope.outside k).transact (Program.ofRequests propagate failure requests) s =
        (result, final) := by
  obtain ⟨begun, d, hbegin⟩ : ∃ begun d, ((Scope.outside k).backend s).begin s =
      (begun, s.setDatabase i d) := by
    simp only [Scope.backend, Scope.outside, hk]
    exact ⟨_, _, rfl⟩
  cases begun with
  | error e =>
      refine ⟨[], .error e, s.setDatabase i d, ?_, ?_⟩
      · simp only [run, Scope.outside] at hbegin ⊢
        rw [hbegin]
      · rw [Scope.transact, hbegin]
  | ok c =>
      obtain ⟨reports, stopped, final, hall, hprogram⟩ :=
        runAll_requests (s := s.setDatabase i d) (c := c) propagate failure requests hserver hk
      obtain ⟨result, last, hfinish⟩ : ∃ result last, ((Scope.outside k).backend s).finish c
          (bodyResult stopped failure) final = (result, last) := ⟨_, _, rfl⟩
      refine ⟨reports, result, last, ?_, ?_⟩
      · simp only [run, Scope.outside] at hbegin hfinish ⊢
        simp only [hbegin, hall, hfinish]
      · rw [Scope.transact, hbegin]
        show ((Scope.outside k).backend s).finish c
          ((Program.ofRequests propagate failure requests).run (Request.serve ⟨k, some c⟩)
            (s.setDatabase i d)).1
          ((Program.ofRequests propagate failure requests).run (Request.serve ⟨k, some c⟩)
            (s.setDatabase i d)).2 = _
        rw [hprogram]
        exact hfinish

/-- A transaction on a database that its connections share, and that nobody else is writing to,
takes effect as a whole or not at all. If it fails, then with the error of its program, and the
session is as it was: all tables, and the id of the next message. If it succeeds, the session is
what the operations of the program make of it outside of a transaction, one after another. Either
way each operation is answered as it is there, and what the handle does not grant is refused without
any effect. -/
theorem Scope.transact_atomic (hk : (s.client k).endpoint = .database i)
    (hi : i < s.databases.length) (hd : (s.database i).draft = none)
    (hshared : (s.database i).sharing ≠ .nothing) (program : Program α) :
    ∃ c begun, ((Scope.outside k).backend s).begin s = (.ok c, begun) ∧
      (∀ e final, (Scope.outside k).transact program s = (.error e, final) →
        (program.run (Request.serve ⟨k, some c⟩) begun).1 = .error e ∧ final = s) ∧
      (∀ a final, (Scope.outside k).transact program s = (.ok a, final) →
        program.plain.run (Request.serve (.outside k)) s = (.ok a, final)) ∧
      (program.exchanges (Request.serve ⟨k, some c⟩) begun).filter (fun x => x.1.isGranted) =
        program.plain.exchanges (Request.serve (.outside k)) s ∧
      (∀ x ∈ program.exchanges (Request.serve ⟨k, some c⟩) begun, ∀ answer,
        x.1.refusal? = some answer → x.2 = answer) := by
  have hbegin : ((Scope.outside k).backend s).begin s =
      (.ok ⟨true⟩, s.withDraft i ⟨(s.database i).committed, []⟩) :=
    Scope.begin_eq hk hd hshared
  have hsame : s.withCommitted i (s.database i).committed = s := setDatabase_database hi
  obtain ⟨result, store, touched, hinside, houtside⟩ :=
    program.run_inside (c := ⟨true⟩) hk hi hd (s.database i).committed []
  rw [hsame] at houtside
  have htransact := Scope.transact_eq hk hi hd hshared program hinside
  refine ⟨⟨true⟩, _, hbegin, ?_, ?_, ?_, ?_⟩
  · intro e final hfinal
    rw [htransact] at hfinal
    obtain ⟨rfl, rfl⟩ := Prod.mk.inj hfinal
    exact ⟨congrArg Prod.fst hinside, rfl⟩
  · intro a final hfinal
    rw [htransact] at hfinal
    obtain ⟨rfl, rfl⟩ := Prod.mk.inj hfinal
    exact houtside
  · rw [program.exchanges_inside hk hi hd, hsame]
  · intro x hx answer hq
    exact program.exchanges_refused _ hx hq

end Transact

/-- A program that publishes, tries to count, and then ends with a result. -/
def announcing (result : Result Unit) : Program Unit :=
  .ask (.operate (.publish "news" "hello")) fun _ => .ask (.increment "n" 1) fun _ => .done result

theorem Scope.transact_atomic_announcing :
    (∃ final, (Scope.outside 0).transact (announcing (.error .notFound)) (start ⟨0⟩ {} none) =
      (.error .notFound, final) ∧ final = start ⟨0⟩ {} none) ∧
    (∃ final, (Scope.outside 0).transact (announcing (.ok ())) (start ⟨0⟩ {} none) =
      (.ok (), final) ∧
      (announcing (.ok ())).plain.run (Request.serve (.outside 0)) (start ⟨0⟩ {} none) =
        (.ok (), final)) := by
  have atomic : ∀ program : Program Unit, _ := fun program =>
    Scope.transact_atomic (s := start ⟨0⟩ {} none) (k := 0) (i := 0) rfl (by decide) rfl
      (by decide) program
  obtain ⟨failed, hfailed⟩ : ∃ final, (Scope.outside 0).transact (announcing (.error .notFound))
      (start ⟨0⟩ {} none) = (.error .notFound, final) := ⟨_, rfl⟩
  obtain ⟨done, hdone⟩ : ∃ final, (Scope.outside 0).transact (announcing (.ok ()))
      (start ⟨0⟩ {} none) = (.ok (), final) := ⟨_, rfl⟩
  obtain ⟨_, _, _, herror, -⟩ := atomic (announcing (.error .notFound))
  obtain ⟨_, _, _, -, hok, -⟩ := atomic (announcing (.ok ()))
  exact ⟨⟨failed, hfailed, (herror _ _ hfailed).2⟩, ⟨done, hdone, hok _ _ hdone⟩⟩

end SqlCache.Session
