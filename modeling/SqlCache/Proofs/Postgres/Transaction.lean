import SqlCache.Proofs.Postgres.Statements
import SqlCache.Proofs.Session.Transaction

/-!
Transactions on a server. A transaction that cannot be started does not run its body; one that has
been started sends the statements of its body and then one statement that ends it, and succeeds only
if its body does and the end is accepted (`Transacts`). This holds of the bodies of operations as
of the programs that put requests to the handle of a session's transaction. Main result:
`transaction_ends`.
-/

set_option autoImplicit false

namespace SqlCache.Postgres

open Dialogue

variable {α : Type}

/-- Has the server been sent these statements, in order, from one moment to another? -/
def Sends (before after : Server) (sent : List Sent) : Prop :=
  after.record = sent.reverse ++ before.record

/-- A statement without placeholders. -/
def Sent.control (inTransaction : Bool) (sql : String) : Sent := ⟨inTransaction, ⟨sql, none⟩⟩

/-- The statement that ends a transaction whose body has come to a result. -/
def ending : Result α → String
  | .ok _ => "COMMIT"
  | .error _ => "ROLLBACK"

/-- What becomes of a transaction on a link, given its body as statements: the result of the
transaction and the link after it. -/
structure Transacts (body : Dialogue Statement Statement.Reply (Result α)) (l : Link)
    (result : Result α) (final : Link) : Prop where
  /-- A transaction that cannot be started fails without its body. What has been sent then is
  nothing, or the start that was refused and a rollback. -/
  unstarted : ∀ e started, l.begin = (.error e, started) → result = .error e ∧ final = started ∧
    (Sends l.server final.server [] ∨ ∃ inTransaction, Sends l.server final.server
      [.control inTransaction startTransaction, .control inTransaction "ROLLBACK"])
  /-- One that has been started sends the statements of its body, in order, and ends as the result
  of the body asks for. -/
  started : ∀ c started, l.begin = (.ok c, started) → ∃ inTransaction,
    Sends l.server final.server (.control inTransaction startTransaction ::
      (body.transcript (Server.answer c) started.server).map (fun said => ⟨true, said.1⟩) ++
      [.control true (ending (body.run (Server.answer c) started.server).1)])
  /-- It succeeds if its body does and the end of the transaction is accepted. -/
  succeeds : ∀ c started a, l.begin = (.ok c, started) → (result = .ok a ↔
    (body.run (Server.answer c) started.server).1 = .ok a ∧
      ((body.run (Server.answer c) started.server).2.control c "COMMIT").1 = .ok ())
  /-- If its body fails, it fails with the error of the body. -/
  fails : ∀ c started e, l.begin = (.ok c, started) →
    (body.run (Server.answer c) started.server).1 = .error e → result = .error e

/-! ## The beginning and the end -/

theorem sends_nil (s : Server) : Sends s s [] := rfl

theorem sends_append {s t u : Server} {sent more : List Sent} (first : Sends s t sent)
    (rest : Sends t u more) : Sends s u (sent ++ more) := by
  rw [Sends, rest, first, List.reverse_append, List.append_assoc]

theorem sends_control (s : Server) (c : Connection) (sql : String) :
    Sends s (s.control c sql).2 [.control c.inTransaction sql] :=
  s.control_record c sql

theorem sends_run (s : Server) (c : Connection) (d : Dialogue Statement Statement.Reply α) :
    Sends s (d.run (Server.answer c) s).2
      ((d.transcript (Server.answer c) s).map fun said => ⟨c.inTransaction, said.1⟩) :=
  s.record_run c d

/-- A start that is refused is followed by a rollback; without a connection nothing is sent. -/
theorem begin_error {l started : Link} {e : CacheError} (h : l.begin = (.error e, started)) :
    Sends l.server started.server [] ∨ ∃ inTransaction, Sends l.server started.server
      [.control inTransaction startTransaction, .control inTransaction "ROLLBACK"] := by
  unfold Link.begin at h
  split at h
  · cases h
    exact Or.inl (sends_nil _)
  · next c pool _ =>
      right
      refine ⟨c.inTransaction, ?_⟩
      have hstart := sends_control l.server c startTransaction
      split at h
      · cases h
      · next e server hrefused =>
          rw [hrefused] at hstart
          have hrollback := sends_control server c "ROLLBACK"
          split at h
          · next server' hended =>
              cases h
              rw [hended] at hrollback
              exact sends_append hstart hrollback
          · next e' server' hended =>
              cases h
              rw [hended] at hrollback
              exact sends_append hstart hrollback

/-- A transaction is open on its connection once the start has been sent. -/
theorem begin_ok {l started : Link} {c : Connection} (h : l.begin = (.ok c, started)) :
    c = ⟨true⟩ ∧ ∃ inTransaction,
      Sends l.server started.server [.control inTransaction startTransaction] := by
  unfold Link.begin at h
  split at h
  · cases h
  · next c' pool _ =>
      have hstart := sends_control l.server c' startTransaction
      split at h
      · next server haccepted =>
          cases h
          rw [haccepted] at hstart
          exact ⟨rfl, c'.inTransaction, hstart⟩
      · split at h <;> cases h

/-- The end of a transaction answers what the server answers to the statement that ends it. -/
theorem finish_server (sql : String) (c : Connection) (l : Link) :
    (l.finish sql c).1 = (l.server.control c sql).1 ∧
      (l.finish sql c).2.server = (l.server.control c sql).2 := by
  unfold Link.finish
  split <;> simp [*]

/-- A transaction with a body that succeeds answers for it once the end is accepted. -/
theorem finish_ok (c : Connection) (a : α) (l : Link) :
    Link.backend.finish c (.ok a) l =
      ((l.server.control c "COMMIT").1.map fun _ => a, (l.finish "COMMIT" c).2) := by
  have hcommit : Link.backend.commit c l = l.finish "COMMIT" c := rfl
  rw [Backend.finish, hcommit, ← (finish_server "COMMIT" c l).1]
  rcases l.finish "COMMIT" c with ⟨ended, final⟩
  cases ended <;> rfl

/-- A transaction whose body has come to a result sends the statement that ends it. -/
theorem sends_finish (c : Connection) (result : Result α) (l : Link) :
    Sends l.server (Link.backend.finish c result l).2.server
      [.control c.inTransaction (ending result)] := by
  cases result with
  | error e =>
      show Sends l.server (l.finish "ROLLBACK" c).2.server _
      rw [(finish_server "ROLLBACK" c l).2]
      exact sends_control l.server c "ROLLBACK"
  | ok a =>
      rw [finish_ok, (finish_server "COMMIT" c l).2]
      exact sends_control l.server c "COMMIT"

/-- A transaction succeeds if its body does and the end is accepted. -/
theorem finish_eq_ok {c : Connection} {result : Result α} {l : Link} {a : α} :
    (Link.backend.finish c result l).1 = .ok a ↔
      result = .ok a ∧ (l.server.control c "COMMIT").1 = .ok () := by
  cases result with
  | error e => simp [Backend.finish]
  | ok b =>
      rw [finish_ok]
      cases l.server.control c "COMMIT" with
      | mk ended server => cases ended <;> simp [Except.map]

/-! ## Whole transactions -/

/-- Run a body of statements in a transaction of its own. -/
def transact (body : Dialogue Statement Statement.Reply (Result α)) (l : Link) : Result α × Link :=
  match l.begin with
  | (.error e, started) => (.error e, started)
  | (.ok c, started) =>
    let (result, server) := body.run (Server.answer c) started.server
    Link.backend.finish c result { started with server }

section Transact

variable {body : Dialogue Statement Statement.Reply (Result α)} {l started : Link}

theorem transact_of_begin_error {e : CacheError} (h : l.begin = (.error e, started)) :
    transact body l = (.error e, started) := by
  rw [transact, h]

theorem transact_of_begin_ok {c : Connection} (h : l.begin = (.ok c, started)) :
    transact body l = Link.backend.finish c (body.run (Server.answer c) started.server).1
      { started with server := (body.run (Server.answer c) started.server).2 } := by
  rw [transact, h]

theorem transacts_of_begin_error {e : CacheError} (hbegin : l.begin = (.error e, started)) :
    Transacts body l (.error e) started where
  unstarted e' started' h := by
    cases hbegin.symm.trans h
    exact ⟨rfl, rfl, begin_error hbegin⟩
  started c started' h := by cases hbegin.symm.trans h
  succeeds c started' a h := by cases hbegin.symm.trans h
  fails c started' e' h := by cases hbegin.symm.trans h

theorem transacts_of_begin_ok {c : Connection} (hbegin : l.begin = (.ok c, started)) :
    Transacts body l (transact body l).1 (transact body l).2 where
  unstarted e started' h := by cases hbegin.symm.trans h
  started c' started' h := by
    cases hbegin.symm.trans h
    obtain ⟨rfl, inTransaction, hstart⟩ := begin_ok hbegin
    rw [transact_of_begin_ok hbegin]
    have hbody := sends_run started.server ⟨true⟩ body
    exact ⟨inTransaction, sends_append (sends_append hstart hbody) (sends_finish _ _ _)⟩
  succeeds c' started' a h := by
    cases hbegin.symm.trans h
    rw [transact_of_begin_ok hbegin]
    exact finish_eq_ok
  fails c' started' e h hfails := by
    cases hbegin.symm.trans h
    rw [transact_of_begin_ok hbegin, hfails]
    rfl

/-- What becomes of a transaction whose body is given as statements. -/
theorem transacts (body : Dialogue Statement Statement.Reply (Result α)) (l : Link) :
    Transacts body l (transact body l).1 (transact body l).2 := by
  rcases hbegin : l.begin with ⟨result, started⟩
  cases result with
  | error e =>
      rw [transact_of_begin_error hbegin]
      exact transacts_of_begin_error hbegin
  | ok c => exact transacts_of_begin_ok hbegin

end Transact

/-- A body of operations runs as its statements. -/
theorem transaction_eq (body : Body α) (given : Instant) (l : Link) (clock : Nat → Instant) :
    ∃ rest, Link.backend.ticking.transaction given body (l, clock) =
      ((transact (statements clock body.run) l).1, (transact (statements clock body.run) l).2,
        rest) := by
  have hbegin : Link.backend.begin l = l.begin := rfl
  rw [Backend.ticking_transaction, hbegin, transact]
  rcases l.begin with ⟨result, started⟩
  cases result with
  | error e => exact ⟨clock, rfl⟩
  | ok c =>
      obtain ⟨rest, hrun⟩ := run_statements given c body.run started clock
      refine ⟨rest, ?_⟩
      simp only [hrun, Backend.ticking_finish]

/-! ## Programs of a session -/

/-- A transaction on a store that is a part of a larger state ends as on the store itself. -/
theorem through_finish {σ τ : Type} (b : Backend σ) (get : τ → σ) (put : σ → τ → τ) (c : Connection)
    (result : Result α) (t : τ) : (b.through get put).finish c result t =
      ((b.finish c result (get t)).1, put (b.finish c result (get t)).2 t) := by
  cases result with
  | error e => rfl
  | ok a =>
      have hcommit : (b.through get put).commit c t =
          ((b.commit c (get t)).1, put (b.commit c (get t)).2 t) := rfl
      rw [Backend.finish, hcommit, Backend.finish]
      rcases b.commit c (get t) with ⟨ended, s⟩
      cases ended <;> rfl

section Session

open Session

/-- The statements of a request to the handle of a transaction. What the handle refuses takes
none. -/
def ofRequest (now : Instant) (q : Request) : Dialogue Statement Statement.Reply Answer :=
  match q with
  | .operate op => .operation op <$> (ofOperation now op).run
  | .getText key => (fun reply => .text (reply.bind (textOf key))) <$>
      (ofOperation now (.getBytes key)).run
  | .increment .. => .done (.integer (.error (.validation .nestedTransaction)))
  | .transaction .. => .done (.transaction [] (.error (.validation .nestedTransaction)))
  | .subscribe .. => .done (.subscribed (.error (.validation .subscribeInTransaction)))

/-- The statements of a program that puts requests to the handle of a transaction. -/
def ofProgram (now : Instant) : Program α → Dialogue Statement Statement.Reply (Result α)
  | .done result => .done result
  | .ask q next => ofRequest now q >>= fun answer => ofProgram now (next answer)

variable {s : Session} {k i : Nat}

theorem link_setLink (hi : i < s.pools.length) (l : Link) : (s.setLink i l).link i = l := by
  simp [Session.setLink, Session.link, hi]

@[simp] theorem setLink_setLink (l l' : Link) :
    (s.setLink i l).setLink i l' = s.setLink i l' := by
  simp [Session.setLink, List.set_set]

/-- A request to the handle of a transaction does to the pool's server what its statements do. -/
theorem serve_eq (hk : (s.client k).endpoint = .pool i) (hi : i < s.pools.length) (c : Connection)
    (q : Request) (l : Link) :
    q.serve ⟨k, some c⟩ (s.setLink i l) =
      (((ofRequest s.clock q).run (Server.answer c) l.server).1,
        s.setLink i
          { l with server := ((ofRequest s.clock q).run (Server.answer c) l.server).2 }) := by
  have hk' : ((s.setLink i l).client k).endpoint = .pool i := hk
  have hperform (op : Operation) {β : Type} (read : op.Answer → Result β) :
      (⟨k, some c⟩ : Scope).perform (.single op read) (s.setLink i l) =
        ((((ofOperation s.clock op).run.run (Server.answer c) l.server).1).bind read,
          s.setLink i { l with
            server := ((ofOperation s.clock op).run.run (Server.answer c) l.server).2 }) := by
    simp only [Scope.perform, Scope.backend, hk']
    show (((((s.setLink i l).link i).exchange c (ofOperation s.clock op)).1).bind read,
      (s.setLink i l).setLink i
        (((s.setLink i l).link i).exchange c (ofOperation s.clock op)).2) = _
    rw [link_setLink hi, setLink_setLink]
    rfl
  cases q with
  | operate op =>
      have hread (reply : op.Reply) : reply.bind .ok = reply := by cases reply <;> rfl
      simp only [Request.serve, Request.step, Session.run, Plan.operation, hperform, ofRequest,
        run_map, hread]
  | getText key =>
      simp only [Request.serve, Request.step, Session.run, Plan.getText, hperform, ofRequest,
        run_map]
  | increment | transaction | subscribe => exact Request.serve_refused rfl _

theorem program_run (hk : (s.client k).endpoint = .pool i) (hi : i < s.pools.length)
    (c : Connection) (program : Program α) (l : Link) :
    program.run (Request.serve ⟨k, some c⟩) (s.setLink i l) =
      (((ofProgram s.clock program).run (Server.answer c) l.server).1,
        s.setLink i
          { l with server := ((ofProgram s.clock program).run (Server.answer c) l.server).2 }) := by
  induction program generalizing l with
  | done result => rfl
  | ask q next ih =>
      rw [run_ask, serve_eq hk hi, ofProgram, run_bind]
      exact ih _ { l with server := _ }

/-- A program of a session runs as its statements. -/
theorem transact_eq (hk : (s.client k).endpoint = .pool i) (hi : i < s.pools.length)
    (program : Program α) :
    (Scope.outside k).transact program s =
      ((transact (ofProgram s.clock program) (s.link i)).1,
        s.setLink i (transact (ofProgram s.clock program) (s.link i)).2) := by
  have hbegin : ((Scope.outside k).backend s).begin s =
      ((s.link i).begin.1, s.setLink i (s.link i).begin.2) := by
    simp only [Scope.backend, Scope.outside, hk]
    rfl
  rw [Scope.transact, hbegin, transact]
  rcases (s.link i).begin with ⟨result, started⟩
  cases result with
  | error e => rfl
  | ok c =>
      simp only [Scope.outside, program_run hk hi, Scope.backend, hk, Session.backend,
        through_finish, link_setLink hi, setLink_setLink]

end Session

/-! ## What becomes of transactions -/

open Session in
/-- Every transaction on a server, whatever the server accepts and refuses, is either not started
and runs nothing of its body, or sends the statements of its body between the start and one end,
which is the commit exactly if the body succeeds; it succeeds only if the commit is accepted, and
fails with the error of its body if that fails. This holds of a body of operations at any readings
of the clock, and of a program that puts requests to the handle of a session's transaction. What a
command does in a transaction sends nothing more after one of its statements has failed. -/
theorem transaction_ends :
    (∀ (α : Type) (body : Body α) (given : Instant) (l : Link) (clock : Nat → Instant),
      Transacts (statements clock body.run) l
        (Link.backend.ticking.transaction given body (l, clock)).1
        (Link.backend.ticking.transaction given body (l, clock)).2.1) ∧
    (∀ (α : Type) (program : Program α) (s : Session) (k i : Nat),
      (s.client k).endpoint = .pool i → i < s.pools.length →
      Transacts (ofProgram s.clock program) (s.link i) ((Scope.outside k).transact program s).1
        (((Scope.outside k).transact program s).2.link i)) ∧
    ∀ (command : Command) (body : Body command.Answer), command.plan = .atomic body →
      ∀ (clock : Nat → Instant) (c : Connection) (server : Server) (st : Statement)
        (e : CacheError) (before later : List ((_ : Statement) × Result Rows)),
        (statements clock body.run).transcript (Server.answer c) server =
          before ++ ⟨st, .error e⟩ :: later → later = [] := by
  refine ⟨?_, ?_, ?_⟩
  · intro α body given l clock
    obtain ⟨rest, heq⟩ := transaction_eq body given l clock
    rw [heq]
    exact transacts _ l
  · intro α program s k i hk hi
    rw [transact_eq hk hi, link_setLink hi]
    exact transacts _ _
  · intro command body hplan clock c server st e before later hsaid
    obtain rfl : e = .store .statementFailed :=
      server.eq_of_said_error c (by rw [hsaid]; exact List.mem_append_right _ List.mem_cons_self)
    exact (stops_statements (stops_plan hplan) clock).eq_nil_of_failure hsaid

/-- A server that accepts one statement of a body and refuses the next one. -/
def refusing : Link := { server := { replies := [.rows [] none, .failure] } }

/-- A session with a client that works on the server. -/
def refusingSession : Session where
  clock := ⟨0⟩
  config := {}
  location := none
  pools := [refusing.pool]
  server := some refusing.server
  clients := [⟨.pool 0, {}, none⟩]

/-- Of the statements for three fields two are sent, and then the rollback. A program that goes on
after the failure sends the third one as well, and the commit. -/
theorem transaction_ends_refusing :
    let command := Command.hset "h" ["a", "1", "b", "2", "c", "3"]
    let body : Body Int := do
      Command.setFields "h" [("a", "1"), ("b", "2"), ("c", "3")]
      return 3
    let program : Session.Program Unit :=
      .ask (.operate (.setField "h" "a" "1")) fun _ =>
      .ask (.operate (.setField "h" "b" "2")) fun _ =>
      .ask (.operate (.setField "h" "c" "3")) fun _ => .done (.ok ())
    let stopped := Link.backend.ticking.transaction ⟨0⟩ body (refusing, fun _ => ⟨0⟩)
    let carriedOn := (Session.Scope.outside 0).transact program refusingSession
    (command.plan = .atomic body ∧ stopped.1 = .error (.store .statementFailed) ∧
      ∃ inTransaction first second, Sends refusing.server stopped.2.1.server
        [.control inTransaction startTransaction, ⟨true, first⟩, ⟨true, second⟩,
          .control true "ROLLBACK"]) ∧
    carriedOn.1 = .ok () ∧
      ∃ inTransaction first second third, Sends refusing.server (carriedOn.2.link 0).server
        [.control inTransaction startTransaction, ⟨true, first⟩, ⟨true, second⟩, ⟨true, third⟩,
          .control true "COMMIT"] := by
  intro command body program stopped carriedOn
  have hplan : command.plan = .atomic body := rfl
  have hbegin : refusing.begin = (.ok ⟨true⟩, refusing.begin.2) := rfl
  obtain ⟨hbodies, hprograms, hstops⟩ := transaction_ends
  have ends : Transacts (statements (fun _ => ⟨0⟩) body.run) refusing stopped.1 stopped.2.1 :=
    hbodies Int body ⟨0⟩ refusing fun _ => ⟨0⟩
  have endsOn : Transacts (ofProgram ⟨0⟩ program) refusing carriedOn.1 (carriedOn.2.link 0) :=
    hprograms Unit program refusingSession 0 0 rfl (by decide)
  refine ⟨⟨hplan, ends.fails ⟨true⟩ _ _ hbegin rfl, ?_⟩, ?_, ?_⟩
  · obtain ⟨first, second, later, hsaid⟩ : ∃ first second later,
        (statements (fun _ => ⟨0⟩) body.run).transcript (Server.answer ⟨true⟩)
          refusing.begin.2.server = [⟨first, .ok ⟨[], 0⟩⟩] ++
            ⟨second, .error (.store .statementFailed)⟩ :: later := ⟨_, _, _, rfl⟩
    have hlater : later = [] := hstops command body hplan _ _ _ _ _ _ _ hsaid
    obtain ⟨inTransaction, hsent⟩ := ends.started ⟨true⟩ _ hbegin
    rw [hsaid, hlater] at hsent
    exact ⟨inTransaction, first, second, hsent⟩
  · exact (endsOn.succeeds ⟨true⟩ _ () hbegin).mpr ⟨rfl, rfl⟩
  · obtain ⟨inTransaction, hsent⟩ := endsOn.started ⟨true⟩ _ hbegin
    exact ⟨inTransaction, _, _, _, hsent⟩

end SqlCache.Postgres
