import SqlCache.Command
import SqlCache.Postgres.Server
import SqlCache.Proofs.Backend.Clock
import SqlCache.Proofs.Counter.Stage
import SqlCache.Proofs.Dialogue.Transcript

/-!
Bodies of transactions as statements for a server. The operations of a body become the statements
behind them, one after the other (`statements`); the server records what it is sent in this order
(`record_run`). The bodies of commands stop at the first statement that fails (`stops_plan`).
-/

set_option autoImplicit false

namespace SqlCache.Postgres

open Dialogue

variable {α β : Type}

/-! ## What the server records -/

namespace Server

variable (s : Server) (c : Connection)

theorem answer_record (st : Statement) :
    (s.answer c st).2.record = ⟨c.inTransaction, st⟩ :: s.record := by
  simp only [answer]
  split <;> rfl

theorem control_record (sql : String) :
    (s.control c sql).2.record = ⟨c.inTransaction, ⟨sql, none⟩⟩ :: s.record := by
  simp only [control]
  split <;> rfl

/-- A statement fails with one error. -/
theorem eq_of_answer_error {st : Statement} {e : CacheError} (h : (s.answer c st).1 = .error e) :
    e = .store .statementFailed := by
  simp only [answer] at h
  split at h
  · cases h
  · cases h
  · cases h
    rfl

/-- The server records the statements of a run, the latest first. -/
theorem record_run (d : Dialogue Statement Statement.Reply α) :
    (d.run (answer c) s).2.record =
      ((d.transcript (answer c) s).map fun said => ⟨c.inTransaction, said.1⟩).reverse ++
        s.record := by
  induction d generalizing s with
  | done a => rfl
  | ask st next ih =>
      rw [run_ask, ih, answer_record, transcript, List.map_cons, List.reverse_cons,
        List.append_assoc, List.singleton_append]

/-- Whatever is sent in a run, it fails with one error. -/
theorem eq_of_said_error {d : Dialogue Statement Statement.Reply α} {st : Statement}
    {e : CacheError} (h : ⟨st, .error e⟩ ∈ d.transcript (answer c) s) :
    e = .store .statementFailed := by
  induction d generalizing s with
  | done a => simp [transcript] at h
  | ask first next ih =>
      rcases List.mem_cons.mp h with hfirst | hlater
      · obtain ⟨rfl, hanswer⟩ := Sigma.mk.inj hfirst
        exact s.eq_of_answer_error c (eq_of_heq hanswer).symm
      · exact ih _ _ hlater

end Server

/-! ## Statements that stop -/

namespace Exchange

theorem stops_pure (a : α) : Stops (pure a : Exchange α).run := .done (.ok a)

theorem stops_throw (e : CacheError) : Stops (throw e : Exchange α).run := .done (.error e)

theorem stops_send (sql : String) (params : List Param) : Stops (send sql params).run :=
  .question _

theorem stops_execute (sql : String) (params : List Param) : Stops (execute sql params).run :=
  (stops_send sql params).bind fun _ => stops_pure _

theorem stops_query (sql : String) (params : List Param) : Stops (query sql params).run :=
  (stops_send sql params).bind fun _ => stops_pure _

theorem stops_queryOne (sql : String) (params : List Param) : Stops (queryOne sql params).run := by
  refine (stops_query sql params).bind fun rows => ?_
  split
  · exact stops_pure _
  · exact stops_throw _

theorem stops_queryOption (sql : String) (params : List Param) :
    Stops (queryOption sql params).run := by
  refine (stops_query sql params).bind fun rows => ?_
  split
  · exact stops_pure _
  · exact stops_pure _
  · exact stops_throw _

end Exchange

open Exchange

/-- The statement of an operation is the last one if it fails. -/
theorem stops_ofOperation (now : Instant) (op : Operation) : Stops (ofOperation now op).run := by
  cases op with
  | set | publish | setField | lock => exact (stops_execute _ _).bind fun _ => stops_pure _
  | delete => exact (stops_query _ _).bind fun _ => stops_pure _
  | deleteField | setNx | expire => exact (stops_execute _ _).bind fun _ => stops_pure _
  | getBytes | getField | ttl =>
      refine (stops_queryOption _ _).bind fun row => ?_
      split
      · exact stops_pure _
      · exact stops_throw _
  | getFields =>
      refine (stops_query _ _).bind fun rows => ?_
      split
      · exact stops_throw _
      · exact stops_pure _
  | count keys =>
      show Stops (count now keys).run
      unfold count
      split
      · exact (stops_queryOne _ _).bind fun _ => stops_pure _
      · exact (stops_queryOne _ _).bind fun _ => stops_pure _
  | scan key cursor pattern size =>
      show Stops (scan key cursor pattern size).run
      unfold scan
      cases Operation.scanFault? cursor size with
      | some fault => exact stops_throw _
      | none => exact (stops_query _ _).bind fun rows => stops_pure _

/-! ## Scripts as statements -/

/-- A script of operations as statements, with a new reading of the clock for every operation. -/
def statements (clock : Nat → Instant) : Script α → Dialogue Statement Statement.Reply α
  | .done a => .done a
  | .ask op next => (ofOperation (clock 0) op).run >>= fun reply =>
      statements (fun n => clock (n + 1)) (next reply)

/-- A script that runs in a transaction sends its statements. -/
theorem run_statements (given : Instant) (c : Connection) (script : Script α) (l : Link)
    (clock : Nat → Instant) : ∃ rest, script.run (Link.backend.ticking.within given c) (l, clock) =
      (((statements clock script).run (Server.answer c) l.server).1,
        { l with server := ((statements clock script).run (Server.answer c) l.server).2 },
        rest) := by
  induction script generalizing l clock with
  | done a => exact ⟨clock, rfl⟩
  | ask op next ih =>
      rw [statements, run_bind]
      exact ih _ { l with server := _ } _

/-- A script that stops at the operation that fails stops at its statement. -/
theorem stops_statements {script : Script (Result α)} (h : Stops script) (clock : Nat → Instant) :
    Stops (statements clock script) := by
  induction h generalizing clock with
  | done result => exact .done result
  | @ask op next failed goesOn ih =>
      refine (stops_ofOperation _ op).andThen (fun reply => ih reply _) fun fault => ?_
      rw [failed fault]
      rfl

/-! ## The bodies of commands -/

theorem stops_call (op : Operation) : Stops (Body.call op).run := .question op

theorem stops_setFields (key : String) (pairs : List (String × String)) :
    Stops (Command.setFields key pairs).run := by
  induction pairs with
  | nil => exact .done _
  | cons pair pairs ih => exact (stops_call _).bind fun _ => ih

theorem stops_deleteKeys (keys : List String) : Stops (Command.deleteKeys keys).run := by
  induction keys with
  | nil => exact .done _
  | cons key keys ih => exact (stops_call _).bind fun n => ih.bind fun m => .done _

theorem stops_adding (key : String) (delta value : Int) (remaining : Option Duration) :
    Stops (Counter.adding key delta value remaining) := by
  unfold Counter.adding
  split
  · refine .ask (fun _ => rfl) fun reply => ?_
    cases reply <;> exact .done _
  · exact .done _

/-- An increment stops at a statement that fails; that the key is not found is no failure. -/
theorem stops_increment (key : String) (delta : Int) : Stops (Counter.body key delta).run := by
  rw [Counter.body_run]
  refine .ask (fun _ => rfl) fun locked => ?_
  cases locked with
  | error e => exact .done _
  | ok u =>
      refine .ask (fun _ => rfl) fun found => ?_
      unfold Counter.found
      split
      · split
        · refine .ask (fun _ => rfl) fun measured => ?_
          cases measured with
          | error e => exact .done _
          | ok remaining => exact stops_adding key delta _ remaining
        · exact .done _
        · exact .done _
      · exact stops_adding key delta 0 none
      · exact .done _

/-- What a command does in a transaction stops at the first statement that fails. -/
theorem stops_plan {command : Command} {body : Body command.Answer}
    (h : command.plan = .atomic body) : Stops body.run := by
  cases command with
  | incr key | incrBy key =>
      cases h
      exact stops_increment key _
  | hset key values =>
      simp only [Command.plan] at h
      split at h
      · cases h
      · cases h
        exact (stops_setFields key _).bind fun _ => .done _
  | del keys =>
      simp only [Command.plan] at h
      split at h
      · cases h
      · cases h
        exact stops_deleteKeys keys
  | set | get | hgetAll | expire | lindex | lpush | rpush | lset | lpop | lrange => cases h
  | present keys =>
      simp only [Command.plan] at h
      split at h <;> cases h

end SqlCache.Postgres
