import SqlCache.Backend
import SqlCache.Postgres.Exchange

/-!
A pool of connections to a server, and a server that answers from a script and keeps no data. The
server records every statement with whether a transaction was open on its connection. Main
definition: `Link.backend`, the kind of store that a pool and its server are.

Connections wait in the pool in the order in which they were given back. A transaction keeps its
connection until it ends, and a connection on which a transaction could not be ended goes back to
the pool with the transaction still open.
-/

set_option autoImplicit false

namespace SqlCache.Postgres

/-- A scripted answer. -/
inductive Scripted where
  /-- Rows, and how many rows the statement concerned, by default as many. -/
  | rows (rows : List Row) (affected : Option Nat)
  /-- An error. -/
  | failure

/-- A statement that reached the server. -/
structure Sent where
  inTransaction : Bool
  statement : Statement

/-- A server that answers from a script. -/
structure Server where
  /-- The answers to statements with placeholders, in order; afterwards there are no rows. -/
  replies : List Scripted := []
  /-- Beginnings of statements without placeholders that are refused, each once. -/
  refusals : List String := []
  /-- What was sent, the latest first. -/
  record : List Sent := []

namespace Server

/-- Replace the script of answers, if a new one is given, and add refusals to those there are. -/
def rescript (s : Server) (replies : Option (List Scripted)) (refusals : Option (List String)) :
    Server :=
  { s with replies := replies.getD s.replies, refusals := s.refusals ++ refusals.getD [] }

/-- Record a statement. -/
def note (s : Server) (c : Connection) (st : Statement) : Server :=
  { s with record := ⟨c.inTransaction, st⟩ :: s.record }

/-- Answer a statement with placeholders. -/
def answer (c : Connection) (st : Statement) (s : Server) : Result Rows × Server :=
  let s := s.note c st
  match s.replies with
  | [] => (.ok ⟨[], 0⟩, s)
  | .rows rows affected :: replies => (.ok ⟨rows, affected.getD rows.length⟩, { s with replies })
  | .failure :: replies => (.error (.store .statementFailed), { s with replies })

/-- Answer a statement without placeholders. -/
def control (c : Connection) (sql : String) (s : Server) : Result Unit × Server :=
  let s := s.note c ⟨sql, none⟩
  match s.refusals.find? fun p => p.toList.isPrefixOf sql.toList with
  | some p => (.error (.store .statementFailed), { s with refusals := s.refusals.erase p })
  | none => (.ok (), s)

/-- The statements sent since this was asked last, in order. -/
def takeRecord (s : Server) : List Sent × Server :=
  (s.record.reverse, { s with record := [] })

end Server

/-- A pool of connections. -/
structure Pool where
  /-- The connections that wait, in the order in which they came back. -/
  idle : List Connection := []
  isClosed : Bool := false

namespace Pool

/-- Take the connection that has waited longest, or a new one. -/
def take (p : Pool) : Result Connection × Pool :=
  if p.isClosed then (.error (.store .poolClosed), p)
  else
    match p.idle with
    | [] => (.ok ⟨false⟩, p)
    | c :: idle => (.ok c, { p with idle })

/-- Give a connection back. -/
def give (p : Pool) (c : Connection) : Pool :=
  if p.isClosed then p else { p with idle := p.idle ++ [c] }

/-- Close the pool and all connections in it. -/
def close (_ : Pool) : Pool := ⟨[], true⟩

end Pool

/-- A pool and the server its connections lead to. -/
structure Link where
  pool : Pool := {}
  server : Server := {}

namespace Link

variable {α : Type}

/-- Run an exchange on a connection. -/
def exchange (c : Connection) (e : Exchange α) (l : Link) : Result α × Link :=
  let (r, server) := e.run.run (Server.answer c) l.server
  (r, { l with server })

/-- Run an exchange on a connection of the pool. -/
def pooled (e : Exchange α) (l : Link) : Result α × Link :=
  match l.pool.take with
  | (.error e, pool) => (.error e, { l with pool })
  | (.ok c, pool) =>
    let (r, l) := exchange c e { l with pool }
    (r, { l with pool := l.pool.give c })

/-- Make the tables. -/
def connect (l : Link) : Result Unit × Link :=
  match l.pool.take with
  | (.error e, pool) => (.error e, { l with pool })
  | (.ok c, pool) =>
    let (r, server) := l.server.control c schema
    (r, ⟨pool.give c, server⟩)

/-- Open a transaction. If that is refused, a rollback is sent for good measure. -/
def begin (l : Link) : Result Connection × Link :=
  match l.pool.take with
  | (.error e, pool) => (.error e, { l with pool })
  | (.ok c, pool) =>
    match l.server.control c startTransaction with
    | (.ok (), server) => (.ok ⟨true⟩, ⟨pool, server⟩)
    | (.error e, server) =>
      match server.control c "ROLLBACK" with
      | (.ok (), server) => (.error e, ⟨pool.give ⟨false⟩, server⟩)
      | (.error _, server) => (.error e, ⟨pool.give c, server⟩)

/-- End a transaction with a statement and give its connection back. -/
def finish (sql : String) (c : Connection) (l : Link) : Result Unit × Link :=
  match l.server.control c sql with
  | (.ok (), server) => (.ok (), ⟨l.pool.give ⟨false⟩, server⟩)
  | (.error e, server) => (.error e, ⟨l.pool.give c, server⟩)

/-- An operation outside of transactions. There is nothing to hold a key for there, so nothing is
sent for that. -/
def operate (now : Instant) (op : Operation) (l : Link) : op.Reply × Link :=
  match op with
  | .lock _ => (.ok (), l)
  | op => l.pooled (ofOperation now op)

/-- A pool and its server as a kind of store. -/
def backend : Backend Link where
  operate := operate
  begin := begin
  within now c op l := l.exchange c (ofOperation now op)
  commit c l := l.finish "COMMIT" c
  rollback c l := (l.finish "ROLLBACK" c).2
  log _ call l := l.pooled (ofLogCall call)
  purge call l := l.pooled (ofPurge call)
  close l := { l with pool := l.pool.close }

end Link

end SqlCache.Postgres
