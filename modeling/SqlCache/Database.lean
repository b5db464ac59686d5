import SqlCache.Backend
import SqlCache.Store.Live
import SqlCache.Store.Log
import SqlCache.Store.Purge

/-!
A database that several connections share. There is one writer at a time: a transaction takes the
writer's lock when it begins and works on a draft, which `commit` makes the committed store and
`rollback` drops. Everybody else reads the committed store and is refused to write meanwhile.

The connections to an in-memory database share their pages, so a reader is also kept away from the
tables that the draft has written. A database that can only be read refuses everything that writes.

Where connections share nothing, a transaction runs on a database of its own. It finds no tables
there and leaves this database alone.
-/

set_option autoImplicit false

namespace SqlCache

/-- What an open transaction has made of the store, and the tables it has written. -/
structure Draft where
  store : Store
  touched : List Store.Table

/-- How the connections to a database share it. -/
inductive Sharing where
  /-- Through a file. -/
  | file
  /-- Through pages in memory. -/
  | pages
  /-- Not at all: every connection has an empty database of its own. -/
  | nothing
  deriving DecidableEq, Repr

/-- A database with at most one transaction open. -/
structure Database where
  committed : Store
  draft : Option Draft := none
  sharing : Sharing
  isReadOnly : Bool := false

namespace Operation

/-- Does the operation need the writer's lock, also when it would change nothing? -/
def isWrite : Operation → Bool
  | set .. | delete .. | setField .. | deleteField .. | setNx .. | expire .. | publish .. => true
  | getBytes .. | count .. | getField .. | getFields .. | scan .. | ttl .. | lock .. => false

/-- The table the operation works on, if it works on one. -/
def table? : Operation → Option Store.Table
  | set .. | getBytes .. | delete .. | count .. | setNx .. | expire .. | ttl .. => some .scalars
  | setField .. | getField .. | deleteField .. | getFields .. | scan .. => some .fields
  | publish .. => some .messages
  | lock .. => none

/-- How many variables a statement can number. -/
def mostVariables : Nat := 32766

/-- The statement that counts keys, each bound to a variable; the clock is the first. -/
def countStatement (keys : Nat) : String :=
  "SELECT COUNT(*) FROM cache_kvs WHERE expire_at > ?1 AND cache_key IN (" ++
    ", ".intercalate ((List.range keys).map fun i => "?" ++ toString (i + 2)) ++ ")"

/-- Where the first variable stands that cannot be numbered any more. -/
def excessOffset : Nat := (countStatement (mostVariables - 1)).utf8ByteSize + 1

/-- Why the database refuses an operation before it looks at any table. -/
def refusal? : Operation → Option CacheError
  | scan _ cursor _ size => (scanFault? cursor size).map .validation
  | count keys =>
    let bound := (distinct keys).length
    if mostVariables ≤ bound then
      some (.store (.tooManyVariables (countStatement bound) excessOffset))
    else none
  | _ => none

end Operation

namespace PubSub.LogCall

/-- The table the call works on. -/
def table : LogCall → Store.Table
  | fetchAfter .. => .messages
  | attach .. | advance .. | detach .. => .cursors

end PubSub.LogCall

namespace Reaper.PurgeCall

/-- The table the purge works on. -/
def table : PurgeCall → Store.Table
  | expired .. => .scalars
  | messages .. => .messages

end Reaper.PurgeCall

namespace Database

variable (d : Database)

/-- A database without rows. -/
def empty (sharing : Sharing) : Database where
  committed := .empty
  sharing

/-- Do its connections share their pages? -/
def sharesPages : Bool := decide (d.sharing = .pages)

/-- What a writer is told while a transaction is open. -/
def lockFault : StoreFault := if d.sharesPages then .sharedLocked else .locked

/-- Why somebody outside the open transaction cannot work on a table now. -/
def conflict? (writes : Bool) (table : Option Store.Table) : Option StoreFault :=
  match d.draft with
  | none => none
  | some draft =>
    if writes then some d.lockFault
    else if d.sharesPages then (table.filter (· ∈ draft.touched)).map fun t => .tableLocked t.name
    else none

/-- Why something that writes is refused, whoever asks for it. -/
def writeFault? (writes : Bool) : Option StoreFault :=
  if writes && d.isReadOnly then some .readOnly else none

/-- Why a transaction cannot work on a table, if it is on a database of its own. -/
def absence? (table : Option Store.Table) : Option StoreFault :=
  match d.draft, d.sharing with
  | none, .nothing => table.map fun t => .noTable t.name
  | _, _ => none

/-- Work on the committed store, unless the open transaction is in the way. -/
def direct {α : Type} (writes : Bool) (table : Option Store.Table)
    (work : Store → Result α × Store) : Result α × Database :=
  match d.writeFault? writes <|> d.conflict? writes table with
  | some fault => (.error (.store fault), d)
  | none =>
    let (r, s) := work d.committed
    (r, { d with committed := s })

/-- An operation outside of transactions. -/
def apply (now : Instant) (op : Operation) : op.Reply × Database :=
  match op.refusal? with
  | some e => (.error e, d)
  | none => d.direct op.isWrite op.table? fun s => s.apply now op

/-- A call on the message log. -/
def applyLog (now : Instant) (call : PubSub.LogCall) : call.Reply × Database :=
  d.direct call.isWrite (some call.table) fun s => s.applyLog now call

/-- A purge. -/
def applyPurge (call : Reaper.PurgeCall) : call.Reply × Database :=
  d.direct true (some call.table) fun s => s.applyPurge call

/-- Take the writer's lock and open a transaction. Where connections share nothing, the lock that it
takes is not the one of this database. -/
def begin : Result Unit × Database :=
  match d.draft, d.sharing with
  | some _, _ => (.error (.store d.lockFault), d)
  | none, .nothing => (.ok (), d)
  | none, _ => (.ok (), { d with draft := some ⟨d.committed, []⟩ })

/-- An operation inside the open transaction. -/
def applyInside (now : Instant) (op : Operation) : op.Reply × Database :=
  match d.draft, op.refusal? <|>
      (d.absence? op.table? <|> d.writeFault? op.isWrite).map .store with
  | _, some e => (.error e, d)
  | none, none => d.apply now op
  | some draft, none =>
    let (r, s) := draft.store.apply now op
    let touched := if op.isWrite then op.table?.toList ++ draft.touched else draft.touched
    (r, { d with draft := some ⟨s, touched⟩ })

/-- End the open transaction and keep its draft. -/
def commit : Database :=
  { d with committed := (d.draft.map Draft.store).getD d.committed, draft := none }

/-- End the open transaction and drop its draft. -/
def rollback : Database := { d with draft := none }

/-- A database as a kind of store. Nothing is held for a client outside of transactions. -/
def backend : Backend Database where
  operate now op d := d.apply now op
  begin d :=
    let (r, d) := d.begin
    (r.map fun _ => ⟨true⟩, d)
  within now _ op d := d.applyInside now op
  commit _ d := (.ok (), d.commit)
  rollback _ d := d.rollback
  log now call d := d.applyLog now call
  purge call d := d.applyPurge call
  close d := d

end Database

end SqlCache
