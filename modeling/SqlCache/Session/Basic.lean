import SqlCache.Command
import SqlCache.Config.Basic
import SqlCache.Database
import SqlCache.Database.Location
import SqlCache.Postgres.Server
import SqlCache.PubSub.Poller

/-!
A session: clients that live side by side, the databases and the server they work on, their
subscriptions and a clock that stands still unless it is set. Every client is a kind of store on the
state of the whole session (`Session.backend`), so that what clients do to each other is a matter of
the databases they share.
-/

set_option autoImplicit false

namespace SqlCache

/-- What a client keeps its data in: a database, or a pool of connections to the server. -/
inductive Endpoint where
  | database (index : Nat)
  | pool (index : Nat)
  deriving DecidableEq, Repr

/-- A client. -/
structure Client where
  endpoint : Endpoint
  /-- How its subscriptions poll. -/
  pubsub : PubSubSettings
  /-- How its reaper runs, if it has one. -/
  reaper : Option ReaperSettings

/-- A subscription under a name. -/
structure Subscription where
  name : String
  endpoint : Endpoint
  poller : PubSub.Poller

/-- The state of a session. The first database is the one in the configured file. -/
structure Session where
  clock : Instant
  config : Config
  /-- Where the configured database lies, if it can be opened. -/
  location : Option Location
  databases : List Database := [.empty .file]
  pools : List Postgres.Pool := []
  server : Option Postgres.Server := none
  clients : List Client := []
  /-- The registered client. -/
  registered : Option Nat := none
  subscriptions : List Subscription := []
  /-- How many subscriber ids have been made up. -/
  madeUp : Nat := 0

namespace Session

/-- A session without clients. One that has a server works on it. -/
def start (clock : Instant) (config : Config) (server : Option Postgres.Server) : Session where
  clock
  config := if server.isSome then { config with backend := .postgres } else config
  location := Location.inDirectory? config.sqlite.path
  server

/-- A database of the session. -/
def database (s : Session) (index : Nat) : Database := s.databases.getD index (.empty .file)

/-- Change a database of the session. -/
def setDatabase (index : Nat) (d : Database) (s : Session) : Session :=
  { s with databases := s.databases.set index d }

/-- A pool of the session with the server it leads to. -/
def link (s : Session) (index : Nat) : Postgres.Link :=
  ⟨s.pools.getD index {}, s.server.getD {}⟩

/-- Change a pool of the session and the server. -/
def setLink (index : Nat) (l : Postgres.Link) (s : Session) : Session :=
  { s with pools := s.pools.set index l.pool, server := some l.server }

/-- What a client keeps its data in, as a kind of store on the session. -/
def backend : Endpoint → Backend Session
  | .database index => Database.backend.through (·.database index) (setDatabase index)
  | .pool index => Postgres.Link.backend.through (·.link index) (setLink index)

/-- A client of the session. -/
def client (s : Session) (index : Nat) : Client :=
  s.clients.getD index ⟨.database 0, s.config.pubsub, none⟩

/-- Change a client of the session. -/
def setClient (index : Nat) (c : Client) (s : Session) : Session :=
  { s with clients := s.clients.set index c }

/-- The statements that reached the server since this was asked last. -/
def takeRecord (s : Session) : List Postgres.Sent × Session :=
  match s.server with
  | none => ([], s)
  | some server =>
    let (sent, server) := server.takeRecord
    (sent, { s with server := some server })

/-- The committed rows of the configured file. -/
def committed (s : Session) : Store := (s.database 0).committed

/-- Change the committed rows of the configured file. -/
def setCommitted (store : Store) (s : Session) : Session :=
  s.setDatabase 0 { s.database 0 with committed := store }

end Session

end SqlCache
