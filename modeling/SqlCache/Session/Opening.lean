import SqlCache.Session.Basic

/-!
Opening clients. A client is opened on a database or on the server, as its configuration says or as
its caller does; one opened as configured may start its reaper at once.
-/

set_option autoImplicit false

namespace SqlCache

/-- Why a client cannot be opened. -/
inductive OpenFault where
  /-- Its file or its server cannot be reached or set up. -/
  | unreachable
  /-- Something failed after it was reached. -/
  | failed (error : CacheError)
  deriving DecidableEq, Repr

/-- How a client is opened. -/
inductive Opening where
  /-- On the configured database, whatever backend is configured. -/
  | database
  /-- On the server, whatever backend is configured. -/
  | server
  /-- On the configured backend, with or without a reaper. -/
  | backend (reaping : Bool)
  /-- On the configured backend, with a reaper if that is configured. -/
  | connected
  deriving DecidableEq, Repr

/-- The longest a writer can wait for its lock, in milliseconds. -/
def SqliteSettings.longestTimeoutMs : Nat := 2147483647

namespace Session

/-- Open a client on one more database. -/
def addDatabase (sharing : Sharing) (pubsub : PubSubSettings) (s : Session) : Client × Session :=
  (⟨.database s.databases.length, pubsub, none⟩,
    { s with databases := s.databases ++ [.empty sharing] })

/-- Open a client on a database. Those that are not in the file are separate from each other. -/
def openDatabase (settings : SqliteSettings) (pubsub : PubSubSettings) (s : Session) :
    Except OpenFault Client × Session :=
  match s.location with
  | none => (.error .unreachable, s)
  | some location =>
    if SqliteSettings.longestTimeoutMs < settings.busyTimeoutMs then
      (.error (.failed (.store .connectionClosed)), s)
    else
      match location with
      | .file .. => (.ok ⟨.database 0, pubsub, none⟩, s)
      | .memory => (s.addDatabase .pages pubsub).map .ok id
      | .temporary => (s.addDatabase .nothing pubsub).map .ok id

/-- Open a client on the server. -/
def openPool (pubsub : PubSubSettings) (s : Session) : Except OpenFault Client × Session :=
  match s.server with
  | none => (.error .unreachable, s)
  | some _ =>
    let index := s.pools.length
    let s := { s with pools := s.pools ++ [Postgres.Pool.mk [] false] }
    match (s.link index).connect with
    | (.error _, l) => (.error .unreachable, s.setLink index l)
    | (.ok (), l) => (.ok ⟨.pool index, pubsub, none⟩, s.setLink index l)

/-- Open a client on the configured backend. -/
def openBackend (reaping : Bool) (s : Session) : Except OpenFault Client × Session :=
  let config := s.config
  let (r, s) := match config.backend with
    | .sqlite => s.openDatabase config.sqlite config.pubsub
    | .postgres => s.openPool config.pubsub
  (r.map fun c => { c with reaper := if reaping then some config.reaper else none }, s)

/-- Open a client. -/
def openClient (opening : Opening) (s : Session) : Except OpenFault Client × Session :=
  match opening with
  | .database => s.openDatabase s.config.sqlite s.config.pubsub
  | .server => s.openPool s.config.pubsub
  | .backend reaping => s.openBackend reaping
  | .connected => s.openBackend s.config.reaper.enabled

/-- Open as many clients, up to the first that cannot be opened. -/
def openClients (opening : Opening) : (number : Nat) → Session → Except OpenFault Session
  | 0, s => .ok s
  | number + 1, s =>
    match s.openClient opening with
    | (.error fault, _) => .error fault
    | (.ok c, s) => openClients opening number { s with clients := s.clients ++ [c] }

end Session

end SqlCache
