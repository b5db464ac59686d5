/-!
The configuration of a cache, with the values that hold where nothing else is said.
-/

set_option autoImplicit false

namespace SqlCache

/-- The kinds of stores. -/
inductive BackendKind where
  | sqlite
  | postgres
  deriving DecidableEq, Repr

/-- Where a database file lies, and how long a writer waits for its lock. -/
structure SqliteSettings where
  path : String := "rowcache.db"
  busyTimeoutMs : Nat := 5000
  deriving DecidableEq, Repr

/-- How to reach a database server. -/
structure PostgresSettings where
  url : String := "postgres://localhost/rowcache"
  maxConnections : Nat := 20
  deriving DecidableEq, Repr

/-- How subscriptions poll: how often, how many messages at a time, and how many may wait for their
receiver. -/
structure PubSubSettings where
  pollIntervalMs : Nat := 100
  batchSize : Int := 10
  buffer : Nat := 100
  deriving DecidableEq, Repr

/-- When the reaper runs, and how old messages may become; an age of 0 keeps them for ever. -/
structure ReaperSettings where
  enabled : Bool := true
  initialDelaySecs : Nat := 300
  intervalSecs : Nat := 60
  messageRetentionSecs : Nat := 3600
  deriving DecidableEq, Repr

/-- How much is logged. -/
structure LoggingSettings where
  level : String := "info"
  deriving DecidableEq, Repr

/-- A whole configuration. -/
structure Config where
  backend : BackendKind := .sqlite
  sqlite : SqliteSettings := {}
  postgres : PostgresSettings := {}
  pubsub : PubSubSettings := {}
  reaper : ReaperSettings := {}
  logging : LoggingSettings := {}
  deriving DecidableEq, Repr

end SqlCache
