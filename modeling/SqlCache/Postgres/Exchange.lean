import SqlCache.Glob.Pattern
import SqlCache.Operation
import SqlCache.Postgres.Statement
import SqlCache.PubSub.Log
import SqlCache.Reaper.Pass
import SqlCache.Time.Expiry

/-!
The statements behind every operation, every call on the message log and every purge, and what is
made of the answers.
-/

set_option autoImplicit false

namespace SqlCache.Postgres

open Exchange

/-- The tables, made where they are missing. -/
def schema : String :=
  "CREATE TABLE IF NOT EXISTS cache_kvs ( cache_key TEXT PRIMARY KEY, " ++
  "cache_value BYTEA NOT NULL, expire_at TIMESTAMPTZ NOT NULL, " ++
  "created_at TIMESTAMPTZ NOT NULL DEFAULT NOW(), " ++
  "updated_at TIMESTAMPTZ NOT NULL DEFAULT NOW() ); " ++
  "CREATE INDEX IF NOT EXISTS idx_cache_kvs_expire_at ON cache_kvs(expire_at); " ++
  "CREATE TABLE IF NOT EXISTS cache_maps ( cache_key TEXT NOT NULL, " ++
  "cache_field TEXT NOT NULL, cache_value TEXT NOT NULL, " ++
  "created_at TIMESTAMPTZ NOT NULL DEFAULT NOW(), " ++
  "updated_at TIMESTAMPTZ NOT NULL DEFAULT NOW(), PRIMARY KEY (cache_key, cache_field) ); " ++
  "CREATE TABLE IF NOT EXISTS cache_messages ( id BIGSERIAL PRIMARY KEY, " ++
  "channel TEXT NOT NULL, message TEXT NOT NULL, " ++
  "created_at TIMESTAMPTZ NOT NULL DEFAULT NOW() ); " ++
  "CREATE INDEX IF NOT EXISTS idx_cache_messages_channel ON cache_messages(channel, id); " ++
  "CREATE TABLE IF NOT EXISTS cache_message_subscribes ( channel TEXT NOT NULL, " ++
  "subscriber TEXT NOT NULL, last_message_id BIGINT NOT NULL DEFAULT -1, " ++
  "created_at TIMESTAMPTZ NOT NULL DEFAULT NOW(), " ++
  "updated_at TIMESTAMPTZ NOT NULL DEFAULT NOW(), PRIMARY KEY (channel, subscriber) );"

/-- Opens a transaction in which every statement sees what was committed before it. -/
def startTransaction : String := "START TRANSACTION ISOLATION LEVEL READ COMMITTED"

/-- Write a key. -/
def set (now : Instant) (key : String) (value : ByteArray) (ttl : Duration) : Exchange Unit := do
  let _ ← execute
    ("INSERT INTO cache_kvs (cache_key, cache_value, expire_at, created_at, updated_at) " ++
      "VALUES ($1, $2, $3, $4, $4) ON CONFLICT (cache_key) DO UPDATE SET " ++
      "cache_value = EXCLUDED.cache_value, expire_at = EXCLUDED.expire_at, " ++
      "updated_at = EXCLUDED.updated_at")
    [.text key, .bytes value, .instant (now.expiry ttl), .instant now]

/-- The bytes of a live key. -/
def getBytes (now : Instant) (key : String) : Exchange ByteArray := do
  let row ← queryOption "SELECT cache_value FROM cache_kvs WHERE cache_key = $1 AND expire_at > $2"
    [.text key, .instant now]
  match row with
  | some row => return (row.column 0).toBytes
  | none => throw .notFound

/-- Remove a key, and count the removed rows that were live. -/
def delete (now : Instant) (key : String) : Exchange Nat := do
  let rows ← query "DELETE FROM cache_kvs WHERE cache_key = $1 RETURNING expire_at" [.text key]
  return rows.countP fun row => decide (now < (row.column 0).toInstant)

/-- How many of the keys are live, or how many live keys there are if none is named. -/
def count (now : Instant) (keys : List String) : Exchange Int := do
  let row ←
    if keys.isEmpty then
      queryOne "SELECT COUNT(*) FROM cache_kvs WHERE expire_at > $1" [.instant now]
    else
      queryOne "SELECT COUNT(*) FROM cache_kvs WHERE expire_at > $1 AND cache_key = ANY($2)"
        [.instant now, .texts (distinct keys)]
  return (row.column 0).toInt

/-- Write one field of a map. -/
def setField (now : Instant) (key field value : String) : Exchange Unit := do
  let _ ← execute
    ("INSERT INTO cache_maps (cache_key, cache_field, cache_value, created_at, updated_at) " ++
      "VALUES ($1, $2, $3, $4, $4) ON CONFLICT (cache_key, cache_field) DO UPDATE SET " ++
      "cache_value = EXCLUDED.cache_value, updated_at = EXCLUDED.updated_at")
    [.text key, .text field, .text value, .instant now]

/-- One field of a map. -/
def getField (key field : String) : Exchange String := do
  let row ← queryOption
    "SELECT cache_value FROM cache_maps WHERE cache_key = $1 AND cache_field = $2"
    [.text key, .text field]
  match row with
  | some row => return (row.column 0).toText
  | none => throw .notFound

/-- Remove one field of a map. The server counts rows in words of 64 bits, here read as signed. -/
def deleteField (key field : String) : Exchange Int := do
  let removed ← execute "DELETE FROM cache_maps WHERE cache_key = $1 AND cache_field = $2"
    [.text key, .text field]
  return Int.bmod removed UInt64.size

/-- Pairs ordered by their first parts, each of which stands once: of several, the last counts. -/
def sortedPairs (pairs : List (String × String)) : List (String × String) :=
  (Std.ExtTreeMap.ofList pairs).toList

/-- All fields of a map. -/
def getFields (key : String) : Exchange (List (String × String)) := do
  let rows ← query "SELECT cache_field, cache_value FROM cache_maps WHERE cache_key = $1"
    [.text key]
  if rows.isEmpty then throw .notFound
  else return sortedPairs (rows.map fun row => ((row.column 0).toText, (row.column 1).toText))

/-- One page of the matching fields of a map. -/
def scan (key : String) (cursor : Nat) (pattern : String) (size : Int) : Exchange Page := do
  match Operation.scanFault? cursor size with
  | some fault => throw (.validation fault)
  | none =>
    let pattern := Glob.Dialect.postgres.translate (Glob.orAll pattern)
    let rows ← query
      ("SELECT cache_key, cache_field, cache_value FROM cache_maps WHERE cache_key = $1 AND " ++
        Glob.Dialect.postgres.clause "cache_field" "$2" ++
        " ORDER BY cache_field LIMIT $3 OFFSET $4")
      [.text key, .text pattern, .int size, .int cursor]
    return Page.ofEntries cursor size (rows.map fun row =>
      ⟨(row.column 0).toText, (row.column 1).toText, (row.column 2).toText⟩)

/-- Write a key that is not live. -/
def setNx (now : Instant) (key : String) (value : ByteArray) (ttl : Duration) :
    Exchange Bool := do
  let written ← execute
    ("INSERT INTO cache_kvs (cache_key, cache_value, expire_at, created_at, updated_at) " ++
      "VALUES ($1, $2, $3, $4, $4) ON CONFLICT (cache_key) DO UPDATE SET " ++
      "cache_value = EXCLUDED.cache_value, expire_at = EXCLUDED.expire_at, " ++
      "created_at = EXCLUDED.created_at, updated_at = EXCLUDED.updated_at " ++
      "WHERE cache_kvs.expire_at <= EXCLUDED.created_at")
    [.text key, .bytes value, .instant (now.expiry ttl), .instant now]
  return written == 1

/-- Give a live key a new expiry. -/
def expire (now : Instant) (key : String) (ttl : Duration) : Exchange Bool := do
  let updated ← execute
    ("UPDATE cache_kvs SET expire_at = $2, updated_at = $3 " ++
      "WHERE cache_key = $1 AND expire_at > $3")
    [.text key, .instant (now.expiry ttl), .instant now]
  return updated == 1

/-- How long a live key has to live. -/
def ttl (now : Instant) (key : String) : Exchange (Option Duration) := do
  let row ← queryOption "SELECT expire_at FROM cache_kvs WHERE cache_key = $1 AND expire_at > $2"
    [.text key, .instant now]
  match row with
  | some row => return now.remaining (row.column 0).toInstant
  | none => throw .notFound

/-- Hold a key until the transaction ends. -/
def lock (key : String) : Exchange Unit := do
  let _ ← execute "SELECT pg_advisory_xact_lock(hashtextextended($1, 0))" [.text key]

/-- Append a message to a channel. -/
def publish (now : Instant) (channel message : String) : Exchange Unit := do
  let _ ← execute "INSERT INTO cache_messages (channel, message, created_at) VALUES ($1, $2, $3)"
    [.text channel, .text message, .instant now]

/-- The statements of an operation. -/
def ofOperation (now : Instant) : (op : Operation) → Exchange op.Answer
  | .set key value ttl => set now key value ttl
  | .getBytes key => getBytes now key
  | .delete key => delete now key
  | .count keys => count now keys
  | .setField key field value => setField now key field value
  | .getField key field => getField key field
  | .deleteField key field => deleteField key field
  | .getFields key => getFields key
  | .scan key cursor pattern size => scan key cursor pattern size
  | .setNx key value ttl => setNx now key value ttl
  | .expire key ttl => expire now key ttl
  | .ttl key => Postgres.ttl now key
  | .lock key => lock key
  | .publish channel message => publish now channel message

/-- The statements of a call on the message log. -/
def ofLogCall : (call : PubSub.LogCall) → Exchange call.Answer
  | .attach channel subscriber => do
    let _ ← execute
      ("INSERT INTO cache_message_subscribes (channel, subscriber, last_message_id) " ++
        "VALUES ($1, $2, $3) ON CONFLICT (channel, subscriber) DO NOTHING")
      [.text channel, .text subscriber, .int PubSub.start]
    let row ← queryOne
      ("SELECT last_message_id FROM cache_message_subscribes " ++
        "WHERE channel = $1 AND subscriber = $2")
      [.text channel, .text subscriber]
    return (row.column 0).toInt
  | .fetchAfter channel after limit => do
    let rows ← query
      ("SELECT id, channel, message, created_at FROM cache_messages " ++
        "WHERE channel = $1 AND id > $2 ORDER BY id LIMIT $3")
      [.text channel, .int after, .int limit]
    return rows.map fun row => ⟨(row.column 0).toInt, (row.column 2).toText⟩
  | .advance channel subscriber id => do
    let _ ← execute
      ("UPDATE cache_message_subscribes SET last_message_id = $3, updated_at = NOW() " ++
        "WHERE channel = $1 AND subscriber = $2")
      [.text channel, .text subscriber, .int id]
  | .detach channel subscriber => do
    let _ ← execute "DELETE FROM cache_message_subscribes WHERE channel = $1 AND subscriber = $2"
      [.text channel, .text subscriber]

/-- The statement of a purge. -/
def ofPurge : Reaper.PurgeCall → Exchange Nat
  | .expired now => execute "DELETE FROM cache_kvs WHERE expire_at <= $1" [.instant now]
  | .messages olderThan =>
    execute "DELETE FROM cache_messages WHERE created_at < $1" [.instant olderThan]

end SqlCache.Postgres
