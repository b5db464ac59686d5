import SqlCache.Postgres.Exchange

/-!
The statements of a counter. Of the operations that an increment consists of each is one statement,
and what it answers is what that statement is answered by (`run_lock` and those that follow it). A
`Query` says what such a statement is for; no two of them have the same text and parameters.
-/

set_option autoImplicit false

namespace SqlCache.Postgres

/-- What is asked of a server about a counter. Points in time are microseconds. -/
inductive Query where
  /-- Wait until no other transaction holds the key, and hold it. -/
  | lock (key : String)
  /-- The value of a key that is live. -/
  | read (key : String) (now : Int)
  /-- The expiry of a key that is live. -/
  | expiry (key : String) (now : Int)
  | write (key : String) (value : ByteArray) (expireAt now : Int)

namespace Query

/-- The text of the statement that asks for it. -/
def sql : Query → String
  | lock _ => "SELECT pg_advisory_xact_lock(hashtextextended($1, 0))"
  | read .. => "SELECT cache_value FROM cache_kvs WHERE cache_key = $1 AND expire_at > $2"
  | expiry .. => "SELECT expire_at FROM cache_kvs WHERE cache_key = $1 AND expire_at > $2"
  | write .. =>
    "INSERT INTO cache_kvs (cache_key, cache_value, expire_at, created_at, updated_at) " ++
      "VALUES ($1, $2, $3, $4, $4) ON CONFLICT (cache_key) DO UPDATE SET " ++
      "cache_value = EXCLUDED.cache_value, expire_at = EXCLUDED.expire_at, " ++
      "updated_at = EXCLUDED.updated_at"

/-- The values of its placeholders. -/
def params : Query → List Param
  | lock key => [.text key]
  | read key now | expiry key now => [.text key, .time now]
  | write key value expireAt now => [.text key, .bytes value, .time expireAt, .time now]

/-- The statement that asks for it. -/
def statement (q : Query) : Statement := ⟨q.sql, some q.params⟩

theorem sql_read_ne_expiry (key other : String) (now later : Int) :
    (read key now).sql ≠ (expiry other later).sql := by
  show "SELECT cache_value FROM cache_kvs WHERE cache_key = $1 AND expire_at > $2" ≠
    "SELECT expire_at FROM cache_kvs WHERE cache_key = $1 AND expire_at > $2"
  decide +kernel

theorem statement_injective {p q : Query} (h : p.statement = q.statement) : p = q := by
  obtain ⟨hsql, hparams⟩ := Statement.mk.inj h
  have hparams := Option.some.inj hparams
  cases p with
  | lock key =>
      cases q with
      | lock => simpa [params] using hparams
      | read | expiry | write => simp [params] at hparams
  | read key now =>
      cases q with
      | read => simpa [params] using hparams
      | expiry => exact absurd hsql (sql_read_ne_expiry _ _ _ _)
      | lock | write => simp [params] at hparams
  | expiry key now =>
      cases q with
      | expiry => simpa [params] using hparams
      | read => exact absurd hsql.symm (sql_read_ne_expiry _ _ _ _)
      | lock | write => simp [params] at hparams
  | write key value expireAt now =>
      cases q with
      | write => simpa [params] using hparams
      | lock | read | expiry => simp [params] at hparams

end Query

namespace Exchange

/-- What is made of an answer in which there may be one row. -/
def optionalRow {α : Type} (read : Row → α) : Result Rows → Result α
  | .ok ⟨[], _⟩ => .error .notFound
  | .ok ⟨[row], _⟩ => .ok (read row)
  | .ok _ => .error (.store .unexpectedRowCount)
  | .error e => .error e

end Exchange

open Exchange

variable (now : Instant) (key : String)

theorem run_lock : (ofOperation now (.lock key)).run =
    .ask (Query.lock key).statement fun r => .done (r.map fun _ => ()) := by
  show Dialogue.ask _ _ = Dialogue.ask _ _
  congr 1
  funext r
  cases r <;> rfl

theorem run_set (value : ByteArray) (ttl : Duration) : (ofOperation now (.set key value ttl)).run =
    .ask (Query.write key value (now.expiry ttl).micros now.micros).statement
      fun r => .done (r.map fun _ => ()) := by
  show Dialogue.ask _ _ = Dialogue.ask _ _
  congr 1
  funext r
  cases r <;> rfl

theorem run_getBytes : (ofOperation now (.getBytes key)).run =
    .ask (Query.read key now.micros).statement
      fun r => .done (optionalRow (fun row => (row.column 0).toBytes) r) := by
  show Dialogue.ask _ _ = Dialogue.ask _ _
  congr 1
  funext r
  match r with
  | .error e => rfl
  | .ok ⟨[], _⟩ => rfl
  | .ok ⟨[row], _⟩ => rfl
  | .ok ⟨_ :: _ :: _, _⟩ => rfl

theorem run_ttl : (ofOperation now (.ttl key)).run =
    .ask (Query.expiry key now.micros).statement
      fun r => .done (optionalRow (fun row => now.remaining (row.column 0).toInstant) r) := by
  show Dialogue.ask _ _ = Dialogue.ask _ _
  congr 1
  funext r
  match r with
  | .error e => rfl
  | .ok ⟨[], _⟩ => rfl
  | .ok ⟨[row], _⟩ => rfl
  | .ok ⟨_ :: _ :: _, _⟩ => rfl

end SqlCache.Postgres
