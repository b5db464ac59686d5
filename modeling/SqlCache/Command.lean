import SqlCache.Counter

/-!
Commands on scalar keys, maps and lists, and their outcomes. Scalar and map commands come down to
operations and bodies (`Command.plan`); list commands and pipelines are not supported, and answer
that nothing is there.
-/

set_option autoImplicit false

namespace SqlCache

/-- A command's name with a value or an error. -/
structure Outcome (α : Type) where
  name : String
  result : Result α

namespace Outcome

variable {α : Type}

/-- The error, if the command failed. -/
def error? (o : Outcome α) : Option CacheError :=
  match o.result with
  | .ok _ => none
  | .error e => some e

/-- The value, or a default if the command failed. -/
def value [Inhabited α] (o : Outcome α) : α := o.result.toOption.getD default

/-- The bytes of a text reply. -/
def bytes (o : Outcome String) : Result ByteArray := o.result.map String.toUTF8

/-- The integer that a text reply stands for. -/
def int64 (o : Outcome String) : Result Int := do
  let text ← o.result
  match Text.Integer.read? text with
  | some n => return n
  | none => throw (.validation (.notNumber text))

end Outcome

/-- A command. -/
inductive Command where
  | set (key : String) (value : ByteArray) (ttl : Duration)
  | get (key : String)
  | incr (key : String)
  | incrBy (key : String) (delta : Int)
  /-- Set fields of a map; `values` alternates field and value. -/
  | hset (key : String) (values : List String)
  | hgetAll (key : String)
  | del (keys : List String)
  | present (keys : List String)
  | expire (key : String) (ttl : Duration)
  | lindex (key : String) (index : Int)
  | lpush (key : String) (values : List String)
  | rpush (key : String) (values : List String)
  | lset (key : String) (index : Int) (value : String)
  | lpop (key : String)
  | lrange (key : String) (start stop : Int)

namespace Command

/-- The name a command is known by. -/
def name : Command → String
  | set .. => "set"
  | get .. => "get"
  | incr .. => "incr"
  | incrBy .. => "incrby"
  | hset .. => "hset"
  | hgetAll .. => "hgetall"
  | del .. => "del"
  | present .. => "exists"
  | expire .. => "expire"
  | lindex .. => "lindex"
  | lpush .. => "lpush"
  | rpush .. => "rpush"
  | lset .. => "lset"
  | lpop .. => "lpop"
  | lrange .. => "lrange"

/-- The names of all commands. -/
def names : List String :=
  ["set", "get", "incr", "incrby", "hset", "hgetall", "del", "exists", "expire", "lindex", "lpush",
    "rpush", "lset", "lpop", "lrange"]

/-- The name an outcome goes by: that of a command, or that of all others. -/
def knownName (name : String) : String := if names.contains name then name else "custom"

/-- What a command answers when it succeeds. -/
abbrev Answer : Command → Type
  | set .. | get .. | lindex .. | lset .. | lpop .. => String
  | incr .. | incrBy .. | hset .. | del .. | present .. | lpush .. | rpush .. => Int
  | hgetAll .. => List (String × String)
  | expire .. => Bool
  | lrange .. => List String

/-- Fields and values of an argument list, if they pair up and there are any. -/
def fieldPairs (values : List String) : Result (List (String × String)) :=
  if values.length < 2 ∨ values.length % 2 ≠ 0 then
    .error (.validation (.unpairedFields values.length))
  else .ok (Page.pairs values)

/-- Write fields of a map, from left to right. -/
def setFields (key : String) : List (String × String) → Body Unit
  | [] => pure ()
  | (field, value) :: rest => do
    Body.call (.setField key field value)
    setFields key rest

/-- Remove keys, from left to right, and count those that were live. -/
def deleteKeys : List String → Body Int
  | [] => pure 0
  | key :: rest => do
    let n ← Body.call (.delete key)
    return n + (← deleteKeys rest)

/-- How a command is carried out. -/
def plan : (c : Command) → Plan c.Answer
  | set key value ttl => .single (.set key value ttl) fun _ => .ok "OK"
  | get key => .getText key
  | incr key => Counter.increment key 1
  | incrBy key delta => Counter.increment key delta
  | hset key values =>
    match fieldPairs values with
    | .error e => .answer (.error e)
    | .ok pairs => .atomic (do setFields key pairs; return pairs.length)
  | hgetAll key => .operation (.getFields key)
  | del keys => if keys.isEmpty then .answer (.ok 0) else .atomic (deleteKeys keys)
  | present keys => if keys.isEmpty then .answer (.ok 0) else .operation (.count keys)
  | expire key ttl => .operation (.expire key ttl)
  | lindex .. | lset .. | lpop .. => .answer (.error .notFound)
  | lpush .. | rpush .. => .answer (.error .notFound)
  | lrange .. => .answer (.error .notFound)

end Command

/-- A pipeline of a store that cannot batch commands: it queues nothing, and whatever it is asked to
queue or to run is not found. -/
structure Pipeline where
  deriving DecidableEq, Repr

namespace Pipeline

/-- Queue a command. -/
def queue (_ : Pipeline) (name : String) : Outcome String × Pipeline :=
  (⟨name, .error .notFound⟩, {})

/-- How many commands are queued. -/
def length (_ : Pipeline) : Nat := 0

/-- Run everything queued. -/
def exec (_ : Pipeline) : Result (List (String × Option CacheError)) := .error .notFound

/-- Forget everything queued. -/
def discard (p : Pipeline) : Pipeline := p

end Pipeline

end SqlCache
