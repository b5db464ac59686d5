/-!
The faults a cache call can end in, each named by its cause, and the one text every cause is
shown as.
-/

set_option autoImplicit false

namespace SqlCache

/-- What a backing store can refuse or fail to do. -/
inductive StoreFault where
  /-- Another connection holds the writer's lock for longer than the busy timeout. -/
  | locked
  /-- Another connection to the same in-memory database is writing. -/
  | sharedLocked
  /-- An open transaction on the same in-memory database has written this table. -/
  | tableLocked (table : String)
  /-- The database has no table of this name. -/
  | noTable (table : String)
  /-- The database can only be read. -/
  | readOnly
  /-- A translated field pattern is longer than the matcher accepts. -/
  | patternTooComplex
  /-- A statement binds more variables than the store numbers; the text and the byte at which the
  first excess variable stands. -/
  | tooManyVariables (statement : String) (offset : Nat)
  /-- The connection went away while it was being set up. -/
  | connectionClosed
  /-- The server answered a statement with an error. -/
  | statementFailed
  /-- The server answered with a number of rows the call cannot use. -/
  | unexpectedRowCount
  /-- The connection pool has been closed. -/
  | poolClosed
  /-- A recording store was told to refuse this call. -/
  | refused (call : String)
  /-- Any other fault, by its own text. -/
  | other (detail : String)
  deriving DecidableEq, Repr

/-- What can be wrong with the arguments of a call, or with the value a call has to work on. -/
inductive ArgumentFault where
  /-- The bytes stored at the key are no UTF-8 text. -/
  | notText (key : String)
  /-- The text stored at the key is no integer. -/
  | notInteger (key : String)
  /-- The sum leaves the range of a counter. -/
  | overflow (key : String)
  /-- The text of a reply is no integer. -/
  | notNumber (text : String)
  /-- A transaction was asked for inside a transaction. -/
  | nestedTransaction
  /-- A subscription was asked for inside a transaction. -/
  | subscribeInTransaction
  /-- A scan was asked for pages of fewer than one field. -/
  | scanCount
  /-- A scan cursor is larger than any row number. -/
  | scanCursor (cursor : Nat)
  /-- Fields and values do not pair up. -/
  | unpairedFields (given : Nat)
  /-- Any other fault, by its own text. -/
  | other (detail : String)
  deriving DecidableEq, Repr

/-- Why a cache call failed. `notFound` covers missing keys, missing fields, empty maps and
unsupported list commands. -/
inductive CacheError where
  /-- No client is registered. -/
  | notInitialized
  /-- What was asked for is absent. -/
  | notFound
  /-- The store failed. -/
  | store (fault : StoreFault)
  /-- The call was refused. -/
  | validation (fault : ArgumentFault)
  deriving DecidableEq, Repr

/-- The outcome of a cache call. -/
abbrev Result (α : Type) := Except CacheError α

namespace StoreFault

/-- The text of a store fault. -/
def message : StoreFault → String
  | locked => "database is locked"
  | sharedLocked => "database table is locked"
  | tableLocked table => s!"database table is locked: {table}"
  | noTable table => s!"no such table: {table}"
  | readOnly => "attempt to write a readonly database"
  | patternTooComplex => "LIKE or GLOB pattern too complex"
  | tooManyVariables statement offset =>
    s!"variable number must be between ?1 and ?32766 in {statement} at offset {offset}"
  | connectionClosed => "connection closed unexpectedly"
  | statementFailed => "db error"
  | unexpectedRowCount => "query returned an unexpected number of rows"
  | poolClosed => "pool: Pool has been closed"
  | refused call => s!"{call} refused"
  | other detail => detail

end StoreFault

namespace ArgumentFault

/-- The text of an argument fault. -/
def message : ArgumentFault → String
  | notText key => s!"value of {key} is not valid UTF-8"
  | notInteger key => s!"value of {key} is not an integer"
  | overflow key => s!"increment of {key} overflows"
  | notNumber text => s!"{text} is not an integer"
  | nestedTransaction => "nested transactions are not supported"
  | subscribeInTransaction => "cannot subscribe inside a transaction"
  | scanCount => "scan count must be at least 1"
  | scanCursor cursor => s!"scan cursor {cursor} out of range"
  | unpairedFields given => s!"hset expects field/value pairs, got {given} arguments"
  | other detail => detail

end ArgumentFault

namespace CacheError

/-- The text an error is shown as. -/
def message : CacheError → String
  | notInitialized => "cache not initialized"
  | notFound => "cache not found"
  | store fault => "store error: " ++ fault.message
  | validation fault => "invalid argument: " ++ fault.message

/-- Does the error say that what was asked for is absent? -/
def isNotFound : CacheError → Bool
  | notFound => true
  | _ => false

end CacheError

end SqlCache
