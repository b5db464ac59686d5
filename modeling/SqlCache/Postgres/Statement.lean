import SqlCache.Dialogue
import SqlCache.Error
import SqlCache.Time.Instant

/-!
Statements for a PostgreSQL server, and what the answers to them have to look like. An `Exchange`
sends statements one by one; one that is answered by an error ends it.
-/

set_option autoImplicit false

namespace SqlCache.Postgres

/-- A value bound to a placeholder. -/
inductive Param where
  | text (s : String)
  | bytes (b : ByteArray)
  | int (n : Int)
  /-- A point in time, in microseconds since the start of 1970. -/
  | time (micros : Int)
  | texts (l : List String)

/-- A bound instant. -/
def Param.instant (t : Instant) : Param := .time t.micros

/-- A value in a row. -/
inductive Cell where
  | bytes (b : ByteArray)
  /-- An integer, or a point in time in microseconds since the start of 1970. -/
  | int (n : Int)

/-- A row. -/
abbrev Row := List Cell

namespace Cell

/-- The bytes of a value. -/
def toBytes : Cell → ByteArray
  | bytes b => b
  | int _ => ByteArray.empty

/-- The text of a value. -/
def toText (c : Cell) : String := (String.fromUTF8? c.toBytes).getD ""

/-- The integer of a value. -/
def toInt : Cell → Int
  | bytes _ => 0
  | int n => n

/-- The point in time of a value. -/
def toInstant (c : Cell) : Instant := ⟨c.toInt * 1000⟩

end Cell

/-- A statement with its placeholders bound, or one without placeholders that is sent as it is. -/
structure Statement where
  sql : String
  params : Option (List Param)

/-- The answer to a statement: the rows, and how many rows it concerned. -/
structure Rows where
  rows : List Row
  affected : Nat

/-- The answer to a statement. -/
abbrev Statement.Reply (_ : Statement) : Type := Result Rows

/-- A program of statements. -/
abbrev Exchange := ExceptT CacheError (Dialogue Statement Statement.Reply)

namespace Exchange

/-- Send a statement. -/
def send (sql : String) (params : List Param) : Exchange Rows :=
  ExceptT.mk (Dialogue.question ⟨sql, some params⟩)

/-- How many rows a statement concerned. -/
def execute (sql : String) (params : List Param) : Exchange Nat :=
  return (← send sql params).affected

/-- All rows. -/
def query (sql : String) (params : List Param) : Exchange (List Row) :=
  return (← send sql params).rows

/-- The one row there has to be. -/
def queryOne (sql : String) (params : List Param) : Exchange Row := do
  match ← query sql params with
  | [row] => return row
  | _ => throw (.store .unexpectedRowCount)

/-- The one row there may be. -/
def queryOption (sql : String) (params : List Param) : Exchange (Option Row) := do
  match ← query sql params with
  | [] => return none
  | [row] => return some row
  | _ => throw (.store .unexpectedRowCount)

end Exchange

namespace Row

/-- A column; the answers have as many as their statements ask for. -/
def column (r : Row) (i : Nat) : Cell := r.getD i (.int 0)

end Row

end SqlCache.Postgres
