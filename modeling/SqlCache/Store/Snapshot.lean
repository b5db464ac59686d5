import SqlCache.Store.Basic
import SqlCache.Text.Integer

/-!
Stores as text. Every row is a line: a word for its table, its texts and bytes in hexadecimal
digits, its numbers in decimal ones. Reading is the inverse of writing; text that was not written
this way is refused.
-/

set_option autoImplicit false

namespace SqlCache.Store.Snapshot

/-- The line that a written store starts with. -/
def header : String := "rowcache store"

/-- Bytes in hexadecimal digits, after a letter that keeps the empty ones visible. -/
def hex (bytes : ByteArray) : String :=
  String.ofList ('x' :: bytes.toList.flatMap fun b =>
    [Nat.digitChar (b.toNat / 16), Nat.digitChar (b.toNat % 16)])

/-- A text in hexadecimal digits. -/
def word (text : String) : String := hex text.toUTF8

/-- The value of a hexadecimal digit. -/
def digit? (c : Char) : Option Nat :=
  if c.isDigit then some (c.toNat - 48)
  else if 'a' ≤ c ∧ c ≤ 'f' then some (c.toNat - 87)
  else none

/-- Bytes from pairs of digits. -/
def pairs? : List Char → Option (List UInt8)
  | [] => some []
  | a :: b :: rest => do
    let byte := UInt8.ofNat ((← digit? a) * 16 + (← digit? b))
    return byte :: (← pairs? rest)
  | _ => none

/-- Read bytes. -/
def bytes? (text : String) : Option ByteArray :=
  match text.toList with
  | 'x' :: digits => (pairs? digits).map fun bytes => ⟨bytes.toArray⟩
  | _ => none

/-- Read a text. -/
def text? (text : String) : Option String := bytes? text >>= String.fromUTF8?

/-- Read a number. -/
def int? (text : String) : Option Int := Text.Integer.unbounded? text.toList

/-- The lines of a store. -/
def lines (s : Store) : List (List String) :=
  [["last", Text.Integer.encode s.lastMessageId]] ++
  (s.scalars.toList.map fun (key, row) => ["scalar", word key, hex row.value,
    Text.Integer.encode row.expireAt, Text.Integer.encode row.createdAt,
    Text.Integer.encode row.updatedAt]) ++
  (s.fields.toList.map fun ((key, field), row) => ["field", word key, word field,
    word row.value, Text.Integer.encode row.createdAt, Text.Integer.encode row.updatedAt]) ++
  (s.messages.toList.map fun (id, row) => ["message", Text.Integer.encode id,
    word row.channel, word row.payload, Text.Integer.encode row.createdAt]) ++
  (s.cursors.toList.map fun ((channel, subscriber), row) => ["cursor", word channel,
    word subscriber, Text.Integer.encode row.last, Text.Integer.encode row.createdAt,
    Text.Integer.encode row.updatedAt])

/-- Write a store. -/
def encode (s : Store) : String :=
  String.join ((header :: (lines s).map fun line => " ".intercalate line).map fun line =>
    line ++ "\n")

/-- Add a row to a store. -/
def add? (s : Store) : List String → Option Store
  | ["last", id] => do return { s with lastMessageId := ← int? id }
  | ["scalar", key, value, expireAt, createdAt, updatedAt] => do
    let row : ScalarRow := ⟨← bytes? value, ← int? expireAt, ← int? createdAt, ← int? updatedAt⟩
    return { s with scalars := s.scalars.insert (← text? key) row }
  | ["field", key, field, value, createdAt, updatedAt] => do
    let row : FieldRow := ⟨← text? value, ← int? createdAt, ← int? updatedAt⟩
    return { s with fields := s.fields.insert (← text? key, ← text? field) row }
  | ["message", id, channel, payload, createdAt] => do
    let row : MessageRow := ⟨← text? channel, ← text? payload, ← int? createdAt⟩
    return { s with messages := s.messages.insert (← int? id) row }
  | ["cursor", channel, subscriber, last, createdAt, updatedAt] => do
    let row : CursorRow := ⟨← int? last, ← int? createdAt, ← int? updatedAt⟩
    return { s with cursors := s.cursors.insert (← text? channel, ← text? subscriber) row }
  | _ => none

/-- Read a store. -/
def decode? (text : String) : Option Store :=
  match text.splitOn "\n" with
  | first :: rest =>
    if first = header then
      (rest.filter fun line => line != "").foldlM (fun s line => add? s (line.splitOn " ")) .empty
    else none
  | [] => none

end SqlCache.Store.Snapshot
