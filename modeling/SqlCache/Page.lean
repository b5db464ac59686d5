import SqlCache.Entry

/-!
Pages of a scan. A page is the flat list of its fields and values, together with the cursor of the
next page; a page with fewer fields than asked for is the last one and says so with the cursor 0.
-/

set_option autoImplicit false

namespace SqlCache

/-- One page of a scan. -/
structure Page where
  /-- Field, value, field, value and so on. -/
  items : List String
  /-- Where the next page starts, 0 after the last one. -/
  next : Nat
  deriving DecidableEq, Repr

namespace Page

/-- Fields and values in one flat list. -/
def flatten (entries : List MapEntry) : List String :=
  entries.flatMap fun e => [e.field, e.value]

@[simp] theorem flatten_cons (e : MapEntry) (es : List MapEntry) :
    flatten (e :: es) = e.field :: e.value :: flatten es := rfl

/-- The cursor after `rows` fields read at `cursor` with pages of `count`. Row numbers are words of
64 bits: `rows` is compared as a signed one, and the sum wraps as an unsigned one. -/
def nextCursor (cursor rows : Nat) (count : Int) : Nat :=
  if Int.bmod rows UInt64.size < count then 0 else (cursor + rows) % UInt64.size

/-- The page that holds the given fields. -/
def ofEntries (cursor : Nat) (count : Int) (entries : List MapEntry) : Page :=
  ⟨flatten entries, nextCursor cursor entries.length count⟩

/-- The fields of a page with their values. -/
def pairs : List String → List (String × String)
  | field :: value :: rest => (field, value) :: pairs rest
  | _ => []

end Page

end SqlCache
