import SqlCache.Operation

/-!
What a call on a cache comes down to: an answer known beforehand, one operation, or a body that has
to run in a transaction of its own.
-/

set_option autoImplicit false

namespace SqlCache

/-- How to obtain an `α` from a cache. -/
inductive Plan (α : Type) where
  /-- The answer is known. -/
  | answer (result : Result α)
  /-- One operation, and what its answer means. -/
  | single (op : Operation) (read : op.Answer → Result α)
  /-- A body that takes effect as a whole or not at all. -/
  | atomic (body : Body α)

namespace Plan

/-- One operation that answers what is asked for. -/
def operation (op : Operation) : Plan op.Answer := .single op .ok

/-- The text stored at a key. -/
def getText (key : String) : Plan String := .single (.getBytes key) (textOf key)

/-- Put a plan's answer into another form. -/
def map {α β : Type} (f : α → β) : Plan α → Plan β
  | answer result => .answer (result.map f)
  | single op read => .single op fun a => (read a).map f
  | atomic body => .atomic (f <$> body)

end Plan

end SqlCache
