import SqlCache.Yaml.Node

/-!
Documents, in which every alias is known to stand for an anchored node before it. Anchors are
numbered by how many names were known when they were met; of several anchors with one number, the
last to start is meant.
-/

set_option autoImplicit false

namespace SqlCache.Yaml

/-- An anchored node. -/
structure Anchored where
  number : Nat
  /-- How many anchors start before it. -/
  start : Nat
  node : Node Nat

/-- A document: its root, unless the text is empty, and its anchored nodes. -/
structure Document where
  root : Option (Node Nat)
  anchored : List Anchored

/-- What is known about anchors at a place of a document. -/
structure Anchors where
  /-- The number of each name. -/
  numbers : List (String × Nat) := []
  /-- How many anchors have started. -/
  started : Nat := 0
  anchored : List Anchored := []

namespace Anchors

/-- Meet the anchor of a node, if it has one: its number and its start. -/
def enter (a : Anchors) : Option String → Option (Nat × Nat) × Anchors
  | none => (none, a)
  | some name =>
    let number := a.numbers.length
    let others := a.numbers.filter (·.1 ≠ name)
    (some (number, a.started), { a with
      numbers := (name, number) :: others
      started := a.started + 1 })

/-- Keep the node of an anchor. -/
def leave (a : Anchors) (anchor : Option (Nat × Nat)) (node : Node Nat) : Anchors :=
  match anchor with
  | none => a
  | some (number, start) => { a with anchored := ⟨number, start, node⟩ :: a.anchored }

end Anchors

namespace Node

mutual

/-- Number the aliases of a node; none may name an unknown anchor. -/
def number? : Node String → Anchors → Option (Node Nat × Anchors)
  | .alias name, a => (a.numbers.lookup name).map fun n => (.alias n, a)
  | .scalar anchor tag style text, a =>
    let (entry, a) := a.enter anchor
    let node := .scalar anchor tag style text
    some (node, a.leave entry node)
  | .sequence anchor tag items, a => do
    let (entry, a) := a.enter anchor
    let (items, a) ← numberItems? items a
    let node := .sequence anchor tag items
    return (node, a.leave entry node)
  | .mapping anchor tag pairs, a => do
    let (entry, a) := a.enter anchor
    let (pairs, a) ← numberPairs? pairs a
    let node := .mapping anchor tag pairs
    return (node, a.leave entry node)

/-- Number the aliases of a list of nodes. -/
def numberItems? : List (Node String) → Anchors → Option (List (Node Nat) × Anchors)
  | [], a => some ([], a)
  | item :: items, a => do
    let (item, a) ← number? item a
    let (items, a) ← numberItems? items a
    return (item :: items, a)

/-- Number the aliases of a list of pairs. -/
def numberPairs? :
    List (Node String × Node String) → Anchors → Option (List (Node Nat × Node Nat) × Anchors)
  | [], a => some ([], a)
  | (key, value) :: pairs, a => do
    let (key, a) ← number? key a
    let (value, a) ← number? value a
    let (pairs, a) ← numberPairs? pairs a
    return ((key, value) :: pairs, a)

end

end Node

namespace Document

/-- The document of a text, if it is well formed and has at most one. -/
def ofText? (text : String) : Option Document := do
  let ts ← Token.ofText? text
  match ← Node.ofTokens? ts with
  | none => return ⟨none, []⟩
  | some root =>
    let (root, a) ← root.number? {}
    return ⟨some root, a.anchored⟩

/-- The node an alias stands for. -/
def target? (d : Document) (number : Nat) : Option (Node Nat) :=
  ((d.anchored.filter (·.number = number)).foldl
    (fun best a => match best with
      | none => some a
      | some b => if b.start < a.start then some a else some b)
    none).map (·.node)

/-- A node, or what it stands for if it is an alias. Anchors are never on aliases, so one step is
enough. -/
def resolve (d : Document) : Node Nat → Node Nat
  | .alias number => (d.target? number).getD (.alias number)
  | node => node

end Document

end SqlCache.Yaml
