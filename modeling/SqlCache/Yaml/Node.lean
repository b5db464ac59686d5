import SqlCache.Yaml.Token

/-!
The nodes of a YAML document: scalars, sequences, mappings, and aliases that stand for an anchored
node. `Node.ofTokens?` builds the one document of a text.
-/

set_option autoImplicit false

namespace SqlCache.Yaml

/-- A node, with what its aliases name the nodes they stand for by. -/
inductive Node (ι : Type) where
  | scalar (anchor : Option String) (tag : Option Octets) (style : ScalarStyle) (text : String)
  | sequence (anchor : Option String) (tag : Option Octets) (items : List (Node ι))
  | mapping (anchor : Option String) (tag : Option Octets) (pairs : List (Node ι × Node ι))
  | alias (target : ι)
  deriving Repr

namespace Node

/-- Handles of tags and what they stand for. -/
abbrev Handles := List (String × Octets)

/-- The handles known everywhere. -/
def knownHandles : Handles :=
  [("!", Octets.ofString "!"), ("!!", Octets.ofString "tag:yaml.org,2002:")]

/-- What may stand in front of a node. -/
structure Properties where
  anchor : Option String := none
  tag : Option Octets := none

/-- The empty plain scalar. -/
def missing (p : Properties) : Node String := .scalar p.anchor p.tag .plain ""

/-- The tag of a handle and a suffix, if the handle is known. -/
def resolveTag? (handles : Handles) (handle : String) (suffix : Octets) : Option Octets :=
  if handle.isEmpty then some suffix
  else (handles.lookup handle).map (· ++ suffix)

/-- An anchor and a tag, in either order. -/
def properties? (handles : Handles) : List Token → Option (Properties × List Token)
  | .anchor a :: .tag h t :: ts => (resolveTag? handles h t).map fun t => (⟨some a, some t⟩, ts)
  | .tag h t :: .anchor a :: ts => (resolveTag? handles h t).map fun t => (⟨some a, some t⟩, ts)
  | .anchor a :: ts => some (⟨some a, none⟩, ts)
  | .tag h t :: ts => (resolveTag? handles h t).map fun t => (⟨none, some t⟩, ts)
  | ts => some ({}, ts)

/-- Does a token end an entry without a node? -/
def endsEntry (isMapping : Bool) : List Token → Bool
  | .blockEnd :: _ | .blockEntry :: _ => true
  | .key :: _ | .value :: _ => isMapping
  | _ => false

/-- Does a token end a part of a block mapping without a node? -/
def endsPair : List Token → Bool
  | .key :: _ | .value :: _ | .blockEnd :: _ => true
  | _ => false

mutual

/-- A node. In a block it may be a block, and after a key it may be a sequence whose hyphens stand
in the column of the key. -/
def node? (handles : Handles) (inBlock afterKey : Bool) :
    (fuel : Nat) → List Token → Option (Node String × List Token)
  | 0, _ => none
  | _ + 1, .alias name :: ts => some (.alias name, ts)
  | fuel + 1, ts => do
    let (p, ts) ← properties? handles ts
    match ts with
    | .scalar style text :: ts => return (.scalar p.anchor p.tag style text, ts)
    | .flowSequenceStart :: ts =>
      let (items, ts) ← flowItems? handles fuel true ts
      return (.sequence p.anchor p.tag items, ts)
    | .flowMappingStart :: ts =>
      let (pairs, ts) ← flowPairs? handles fuel true ts
      return (.mapping p.anchor p.tag pairs, ts)
    | ts =>
      match inBlock, afterKey, ts with
      | true, _, .blockSequenceStart :: ts =>
        let (items, ts) ← blockItems? handles fuel ts
        return (.sequence p.anchor p.tag items, ts)
      | true, _, .blockMappingStart :: ts =>
        let (pairs, ts) ← blockPairs? handles fuel ts
        return (.mapping p.anchor p.tag pairs, ts)
      | _, true, .blockEntry :: _ =>
        let (items, ts) ← alignedItems? handles fuel ts
        return (.sequence p.anchor p.tag items, ts)
      | _, _, ts => if p.anchor.isSome || p.tag.isSome then return (missing p, ts) else none

/-- The items of a block sequence. -/
def blockItems? (handles : Handles) :
    (fuel : Nat) → List Token → Option (List (Node String) × List Token)
  | 0, _ => none
  | fuel + 1, .blockEntry :: ts => do
    let (item, ts) ← if endsEntry false ts then some (missing {}, ts)
      else node? handles true false fuel ts
    let (items, ts) ← blockItems? handles fuel ts
    return (item :: items, ts)
  | _ + 1, .blockEnd :: ts => some ([], ts)
  | _ + 1, _ => none

/-- The items of a sequence in the column of its key. -/
def alignedItems? (handles : Handles) :
    (fuel : Nat) → List Token → Option (List (Node String) × List Token)
  | 0, _ => none
  | fuel + 1, .blockEntry :: ts => do
    let (item, ts) ← if endsEntry true ts then some (missing {}, ts)
      else node? handles true false fuel ts
    let (items, ts) ← alignedItems? handles fuel ts
    return (item :: items, ts)
  | _ + 1, ts => some ([], ts)

/-- The pairs of a block mapping. -/
def blockPairs? (handles : Handles) :
    (fuel : Nat) → List Token → Option (List (Node String × Node String) × List Token)
  | 0, _ => none
  | fuel + 1, .key :: ts => do
    let (k, ts) ← if endsPair ts then some (missing {}, ts) else node? handles true true fuel ts
    let (v, ts) ← blockValue? handles fuel ts
    let (pairs, ts) ← blockPairs? handles fuel ts
    return ((k, v) :: pairs, ts)
  | _ + 1, .blockEnd :: ts => some ([], ts)
  | _ + 1, _ => none

/-- The value after a key in a block. -/
def blockValue? (handles : Handles) :
    (fuel : Nat) → List Token → Option (Node String × List Token)
  | 0, _ => none
  | fuel + 1, .value :: ts =>
    if endsPair ts then some (missing {}, ts) else node? handles true true fuel ts
  | _ + 1, ts => some (missing {}, ts)

/-- The items of a sequence in brackets. -/
def flowItems? (handles : Handles) :
    (fuel : Nat) → (isFirst : Bool) → List Token → Option (List (Node String) × List Token)
  | 0, _, _ => none
  | _ + 1, _, .flowSequenceEnd :: ts => some ([], ts)
  | fuel + 1, isFirst, ts => do
    let ts ← match isFirst, ts with
      | true, ts => some ts
      | false, .flowEntry :: ts => some ts
      | false, _ => none
    match ts with
    | .flowSequenceEnd :: ts => return ([], ts)
    | .key :: ts =>
      let (k, ts) ← match ts with
        | .value :: ts | .flowEntry :: ts | .flowSequenceEnd :: ts => some (missing {}, ts)
        | ts => node? handles false false fuel ts
      let (v, ts) ← match ts with
        | .value :: .flowEntry :: ts => some (missing {}, .flowEntry :: ts)
        | .value :: .flowSequenceEnd :: ts => some (missing {}, .flowSequenceEnd :: ts)
        | .value :: ts => node? handles false false fuel ts
        | ts => some (missing {}, ts)
      let (items, ts) ← flowItems? handles fuel false ts
      return (.mapping none none [(k, v)] :: items, ts)
    | ts =>
      let (item, ts) ← node? handles false false fuel ts
      let (items, ts) ← flowItems? handles fuel false ts
      return (item :: items, ts)

/-- The pairs of a mapping in braces. -/
def flowPairs? (handles : Handles) :
    (fuel : Nat) → (isFirst : Bool) → List Token →
      Option (List (Node String × Node String) × List Token)
  | 0, _, _ => none
  | _ + 1, _, .flowMappingEnd :: ts => some ([], ts)
  | fuel + 1, isFirst, ts => do
    let ts ← match isFirst, ts with
      | true, ts => some ts
      | false, .flowEntry :: ts => some ts
      | false, _ => none
    match ts with
    | .flowMappingEnd :: ts => return ([], ts)
    | .key :: ts =>
      let (k, ts) ← match ts with
        | .value :: _ | .flowEntry :: _ | .flowMappingEnd :: _ => some (missing {}, ts)
        | ts => node? handles false false fuel ts
      let (v, ts) ← match ts with
        | .value :: .flowEntry :: ts => some (missing {}, .flowEntry :: ts)
        | .value :: .flowMappingEnd :: ts => some (missing {}, .flowMappingEnd :: ts)
        | .value :: ts => node? handles false false fuel ts
        | ts => some (missing {}, ts)
      let (pairs, ts) ← flowPairs? handles fuel false ts
      return ((k, v) :: pairs, ts)
    | ts =>
      let (k, ts) ← node? handles false false fuel ts
      let (pairs, ts) ← flowPairs? handles fuel false ts
      return ((k, missing {}) :: pairs, ts)

end

/-- The directives in front of a document. The version has to be 1.1 or 1.2, and neither it nor a
handle may be given twice. -/
def directives? (hasVersion : Bool) (handles : Handles) :
    List Token → Option (Handles × List Token)
  | .version major minor :: ts =>
    if hasVersion || major != 1 || (minor != 1 && minor != 2) then none
    else directives? true handles ts
  | .tagPrefix handle pre :: ts =>
    if (handles.lookup handle).isSome then none
    else directives? hasVersion (handles ++ [(handle, pre)]) ts
  | ts => some (handles ++ knownHandles, ts)

/-- Does a token start a document or end one? -/
def isDocumentToken : Token → Bool
  | .version .. | .tagPrefix .. | .documentStart | .documentEnd => true
  | _ => false

/-- The one document of a text: `none` if the tokens are none, and no node if there are none.
A token is taken by at most two of the functions above before it is used up. -/
def ofTokens? (ts : List Token) : Option (Option (Node String)) := do
  let fuel := 2 * ts.length + 2
  let finish (root : Node String) (ts : List Token) : Option (Option (Node String)) :=
    if (ts.dropWhile (· == .documentEnd)).isEmpty then some (some root) else none
  match ts with
  | [] => return none
  | t :: _ =>
    if isDocumentToken t && t != .documentEnd then
      let (handles, ts) ← directives? false [] ts
      match ts with
      | .documentStart :: ts =>
        if (ts.head?.map isDocumentToken).getD true then finish (missing {}) ts
        else
          let (root, ts) ← node? handles true false fuel ts
          finish root ts
      | _ => none
    else
      let (root, ts) ← node? knownHandles true false fuel ts
      finish root ts

end Node

end SqlCache.Yaml
