import Sheltering.Yaml.Token

/-!
# YAML documents

* `Node`: a tree of scalars and collections. An alias stands for the node of an anchor.
* `Document`: a tree with the nodes of its anchors.
* `Document.ofText?`: the document of a text that holds one, or an empty one of a text without any.
-/

namespace Sheltering.Yaml

/-- A node of a document, with its tag if it has one. -/
inductive Node where
  | scalar (tag : Option Tag) (plain : Bool) (text : String)
  | sequence (tag : Option Tag) (items : List Node)
  | mapping (tag : Option Tag) (entries : List (Node × Node))
  /-- The node of the anchor with a number. -/
  | reference (anchor : Nat)
deriving Repr, Inhabited

namespace Node

/-- The node of a place where none is written. -/
def empty : Node := .scalar none true ""

mutual

/-- The scalars and aliases of a tree, and the begins and ends of its collections. -/
def eventCount : Node → Nat
  | scalar .. | reference _ => 1
  | sequence _ items => 2 + eventCounts items
  | mapping _ entries => 2 + entryCounts entries

/-- The events of some trees. -/
def eventCounts : List Node → Nat
  | [] => 0
  | n :: rest => eventCount n + eventCounts rest

/-- The events of some entries. -/
def entryCounts : List (Node × Node) → Nat
  | [] => 0
  | (k, v) :: rest => eventCount k + eventCount v + entryCounts rest

end

end Node

/-- A document. -/
structure Document where
  root : Node
  /-- The numbers of the anchors and their nodes, in the order in which the anchors begin. -/
  anchors : List (Nat × Node) := []

namespace Document

/-- The node of the anchor with a number, the last one if there are several. -/
def target? (d : Document) (anchor : Nat) : Option Node := d.anchors.reverse.lookup anchor

end Document

/-- What remains of a text, and the anchors met in it. -/
structure Reading where
  tokens : List Token
  /-- The numbers of the anchors, with their nodes once these are complete. -/
  anchors : Array (Nat × Option Node) := #[]
  /-- The number of the last anchor of each name. -/
  names : List (String × Nat) := []
  /-- What the handles of tags stand for. -/
  handles : List (String × Tag) := []

/-- A reader of nodes. -/
abbrev NodeReader := StateT Reading Option

namespace NodeReader

/-- No node is written here. -/
def fail {α : Type} : NodeReader α := fun _ => none

/-- The next token. -/
def next? : NodeReader (Option Token) := fun r => some (r.tokens.head?, r)

/-- Passes a token. -/
def pass : NodeReader Unit := fun r => some ((), { r with tokens := r.tokens.drop 1 })

/-- Passes a token if it is the one given. -/
def accept (token : Token) : NodeReader Bool := do
  if (← next?) = some token then
    pass
    pure true
  else pure false

/-- Passes the token given; nothing else may stand here. -/
def require (token : Token) : NodeReader Unit := do
  if !(← accept token) then fail

/-- The alias of a name that an anchor has. -/
def aliasOf (name : String) : NodeReader Node := fun r => do
  let number ← r.names.lookup name
  pure (.reference number, r)

/-- Notes an anchor, and gives its place. Its number is that of the names known before it, so that
one after a repeated name may share the number of that name. -/
def openAnchor (name : String) : NodeReader Nat := fun r =>
  let number := r.names.length
  let others := r.names.filter fun entry => entry.1 ≠ name
  some (r.anchors.size,
    { r with anchors := r.anchors.push (number, none), names := (name, number) :: others })

/-- The node of the anchor at a place is complete. -/
def closeAnchor (place : Nat) (node : Node) : NodeReader Unit := fun r =>
  some ((), { r with anchors := r.anchors.modify place fun a => (a.1, some node) })

/-- The full tag. -/
def fullTag (handle : String) (rest : Tag) : NodeReader Tag := fun r =>
  if handle = "" then some (rest, r)
  else do
    let start ← r.handles.lookup handle
    pure (start.append rest, r)

/-- The tag and the anchor before a node. -/
def properties : NodeReader (Option Tag × Option String) := do
  match ← next? with
  | some (.anchor name) =>
    pass
    match ← next? with
    | some (.tag handle rest) =>
      pass
      pure (some (← fullTag handle rest), some name)
    | _ => pure (none, some name)
  | some (.tag handle rest) =>
    pass
    let tag ← fullTag handle rest
    match ← next? with
    | some (.anchor name) =>
      pass
      pure (some tag, some name)
    | _ => pure (some tag, none)
  | _ => pure (none, none)

/-- A node that may be missing before some tokens. -/
def orEmpty (ends : List Token) (node : NodeReader Node) : NodeReader Node := do
  match ← next? with
  | some token => if ends.contains token then pure Node.empty else node
  | none => node

/-- A value after its colon, if there is one. -/
def valueOrEmpty (ends : List Token) (node : NodeReader Node) : NodeReader Node := do
  if ← accept .value then orEmpty ends node else pure Node.empty

mutual

/-- Reads a node. In a mapping of a block, items may stand at the column of their key. The first
argument bounds how many nodes and items within it are read. -/
def node : (bound : Nat) → (block itemsAllowed : Bool) → NodeReader Node
  | 0, _, _ => fail
  | n + 1, block, itemsAllowed => do
    if let some (.reference name) ← next? then
      pass
      return ← aliasOf name
    let (tag, anchor) ← properties
    let place ← anchor.mapM openAnchor
    let result ← match ← next? with
      | some (.scalar plain text) =>
        pass
        pure (.scalar tag plain text)
      | some .item =>
        if itemsAllowed then pure (.sequence tag (← looseItems n))
        else if tag.isSome ∨ anchor.isSome then pure (.scalar tag true "")
        else fail
      | some .flowSequence =>
        pass
        pure (.sequence tag (← flowItems n true))
      | some .flowMapping =>
        pass
        pure (.mapping tag (← flowEntries n true))
      | some .blockSequence =>
        if block then
          pass
          pure (.sequence tag (← blockItems n))
        else if tag.isSome ∨ anchor.isSome then pure (.scalar tag true "")
        else fail
      | some .blockMapping =>
        if block then
          pass
          pure (.mapping tag (← blockEntries n))
        else if tag.isSome ∨ anchor.isSome then pure (.scalar tag true "")
        else fail
      | _ => if tag.isSome ∨ anchor.isSome then pure (.scalar tag true "") else fail
    if let some k := place then closeAnchor k result
    pure result

/-- The items of a block sequence. -/
def blockItems : Nat → NodeReader (List Node)
  | 0 => fail
  | n + 1 => do
    if ← accept .blockEnd then pure []
    else
      require .item
      let first ← orEmpty [.item, .blockEnd] (node n true false)
      pure (first :: (← blockItems n))

/-- The items at the column of their key. -/
def looseItems : Nat → NodeReader (List Node)
  | 0 => fail
  | n + 1 => do
    if ← accept .item then
      let first ← orEmpty [.item, .key, .value, .blockEnd] (node n true false)
      pure (first :: (← looseItems n))
    else pure []

/-- The entries of a block mapping. -/
def blockEntries : Nat → NodeReader (List (Node × Node))
  | 0 => fail
  | n + 1 => do
    if ← accept .blockEnd then pure []
    else
      require .key
      let ends := [.key, .value, .blockEnd]
      let k ← orEmpty ends (node n true true)
      let v ← valueOrEmpty ends (node n true true)
      pure ((k, v) :: (← blockEntries n))

/-- The items of a flow sequence. A key and its value within are a mapping of one entry. A question
mark without a key takes the mark after it along. -/
def flowItems : Nat → (first : Bool) → NodeReader (List Node)
  | 0, _ => fail
  | n + 1, first => do
    if ← accept .flowSequenceEnd then return []
    if !first then
      require .comma
      if ← accept .flowSequenceEnd then return []
    let item ←
      if ← accept .key then
        let k ←
          if (← next?).all [.value, .comma, .flowSequenceEnd].contains then
            pass
            pure Node.empty
          else node n false false
        let v ← valueOrEmpty [.comma, .flowSequenceEnd] (node n false false)
        pure (.mapping none [(k, v)])
      else node n false false
    pure (item :: (← flowItems n false))

/-- The entries of a flow mapping. -/
def flowEntries : Nat → (first : Bool) → NodeReader (List (Node × Node))
  | 0, _ => fail
  | n + 1, first => do
    if ← accept .flowMappingEnd then return []
    if !first then
      require .comma
      if ← accept .flowMappingEnd then return []
    let entry ←
      if ← accept .key then
        let k ← orEmpty [.value, .comma, .flowMappingEnd] (node n false false)
        let v ← valueOrEmpty [.comma, .flowMappingEnd] (node n false false)
        pure (k, v)
      else
        let k ← node n false false
        pure (k, Node.empty)
    pure (entry :: (← flowEntries n false))

end

end NodeReader

/-- The handles that every document knows. -/
def standardHandles : List (String × Tag) :=
  [("!", Tag.mark), ("!!", Tag.ofText "tag:yaml.org,2002:")]

/-- Directives at the start of a document: at most one version, which is 1.1 or 1.2, and handles
each given once. The result says whether there were any. -/
def directives? : (version : Bool) → List (String × Tag) → List Token →
    Option (List (String × Tag) × List Token)
  | version, handles, .version major minor :: rest =>
    if !version ∧ major = 1 ∧ (minor = 1 ∨ minor = 2) then directives? true handles rest else none
  | version, handles, .handle name start :: rest =>
    if (handles.lookup name).isSome then none
    else directives? version ((name, start) :: handles) rest
  | _, handles, tokens => some (handles ++ standardHandles, tokens)

/-- What follows the one document of a text: nothing but marks that documents end. -/
def endsText (tokens : List Token) : Bool := tokens.all (· == .documentEnd)

/-- A document after its first mark. -/
def Document.ofContent? (handles : List (String × Tag)) (tokens : List Token) :
    Option (Document × List Token) := do
  let (root, r) ← NodeReader.node (4 * tokens.length + 4) true false |>.run { tokens, handles }
  let anchors := r.anchors.toList.filterMap fun (number, node) => node.map fun n => (number, n)
  pure ({ root, anchors }, r.tokens)

/-- Reads the tokens of a text with one document or none. -/
def Document.ofTokens? (tokens : List Token) : Option Document :=
  match tokens with
  | [] => some { root := .empty }
  | _ => do
    let (handles, content) ← directives? false [] tokens
    let (document, rest) ←
      match content with
      | .documentStart :: rest =>
        match rest with
        | [] | .documentStart :: _ | .documentEnd :: _ => some ({ root := .empty }, rest)
        | _ => Document.ofContent? handles rest
      | _ =>
        if content.length = tokens.length then Document.ofContent? handles content else none
    if endsText rest then some document else none

/-- The document of a text. -/
def Document.ofText? (text : String) : Option Document :=
  (Token.ofText? text.toList).bind Document.ofTokens?

end Sheltering.Yaml
