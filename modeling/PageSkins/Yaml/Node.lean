import PageSkins.Yaml.Plain
import PageSkins.Yaml.Token

/-!
# The tree of a YAML document

Scalars, sequences and mappings with their tags. Names that stand for an earlier node are
replaced by it.
-/

namespace PageSkins.Yaml

/-- A node of a document. -/
inductive Node where
  | scalar (tag : String) (text : List Char)
  | sequence (tag : String) (items : List Node)
  | mapping (tag : String) (pairs : List (Node × Node))
deriving Inhabited

/-- What the tags of the common kinds of nodes start with. -/
def common : String := "tag:yaml.org,2002:"

def Look.tag : Look → String
  | .null => common ++ "null"
  | .flag => common ++ "bool"
  | .integer => common ++ "int"
  | .float => common ++ "float"
  | .moment => common ++ "timestamp"
  | .merge => common ++ "merge"
  | .default => common ++ "value"
  | .text => common ++ "str"

/-- A scalar where a document leaves one out. -/
def Node.none : Node := .scalar Look.null.tag []

/-- A reader of nodes. -/
structure Composer where
  tokens : List Token
  /-- What the handles of tags stand for. -/
  handles : List (List Char × List Char)
  /-- The nodes that have names; none for those that are not complete. -/
  named : List (List Char × Option Node) := []

/-- Reads from the tokens, and may fail. -/
abbrev Compose (α : Type) := StateT Composer (Except Fault) α

namespace Compose

def peek : Compose (Option Token) := return (← get).tokens.head?

def drop : Compose Unit := modify fun c => { c with tokens := c.tokens.tail }

def expect (t : Token) : Compose Unit := do
  if (← peek) = some t then drop else throw .malformed

def nextIs (ts : List Token) : Compose Bool := return (← peek).any ts.contains

def accept (t : Token) : Compose Bool := do
  if (← peek) = some t then
    drop
    return true
  else return false

/-- The name and the tag in front of a node, in either order. -/
def properties : Compose (Option (List Char) × Option String) := do
  let tagged (h : Option (List Char)) (s : List Char) : Compose String := do
    match h with
    | none => return String.ofList s
    | some h =>
      match (← get).handles.lookup h with
      | some start => return String.ofList (start ++ s)
      | none => throw .malformed
  match ← peek with
  | some (.anchor a) => do
    drop
    match ← peek with
    | some (.tag h s) => do
      drop
      return (some a, some (← tagged h s))
    | _ => return (some a, none)
  | some (.tag h s) => do
    drop
    match ← peek with
    | some (.anchor a) => do
      drop
      return (some a, some (← tagged h s))
    | _ => return (none, some (← tagged h s))
  | _ => return (none, none)

def recalled (name : List Char) : Compose Node := do
  match (← get).named.lookup name with
  | some (some n) => return n
  | some none => throw .badValue
  | none => throw .malformed

/-- Names the node that is read. Every name is given once. -/
def naming (name : Option (List Char)) (read : Compose Node) : Compose Node := do
  match name with
  | none => read
  | some a =>
    if (← get).named.any (·.1 = a) then throw .malformed
    modify fun c => { c with named := (a, none) :: c.named }
    let n ← read
    modify fun c => { c with named := (a, some n) :: c.named }
    return n

/-- The tag of a scalar. An exclamation mark alone makes it as good as plain. -/
def scalarTag (tag : Option String) (isPlain : Bool) (text : List Char) : String :=
  match tag with
  | none => if isPlain then (lookOf text).tag else Look.text.tag
  | some t => if t = "!" then (lookOf text).tag else t

def groupTag (tag : Option String) (kind : String) : String :=
  match tag with
  | none => common ++ kind
  | some t => if t = "!" then common ++ kind else t

inductive Setting where
  | flow
  | block
  /-- In a block mapping, where a sequence need not be moved in. -/
  | mapped
deriving DecidableEq

mutual

/-- A node. The fuel bounds the number of tokens. -/
def node (setting : Setting) : Nat → Compose Node
  | 0 => throw .malformed
  | fuel + 1 => do
    match ← peek with
    | some (.alias name) => do
      drop
      recalled name
    | _ =>
      let (name, tag) ← properties
      naming name do
        match ← peek with
        | some (.scalar isPlain text) => do
          drop
          return .scalar (scalarTag tag isPlain text) text
        | some .flowSequence => do
          drop
          return .sequence (groupTag tag "seq") (← flowItems fuel)
        | some .flowMapping => do
          drop
          return .mapping (groupTag tag "map") (← flowPairs fuel)
        | next =>
          if setting = .mapped ∧ next = some .item then
            return .sequence (groupTag tag "seq") (← items true fuel)
          else if setting ≠ .flow ∧ next = some .blockSequence then do
            drop
            return .sequence (groupTag tag "seq") (← items false fuel)
          else if setting ≠ .flow ∧ next = some .blockMapping then do
            drop
            return .mapping (groupTag tag "map") (← pairs fuel)
          else if name.isSome || tag.isSome then return .scalar (scalarTag tag (tag.isNone || tag = some "!") []) []
          else throw .malformed

def items (level : Bool) : Nat → Compose (List Node)
  | 0 => throw .malformed
  | fuel + 1 => do
    if ← accept .item then
      let isEmpty ← nextIs (if level then [.item, .key, .value, .blockEnd] else [.item, .blockEnd])
      let first ← if isEmpty then pure Node.none else node .block fuel
      return first :: (← items level fuel)
    else
      if !level then expect .blockEnd
      return []

def pairs : Nat → Compose (List (Node × Node))
  | 0 => throw .malformed
  | fuel + 1 => do
    let part : Compose Node := do
      if ← nextIs [.key, .value, .blockEnd] then return Node.none else node .mapped fuel
    match ← peek with
    | some .key => do
      drop
      let k ← part
      let v ← if ← accept .value then part else pure Node.none
      return (k, v) :: (← pairs fuel)
    | some .blockEnd => do
      drop
      return []
    | _ => throw .malformed

/-- The items of a sequence in brackets. A key makes a mapping of one pair. -/
def flowItems : Nat → Compose (List Node)
  | 0 => throw .malformed
  | fuel + 1 => do
    if ← accept .flowSequenceEnd then return []
    else
      let n ← if ← accept .key then
          let k ← if ← nextIs [.value, .comma, .flowSequenceEnd] then pure Node.none else node .flow fuel
          let v ← if ← accept .value then
              if ← nextIs [.comma, .flowSequenceEnd] then pure Node.none else node .flow fuel
            else pure Node.none
          pure (Node.mapping (common ++ "map") [(k, v)])
        else node .flow fuel
      unless ← nextIs [.flowSequenceEnd] do expect .comma
      return n :: (← flowItems fuel)

/-- The pairs of a mapping in brackets. What is no pair is a key. -/
def flowPairs : Nat → Compose (List (Node × Node))
  | 0 => throw .malformed
  | fuel + 1 => do
    if ← accept .flowMappingEnd then return []
    else
      let pair ← if ← accept .key then
          let k ← if ← nextIs [.value, .comma, .flowMappingEnd] then pure Node.none else node .flow fuel
          let v ← if ← accept .value then
              if ← nextIs [.comma, .flowMappingEnd] then pure Node.none else node .flow fuel
            else pure Node.none
          pure (k, v)
        else do
          pure (← node .flow fuel, Node.none)
      unless ← nextIs [.flowMappingEnd] do expect .comma
      return pair :: (← flowPairs fuel)

end

/-- The directives of a document. A version is told once, and so is every handle. -/
def directives : Nat → Bool → List (List Char × List Char) → Compose (List (List Char × List Char))
  | 0, _, _ => throw .malformed
  | fuel + 1, told, handles => do
    match ← peek with
    | some (.version major) => do
      drop
      if told ∨ major ≠ 1 then throw .malformed
      directives fuel true handles
    | some (.handle name start) => do
      drop
      if handles.any (·.1 = name) then throw .malformed
      directives fuel told ((name, start) :: handles)
    | some .otherDirective => do
      drop
      directives fuel told handles
    | _ => return handles

def usualHandles : List (List Char × List Char) := [(['!'], ['!']), (['!', '!'], common.toList)]

def isDirective : Token → Bool
  | .version _ | .handle .. | .otherDirective => true
  | _ => false

/-- The node of the only document of a text, and none if there is no document. -/
def document (fuel : Nat) : Compose (Option Node) := do
  match ← peek with
  | none => return none
  | some t =>
    let root ←
      if isDirective t ∨ t = .documentStart then do
        let handles ← directives fuel false []
        modify fun c => { c with handles := handles ++ usualHandles }
        expect .documentStart
        match ← peek with
        | none | some .documentEnd => pure Node.none
        | some t => if isDirective t ∨ t = .documentStart then throw .malformed else node .block fuel
      else node .block fuel
    if (← get).tokens.all (· = .documentEnd) then return root else throw .malformed

end Compose

/-- The node of the only document of a text, and none if there is no document. -/
def Node.read (s : List Char) : Except Fault (Option Node) := do
  let ts ← tokens s
  return (← (Compose.document (2 * ts.length + 2)).run { tokens := ts, handles := Compose.usualHandles }).1

end PageSkins.Yaml
