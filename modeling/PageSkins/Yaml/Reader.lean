import PageSkins.Decimal.Number
import PageSkins.Value
import PageSkins.Yaml.Node

/-!
# The values of YAML documents

The tags of nodes tell what they stand for.
-/

namespace PageSkins.Yaml

/-- Whether two keys are one. Numbers and flags are compared as numbers. -/
def sameKey (a b : Value) : Bool :=
  let number? : Value → Option Decimal.Number
    | .int n => some (.int n)
    | .float x => some (.float x)
    | .bool b => some (.int (if b then 1 else 0))
    | _ => none
  match number? a, number? b with
  | some m, some n => Decimal.Number.compare? m n = some .eq
  | none, none =>
    match a, b with
    | .text s, .text t => s = t
    | .null, .null => true
    | .date d, .date e => d = e
    | .moment t, .moment u => t = u
    | _, _ => false
  | _, _ => false

def isKey : Value → Bool
  | .list _ | .map _ | .keyed _ => false
  | _ => true

/-- Sets the value of a key in place, or at the end if it is new. -/
def putKey : List (Value × Value) → Value → Value → List (Value × Value)
  | [], k, v => [(k, v)]
  | (l, w) :: rest, k, v => if sameKey l k then (l, v) :: rest else (l, w) :: putKey rest k v

/-- A map of pairs in which a later value of a key replaces an earlier one. -/
def mapOf (ps : List (Value × Value)) : Value :=
  let es := ps.foldl (fun es p => putKey es p.1 p.2) []
  match es.mapM fun (k, v) => k.text?.map fun k => (k, v) with
  | some fs => .map fs
  | none => .keyed es

/-- The pairs of a mapping, those first that it takes in from others. The fuel bounds how often one takes in
another. -/
def allPairs : Nat → List (Node × Node) → Except Fault (List (Node × Node))
  | 0, _ => .error .malformed
  | fuel + 1, ps => do
    let isMerge (p : Node × Node) : Bool := match p.1 with
      | .scalar tag _ => tag = Look.merge.tag
      | _ => false
    let taken ← (ps.filter isMerge).mapM fun (_, v) => match v with
      | .mapping _ ps => allPairs fuel ps
      | .sequence _ ns => do
        let parts ← ns.mapM fun
          | .mapping _ ps => allPairs fuel ps
          | _ => .error .malformed
        return parts.reverse.flatten
      | .scalar .. => .error .malformed
    return taken.flatten ++ ps.filter fun p => !isMerge p

def scalarValue (tag : String) (s : List Char) : Except Fault Value := do
  if tag = Look.null.tag then return .null
  else if tag = Look.flag.tag then return .bool (← flagOf s)
  else if tag = Look.integer.tag then return .int (← integerOf s)
  else if tag = Look.float.tag then return .float (← floatOf s)
  else if tag = Look.moment.tag then
    match ← momentOf s with
    | .inl d => return .date d
    | .inr t => return .moment t
  else if tag = Look.text.tag then return .text (String.ofList s)
  else throw .malformed

/-- A key of a mapping. The key of a default value is text there. -/
def keyNode : Node → Node
  | .scalar tag s => .scalar (if tag = Look.default.tag then Look.text.tag else tag) s
  | n => n

def value : Nat → Node → Except Fault Value
  | 0, _ => .error .malformed
  | fuel + 1, n => do
    let pair (k v : Node) : Except Fault (Value × Value) := do
      let k ← value fuel k
      return (k, ← value fuel v)
    match n with
    | .scalar tag s => scalarValue tag s
    | .sequence tag ns =>
      if tag = common ++ "seq" then return .list (← ns.mapM (value fuel))
      else if tag = common ++ "omap" ∨ tag = common ++ "pairs" then
        return .list (← ns.mapM fun
          | .mapping _ [(k, v)] => do
            let (k, v) ← pair k v
            return .list [k, v]
          | _ => .error .malformed)
      else throw .malformed
    | .mapping tag ps =>
      if tag = common ++ "map" then
        let ps ← allPairs fuel ps
        return mapOf (← ps.mapM fun (k, v) => do
          let k ← value fuel (keyNode k)
          unless isKey k do throw .malformed
          return (k, ← value fuel v))
      else throw .malformed

/-- The value of the only document of a text, and null if there is none. -/
def read (s : List Char) : Except Fault Value := do
  match ← Node.read s with
  | some n => value (s.length + 1) n
  | none => return .null

end PageSkins.Yaml
