import PageSkins.Template.Parser
import PageSkins.Value.Literal
import PageSkins.Text.Escape

/-!
# Templates filled in

Names are looked up in a scope; values are escaped, except for the one field that holds
markup. Nesting is cut off at two limits: how deep blocks and included templates may nest
together, and how deep inclusions alone. There is no other limit: one that an interpreter
sets to its own recursion is left out, however large these two are.
-/

namespace PageSkins.Template

open PageSkins.Text PageSkins.Decimal

/-- The field whose value is markup already. -/
def rawField : String := "post_content"

/-- Why a template cannot be filled in. -/
inductive Fault where
  /-- An integer has too many digits to be written. -/
  | tooLong (name : String)
  /-- The table of templates to include is no table. -/
  | noTable
deriving Repr, DecidableEq

/-- An integer as text, unless it is too long. -/
def integerText (name : String) (n : Int) : Except Fault (List Char) :=
  if Value.tooLong n then .error (.tooLong name) else .ok (intText n)

/-- The text that stands for a value, before any escaping. Null, lists and maps have none; doubles that are
integers are written without a fraction. -/
def valueText (name : String) : Value → Except Fault (List Char)
  | .null | .list _ | .map _ | .keyed _ => .ok []
  | .bool b => .ok (if b then "true".toList else "false".toList)
  | .int n => integerText name n
  | .float x =>
    if isInteger x then integerText name ((truncate? x).getD 0) else .ok (floatText x)
  | v => .ok v.plain

def fieldText (name : String) (v : Value) : Except Fault (List Char) :=
  match v with
  | .bool _ => valueText name v
  | _ => (valueText name v).map fun s => if name = rawField then s else escape s

def itemTemplateName (collection : List Char) : List Char :=
  let r := collection.reverse
  let singular := match r with
    | 's' :: 'e' :: 'i' :: stem => stem.reverse ++ ['y']
    | 's' :: stem => stem.reverse
    | _ => collection
  singular ++ "_item".toList

/-- What names are looked up in: layers of named values, innermost first. -/
abbrev Scope := List Fields

/-- The value of a name in the innermost layer that has it. A null there hides the layers outside. -/
def Scope.find (name : String) : Scope → Value
  | [] => .null
  | layer :: rest => match layer.find? name with
    | some v => v
    | none => Scope.find name rest

/-- The templates that may be included, by name; `none` if what was given is no table. -/
abbrev Includes := Option Fields

/-- The template under a name, if there is one that is not empty. -/
def Includes.source? (inc : Includes) (name : String) : Except Fault (Option (List Char)) :=
  match inc with
  | none => .error .noTable
  | some fs => .ok (match fs.find? name with
    | some (.text s) => if s.isEmpty then none else some s.toList
    | _ => none)

def notFound (name : String) : List Char :=
  "<!-- partial \"".toList ++ escape name.toList ++ "\" not found -->".toList

def joined {α : Type} (f : α → Except Fault (List Char)) : List α → Except Fault (List Char)
  | [] => .ok []
  | a :: rest => do
    let s ← f a
    let t ← joined f rest
    return s ++ t

/-- The items that a loop runs over: those of a list, and none otherwise. -/
def loopItems : Value → List Value
  | .list items => items
  | _ => []

/-- The text of a node. `room` is how many levels of nesting are left, `inclusions` how many of them may be
inclusions. -/
def Node.render (inc : Includes) : (room : Nat) → (inclusions : Nat) → Scope → Node →
    Except Fault (List Char)
  | _, _, _, .text s => .ok s.toList
  | _, _, scope, .field name => fieldText name (scope.find name)
  | 0, _, _, .include name => do
    match ← inc.source? name with
    | none => return notFound name
    | some _ => return []
  | room + 1, inclusions, scope, .include name => do
    match ← inc.source? name, inclusions with
    | none, _ => return notFound name
    | some _, 0 => return []
    | some source, left + 1 => joined (Node.render inc room left scope) (parse source)
  | 0, _, _, .block .. => .ok []
  | room + 1, inclusions, scope, .block .cond name body =>
    if (scope.find name).isTruthy then joined (Node.render inc room inclusions scope) body else .ok []
  | room + 1, inclusions, scope, .block _ name body =>
    let items := loopItems (scope.find name)
    if items.isEmpty then .ok []
    else if isBlankBody body then do
      match ← inc.source? (String.ofList (itemTemplateName name.toList)), inclusions with
      | none, _ => return []
      | some _, 0 => return []
      | some source, left + 1 =>
        let item := parse source
        joined (fun v => joined (Node.render inc room left (v.fields :: scope)) item) items
    else joined (fun v => joined (Node.render inc room inclusions (v.fields :: scope)) body) items

structure Limits where
  depth : Nat := 32
  inclusions : Nat := 8
deriving Repr, DecidableEq

/-- The text of a template, or why there is none. -/
def render? (limits : Limits) (template : List Char) (scope : Fields) (inc : Includes) :
    Except Fault (List Char) :=
  joined (Node.render inc limits.depth limits.inclusions [scope]) (parse template)

/-- The text of a template, empty where it cannot be filled in. -/
def render (limits : Limits) (template : List Char) (scope : Fields) (inc : Includes) : List Char :=
  match render? limits template scope inc with
  | .ok s => s
  | .error _ => []

end PageSkins.Template
