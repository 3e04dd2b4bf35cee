import PageSkins.Environment
import PageSkins.Failure
import PageSkins.Json.Writer
import PageSkins.Terminal.Table
import PageSkins.Text.Case
import PageSkins.Yaml.Writer

/-!
# Data shown to a user

As a table, as JSON or as YAML.
-/

namespace PageSkins.Output

inductive Format where
  | table
  | json
  | yaml
deriving Repr, DecidableEq

namespace Format

def all : List Format := [.table, .json, .yaml]

def name : Format → String
  | .table => "table"
  | .json => "json"
  | .yaml => "yaml"

def ofName (s : String) : Except Failure Format :=
  let s := String.ofList (Text.lower s.toList)
  match all.find? (·.name = s) with
  | some f => .ok f
  | none => .error (.refused .validation ("Unknown output format: " ++ s)
      [("supported", .list (all.map fun f => .text f.name))] [])

/-- The format that is asked for, or that the environment sets, or else JSON. -/
def choose (wanted : Option String) (env : Environment) : Except Failure Format :=
  match wanted.filter (!·.isEmpty), env.outputFormat? with
  | some s, _ => ofName s
  | none, some s => ofName s
  | none, none => .ok .json

end Format

structure TableTerms where
  columns : List String := []
  title : String := ""
  hasLines : Bool := false

def ofFault (f : Terminal.Fault) : Failure :=
  match f with
  | .strayTag _ => .mishap (.named "MarkupError" false) f.message
  | .noRoom => .mishap .badValue f.message

def cellText (v : Value) : Except Failure String :=
  if Json.hasLongInteger v then .error (.mishap .badValue "An integer has too many digits")
  else match v with
    | .null => .ok ""
    | .bool b => .ok (if b then "✓" else "✗")
    | .list _ | .map _ | .keyed _ => .ok (String.ofList (Json.write ⟨false, none⟩ v))
    | v => .ok (String.ofList v.plain)

/-- The head of a column: the name of a field with blanks and capitals. -/
def headOf (name : String) : String :=
  String.ofList (Text.title (name.toList.map fun c => if c = '_' then ' ' else c))

def wrongKind : Failure := .mishap .wrongKind "The data are no records"

def noSuchPart : Failure := .mishap .noSuchPart "A record is no map"

/-- What a record names its columns by: the keys of a map, the items of a list, the characters of a text. -/
def recordNames : Value → Except Failure (List Value)
  | .map fs => .ok ((Fields.names fs).map .text)
  | .keyed es => .ok (es.map (·.1))
  | .list vs => .ok vs
  | .text s => .ok (s.toList.map fun c => .text (String.singleton c))
  | _ => .error wrongKind

/-- The names of all records, each once. -/
def columnNames (records : List Value) : Except Failure (List String) := do
  let names ← records.mapM recordNames
  let texts ← names.flatten.mapM fun v => v.text?.elim (.error noSuchPart) .ok
  return texts.foldl (fun seen n => if seen.contains n then seen else seen ++ [n]) []

def rowOf (columns : List String) (record : Value) : Except Failure (List String) :=
  columns.mapM fun c => match record with
    | .map fs => cellText (Fields.get fs c)
    | .keyed es => cellText ((es.find? fun (k, _) => k.text? = some c).elim .null (·.2))
    | _ => .error noSuchPart

def showTable (screen : Nat) (t : Terminal.Table) : Except Failure (List Char) :=
  (Terminal.print screen <$> t.lines screen).mapError ofFault

/-- The table of records, one row each. -/
def recordTable (terms : TableTerms) (records : List Value) : Except Failure Terminal.Table := do
  let columns ← if terms.columns.isEmpty then columnNames records else pure terms.columns
  return {
    frame := .rounded, title := terms.title, hasLines := terms.hasLines
    columns := columns.map fun c => ⟨headOf c, { justify := .left }⟩
    rows := ← records.mapM (rowOf columns) }

/-- The table of named values, one row each. -/
def pairTable (title : String) (pairs : List (String × Value)) : Except Failure Terminal.Table := do
  return {
    frame := .rounded, title
    columns := [⟨"Key", { justify := .left, overflow := .ellipsis, wraps := false }⟩, ⟨"Value", { justify := .left }⟩]
    rows := ← pairs.mapM fun (k, v) => return [k, ← cellText v] }

def isGroup : Value → Bool
  | .list _ | .map _ | .keyed _ => true
  | _ => false

/-- Data as a table: a map of single values with a row for each, and all else with a row for each record. -/
def table (screen : Nat) (terms : TableTerms) (v : Value) : Except Failure (List Char) := do
  if !v.isTruthy then return "No data to display\n".toList
  match v with
  | .map fs =>
    if fs.any fun (_, v) => isGroup v then showTable screen (← recordTable terms [v])
    else showTable screen (← pairTable terms.title fs)
  | .keyed es =>
    if es.any fun (_, v) => isGroup v then showTable screen (← recordTable terms [v])
    else showTable screen (← pairTable terms.title (es.map fun (k, v) => (String.ofList k.plain, v)))
  | .list vs => showTable screen (← recordTable terms vs)
  | .text s => showTable screen (← recordTable terms (s.toList.map fun c => .text (String.singleton c)))
  | _ => throw wrongKind

def json (v : Value) : Except Failure (List Char) :=
  if Json.hasLongInteger v then
    .error (.refusal .validation ("Failed to serialize data to JSON: Exceeds the limit (4300 digits) for integer " ++
      "string conversion; use sys.set_int_max_str_digits() to increase the limit"))
  else .ok (Json.write ⟨false, some 2⟩ v ++ ['\n'])

def yaml (v : Value) : Except Failure (List Char) :=
  if Json.hasLongInteger v then .error (.mishap .badValue "An integer has too many digits") else .ok (Yaml.write v)

/-- Data in a format, as it is printed on a screen of so many columns. -/
def render (screen : Nat) (format : Format) (terms : TableTerms) (v : Value) : Except Failure (List Char) :=
  match format with
  | .table => table screen terms v
  | .json => json v
  | .yaml => yaml v

end PageSkins.Output
