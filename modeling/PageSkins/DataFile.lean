import PageSkins.Failure
import PageSkins.Json.Reader
import PageSkins.Yaml.Reader

/-!
# Data files

The files that templates and data are read from, and that results are written to.
-/

namespace PageSkins.DataFile

/-- Line ends as single line feeds. -/
def joinLineEnds : List Char → List Char
  | '\r' :: '\n' :: s => '\n' :: joinLineEnds s
  | '\r' :: s => '\n' :: joinLineEnds s
  | c :: s => c :: joinLineEnds s
  | [] => []

def failed (message : String) (path : Path) (operation : String) : Failure := .file message path.text operation []

def ofDisk (e : Disk.Error) (path : Path) (operation : String) : Failure :=
  if e.refusal = .badPath then .ofDisk e else failed e.message path operation

def read (d : Disk) (path : Path) : Except Failure (List Char) :=
  match d.read path with
  | .ok bytes =>
    match Text.decodeUtf8? bytes with
    | some s => .ok (joinLineEnds s)
    | none => .error (failed "'utf-8' codec can't decode bytes" path "read")
  | .error e =>
    if e.refusal = .missing then .error (failed "File not found" path "read") else .error (ofDisk e path "read")

/-- Whether a name is one of a YAML file; data are JSON otherwise. -/
def isYaml (path : Path) : Bool :=
  let suffix := path.suffix.toList.map Char.toLower
  suffix = ".yaml".toList || suffix = ".yml".toList

def parse (path : Path) (s : List Char) : Except Failure Value :=
  if isYaml path then
    match Yaml.read s with
    | .ok v => .ok v
    | .error f =>
      match f with
      | .malformed => .error (failed "Invalid YAML: the document is malformed" path "parse")
      | .badValue => .error (.mishap .badValue "A scalar is not what it looks like")
      | .overflow => .error (.mishap .overflow "A number is too large")
      | .noMoment => .error (.mishap .noSuchPart "A scalar is no moment")
      | .noDigits => .error (.mishap (.named "IndexError" false) "A number has no digits")
      | .unknownFlag w => .error (.mishap (.named "KeyError" false) (String.ofList (quotedText w.toList)))
  else
    match Json.read s with
    | .ok v => .ok v
    | .error .malformed => .error (failed "Invalid JSON: the document is malformed" path "parse")
    | .error .integerTooLong => .error (.mishap .badValue "An integer has too many digits")

/-- Reads with what is typed in at hand. -/
abbrev Reading (α : Type) := StateT (List Char) (Except Failure) α

/-- The text of a source: a dash stands for all that is typed in, any other name for a file. -/
def source (d : Disk) (name : String) : Reading (List Char) := do
  if name = "-" then
    let typed ← get
    set ([] : List Char)
    return joinLineEnds typed
  else read d (Path.ofText name)

def load (d : Disk) (name : String) : Reading Value := do parse (Path.ofText name) (← source d name)

/-- Writes a file, in a folder that is made if it is missing. One that is there already is overwritten only if
that is asked for. Folders stay even if the file cannot be written. -/
def write (d : Disk) (path : Path) (content : List Char) (overwrite : Bool) : Disk × Except Failure Unit :=
  match d.has path with
  | .error e => (d, .error (.ofDisk e))
  | .ok isThere =>
    if isThere ∧ !overwrite then
      (d, .error (failed "File already exists (use --force to overwrite)" path "write"))
    else
      match d.makeFolders path.parent with
      | (d, some e) => (d, .error (ofDisk e path "write"))
      | (d, none) =>
        match d.write path (Text.encodeUtf8 content) with
        | .ok d => (d, .ok ())
        | .error e => (d, .error (ofDisk e path "write"))

/-- A blank-free name and path from the two sides of an equals sign. -/
def partialParts? (spec : String) : Option (String × String) :=
  let s := spec.toList
  let name := Text.trim (s.takeWhile (· != '='))
  let path := Text.trim ((s.dropWhile (· != '=')).drop 1)
  if s.contains '=' ∧ !name.isEmpty ∧ !path.isEmpty then some (String.ofList name, String.ofList path) else none

/-- The templates that specifications like `name=path` tell, in order; the last one of a name counts. -/
def partials (d : Disk) (specs : List String) : Reading Fields := do
  let found ← specs.mapM fun spec => do
    match partialParts? spec with
    | some (name, path) => return (name, Value.text (String.ofList (← source d path)))
    | none => throw (.refusal .validation ("Invalid partial '" ++ spec ++ "'. Expected format: name=path"))
  return Fields.ofPairs found

end PageSkins.DataFile
