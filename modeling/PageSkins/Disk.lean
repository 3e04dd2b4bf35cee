import PageSkins.Text.Blank
import PageSkins.Text.Utf8
import PageSkins.Value.Literal

/-!
# Folders and files

A disk of folders and files, and what can go wrong with it. Paths are read from a working
folder; a path can climb out of a folder with two points, and it starts at the top with a
slash. There are no symbolic links.
-/

namespace PageSkins

structure Path where
  absolute : Bool := false
  /-- The names on the way; two points lead up. -/
  parts : List String := []
deriving Repr, DecidableEq, Inhabited

namespace Path

def splitSlashes (s : List Char) : List (List Char) :=
  s.foldr (fun c parts => if c = '/' then [] :: parts else match parts with
    | part :: rest => (c :: part) :: rest
    | [] => [[c]]) [[]]

/-- The path that a text stands for. Slashes that follow each other count once, and a point stands for where one
is. -/
def ofText (s : String) : Path where
  absolute := s.toList.head? = some '/'
  parts := ((splitSlashes s.toList).map String.ofList).filter fun p => p ≠ "" ∧ p ≠ "."

/-- The path as text. The working folder itself is a point. -/
def text (p : Path) : String :=
  let body := "/".intercalate p.parts
  if p.absolute then "/" ++ body else if p.parts.isEmpty then "." else body

/-- A path from within a folder. A path from the top stays what it is. -/
def join (folder p : Path) : Path := if p.absolute then p else { folder with parts := folder.parts ++ p.parts }

def child (folder : Path) (name : String) : Path := folder.join (ofText name)

def parent (p : Path) : Path := { p with parts := p.parts.dropLast }

/-- What follows the last point of a name, the point included. A name has none if the point is its first or last
character. -/
def suffix (p : Path) : String :=
  let name := ((p.parts.getLast?).getD "").toList
  let tail := (name.reverse.takeWhile (· != '.')).reverse
  if name.contains '.' ∧ tail ≠ [] ∧ tail.length + 1 < name.length then String.ofList ('.' :: tail) else ""

/-- Whether a path has a character that no path may have. -/
def hasNull (p : Path) : Bool := p.parts.any fun n => n.toList.contains '\x00'

end Path

/-- What stands at a place of a disk. -/
inductive Entry where
  | folder
  | file (bytes : List UInt8)
deriving Repr, DecidableEq

/-- Folders and files by the names that lead to them from the top. -/
structure Disk where
  /-- Where the working folder is. -/
  workplace : List String
  entries : List (List String × Entry)

namespace Disk

inductive Refusal where
  | missing
  | notFolder
  | isFolder
  | exists
  | nameTooLong
  /-- The path has a character that no path may have. -/
  | badPath
deriving Repr, DecidableEq

def Refusal.number : Refusal → Nat
  | .missing => 2
  | .exists => 17
  | .notFolder => 20
  | .isFolder => 21
  | .nameTooLong => 36
  | .badPath => 0

def Refusal.text : Refusal → String
  | .missing => "No such file or directory"
  | .exists => "File exists"
  | .notFolder => "Not a directory"
  | .isFolder => "Is a directory"
  | .nameTooLong => "File name too long"
  | .badPath => "embedded null byte"

structure Error where
  refusal : Refusal
  path : Path
deriving Repr, DecidableEq

def Error.message (e : Error) : String :=
  String.ofList ("[Errno ".toList ++ Decimal.natDigits e.refusal.number ++ "] ".toList ++
    e.refusal.text.toList ++ ": ".toList ++ quotedText e.path.text.toList)

/-- A disk with nothing but an empty working folder. -/
def empty (workplace : List String := ["tmp", "work"]) : Disk where
  workplace := workplace
  entries := (List.range workplace.length).map fun n => (workplace.take (n + 1), .folder)

/-- What stands at a place. At the top stands a folder. -/
def at? (d : Disk) (place : List String) : Option Entry :=
  if place.isEmpty then some .folder else d.entries.lookup place

def set (d : Disk) (place : List String) (e : Entry) : Disk :=
  if d.entries.any (fun x => x.1 == place) then
    { d with entries := d.entries.map fun x => if x.1 = place then (place, e) else x }
  else { d with entries := d.entries ++ [(place, e)] }

def remove (d : Disk) (place : List String) : Disk :=
  { d with entries := d.entries.filter fun x => x.1 != place }

/-- The most bytes that a name may have. -/
def maxName : Nat := 255

def step (d : Disk) (place : List String) (name : String) : Except Refusal (List String × Option Entry) :=
  if name = ".." then .ok (place.dropLast, some .folder)
  else if name.utf8ByteSize > maxName then .error .nameTooLong
  else .ok (place ++ [name], d.at? (place ++ [name]))

/-- Follows names from a folder. All but the last have to lead to folders. -/
def walk (d : Disk) (place : List String) : List String → Except Refusal (List String × Option Entry)
  | [] => .ok (place, some .folder)
  | [name] => d.step place name
  | name :: rest =>
    match d.step place name with
    | .ok (place, some .folder) => walk d place rest
    | .ok (_, some (.file _)) => .error .notFolder
    | .ok (_, none) => .error .missing
    | .error e => .error e

def find (d : Disk) (p : Path) : Except Refusal (List String × Option Entry) :=
  if p.hasNull then .error .badPath
  else d.walk (if p.absolute then [] else d.workplace) p.parts

/-- Whether something stands at the end of a path. A path that cannot be followed leads to nothing, but names
that are too long are refused. -/
def has (d : Disk) (p : Path) : Except Error Bool :=
  match d.find p with
  | .ok (_, e) => .ok e.isSome
  | .error .nameTooLong => .error ⟨.nameTooLong, p⟩
  | .error _ => .ok false

def isFolder (d : Disk) (p : Path) : Bool :=
  match d.find p with
  | .ok (_, some .folder) => true
  | _ => false

def read (d : Disk) (p : Path) : Except Error (List UInt8) :=
  match d.find p with
  | .ok (_, some (.file bytes)) => .ok bytes
  | .ok (_, some .folder) => .error ⟨.isFolder, p⟩
  | .ok (_, none) => .error ⟨.missing, p⟩
  | .error e => .error ⟨e, p⟩

/-- Writes a file, new or over an old one. -/
def write (d : Disk) (p : Path) (bytes : List UInt8) : Except Error Disk :=
  match d.find p with
  | .ok (_, some .folder) => .error ⟨.isFolder, p⟩
  | .ok (place, _) => .ok (d.set place (.file bytes))
  | .error e => .error ⟨e, p⟩

def unlink (d : Disk) (p : Path) : Except Error Disk :=
  match d.find p with
  | .ok (place, some (.file _)) => .ok (d.remove place)
  | .ok (_, some .folder) => .error ⟨.isFolder, p⟩
  | .ok (_, none) => .error ⟨.missing, p⟩
  | .error e => .error ⟨e, p⟩

/-- Makes a folder where nothing stands. -/
def makeOne (d : Disk) (p : Path) : Except Refusal Disk :=
  match d.find p with
  | .ok (_, some _) => .error .exists
  | .ok (place, none) => .ok (d.set place .folder)
  | .error e => .error e

/-- Makes a folder, if there is none yet, in a folder that is there. -/
def makeFolder (d : Disk) (p : Path) : Except Error Disk :=
  match d.makeOne p with
  | .ok d => .ok d
  | .error e => if e ≠ .missing ∧ e ≠ .badPath ∧ d.isFolder p then .ok d else .error ⟨e, p⟩

/-- Makes a folder and those around it that are missing. Folders stay that were made before an error. -/
def makeFolders (d : Disk) (p : Path) : Disk × Option Error := go p.parts.length p
where
  go : Nat → Path → Disk × Option Error
    | left, p =>
      match d.makeOne p with
      | .ok d => (d, none)
      | .error .missing =>
        match left with
        | 0 => (d, some ⟨.missing, p⟩)
        | left + 1 =>
          match go left p.parent with
          | (d, some e) => (d, some e)
          | (d, none) =>
            match d.makeFolder p with
            | .ok d => (d, none)
            | .error e => (d, some e)
      | .error e => if e ≠ .badPath ∧ d.isFolder p then (d, none) else (d, some ⟨e, p⟩)

/-- The names in a folder that end with a suffix, each before those that follow it in order. -/
def namesIn (d : Disk) (folder : Path) (suffix : String) : List String :=
  match d.find folder with
  | .ok (place, some .folder) =>
    let names := d.entries.filterMap fun (p, _) =>
      match p.getLast? with
      | some name => if p.dropLast = place ∧ suffix.toList.isSuffixOf name.toList then some name else none
      | none => none
    names.mergeSort fun a b => decide (a ≤ b)
  | _ => []

def files (d : Disk) : List (String × List UInt8) :=
  d.entries.filterMap fun (p, e) =>
    match e with
    | .file bytes =>
      if d.workplace.isPrefixOf p then some ("/".intercalate (p.drop d.workplace.length), bytes) else none
    | .folder => none

end Disk
end PageSkins
