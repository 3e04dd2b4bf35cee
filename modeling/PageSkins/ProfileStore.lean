import PageSkins.Environment
import PageSkins.Failure
import PageSkins.Json.Reader
import PageSkins.Json.Writer
import PageSkins.Profile
import PageSkins.Toml.Document
import PageSkins.WebAddress.Outline

/-!
# Profiles kept in a folder

Each profile has a file in a subfolder, and one more file names the profile in use.
-/

namespace PageSkins

/-- The profiles of a folder. No two have the same name. -/
structure ProfileStore where
  folder : Path
  profiles : List Profile := []
  /-- The name of the profile in use. -/
  selected : Option String := none

namespace ProfileStore

def configFile (folder : Path) : Path := folder.child "config.toml"

def profilesFolder (folder : Path) : Path := folder.child "profiles"

def profileFile (folder : Path) (name : String) : Path := (profilesFolder folder).child (name ++ ".json")

def find? (s : ProfileStore) (name : String) : Option Profile := s.profiles.find? fun p => p.name = name

def has (s : ProfileStore) (name : String) : Bool := (s.find? name).isSome

/-- Adds a profile, or puts it in place of the one with its name. -/
def insert (s : ProfileStore) (p : Profile) : ProfileStore :=
  { s with profiles :=
      if s.has p.name then s.profiles.map fun q => if q.name = p.name then p else q else s.profiles ++ [p] }

def remove (s : ProfileStore) (name : String) : ProfileStore :=
  { s with
    profiles := s.profiles.filter fun p => p.name != name
    selected := if s.selected = some name then none else s.selected }

def sorted (s : ProfileStore) : List Profile := s.profiles.mergeSort fun p q => decide (p.name ≤ q.name)

/-- What is shown of all profiles. -/
def list (s : ProfileStore) : List Fields := s.sorted.map (Profile.shown s.selected)

/-- The text of the file that names the profile in use. An empty name is not written. -/
def configText (selected : Option String) : List Char :=
  "# blogskin configuration\nversion = \"1.0\"\n".toList ++
    match selected.filter fun n => !n.isEmpty with
    | some n => "active_profile = ".toList ++ Json.quoted true n.toList ++ ['\n']
    | none => []

def profileText (p : Profile) : List Char := Json.write ⟨true, some 2⟩ (.map p.toFields)

/-! ## Loading -/

/-- Why the file of a profile is not taken. -/
inductive Unread where
  /-- The file is passed over. -/
  | skipped
  /-- The file holds no record; that ends the loading. -/
  | notRecord
deriving Repr, DecidableEq

def readProfile (bytes : List UInt8) : Except Unread Profile :=
  match Text.decodeUtf8? bytes with
  | none => .error .skipped
  | some s =>
    match Json.read s with
    | .error _ => .error .skipped
    | .ok (.map fs) =>
      match Profile.check fs with
      | .ok p => .ok p
      | .bad _ => .error .skipped
    | .ok _ => .error .notRecord

structure Loaded where
  store : ProfileStore
  log : List String := []

def loadFiles (d : Disk) : List String → Loaded → Except (Mishap × List String) Loaded
  | [], l => .ok l
  | name :: rest, l =>
    let skipped : Loaded := { l with log := l.log ++ ["Failed to load profile " ++ name] }
    match d.read ((profilesFolder l.store.folder).join ⟨false, [name]⟩) with
    | .error _ => loadFiles d rest skipped
    | .ok bytes =>
      match readProfile bytes with
      | .ok p => loadFiles d rest { l with store := l.store.insert p }
      | .error .skipped => loadFiles d rest skipped
      | .error .notRecord => .error (.wrongKind, l.log)

def readConfig (bytes : List UInt8) : Except Failure Fields :=
  match Text.decodeUtf8? bytes with
  | none => .error (.mishap .notText "The configuration is no text")
  | some s =>
    match Toml.read s with
    | .ok fs => .ok fs
    | .error .malformed => .error (.refusal .config "Failed to load configuration: no valid document")
    | .error .integerTooLong => .error (.mishap .badValue "An integer has too many digits")

/-- The profile in use as the configuration names it. A name that no profile has is dropped. -/
def chosen (s : ProfileStore) : Value → Except Failure (Option String)
  | .text n => .ok (if !n.isEmpty && s.has n then some n else none)
  | .list (_ :: _) | .map (_ :: _) => .error (.mishap .wrongKind "The name of the profile in use is no text")
  | _ => .ok none

structure Opening where
  disk : Disk
  log : List String := []
  result : Except Failure ProfileStore

/-- Loads the profiles of a folder. Without a configuration there are none. -/
def load (d : Disk) (folder : Path) : List String × Except Failure ProfileStore :=
  match d.has (configFile folder) with
  | .error e => ([], .error (.ofDisk e))
  | .ok false => ([], .ok ⟨folder, [], none⟩)
  | .ok true =>
    match d.read (configFile folder) with
    | .error e => ([], .error (.refusal .config ("Failed to load configuration: " ++ e.message)))
    | .ok bytes =>
      match readConfig bytes with
      | .error f => ([], .error f)
      | .ok fs =>
        match loadFiles d (d.namesIn (profilesFolder folder) ".json") ⟨⟨folder, [], none⟩, []⟩ with
        | .error (m, log) => (log, .error (.mishap m "The file of a profile holds no record"))
        | .ok l =>
          match chosen l.store (fs.get "active_profile") with
          | .ok selected => (l.log, .ok { l.store with selected })
          | .error f => (l.log, .error f)

/-- Opens a folder, which is made where there is none. -/
def openFolder (d : Disk) (folder : Path) : Opening :=
  match d.makeFolders folder with
  | (d, some e) => ⟨d, [], .error (.ofDisk e)⟩
  | (d, none) =>
    match d.makeFolder (profilesFolder folder) with
    | .error e => ⟨d, [], .error (.ofDisk e)⟩
    | .ok d =>
      let (log, result) := load d folder
      ⟨d, log, result⟩

/-! ## Changing -/

structure Session where
  disk : Disk
  store : ProfileStore

/-- A change. What is done before a failure stays done. -/
abbrev Change := ExceptT Failure (StateM Session)

def update (f : ProfileStore → ProfileStore) : Change Unit := modify fun s => { s with store := f s.store }

def write (path : Path) (text : List Char) (refusal : String) : Change Unit := do
  let s ← get
  match s.disk.write path (Text.encodeUtf8 text) with
  | .ok disk => set { s with disk }
  | .error e =>
    if e.refusal = .badPath then throw (.ofDisk e)
    else throw (.refusal .config (refusal ++ ": " ++ e.message))

/-- Writes which profile is in use. -/
def saveConfig : Change Unit := do
  let s := (← get).store
  write (configFile s.folder) (configText s.selected) "Failed to save configuration"

def saveProfile (p : Profile) : Change Unit := do
  write (profileFile (← get).store.folder p.name) (profileText p) "Failed to save profile"

/-- A name as text. Lists and maps are no names. -/
def nameOf : Value → Except Failure (Option String)
  | .text n => .ok (some n)
  | .list _ | .map _ | .keyed _ => .error (.mishap .wrongKind "A name is no text")
  | _ => .ok none

def lookup (s : ProfileStore) (name : Value) : Except Failure Profile := do
  match (← nameOf name).bind s.find? with
  | some p => return p
  | none => throw (.refusal .config ("Profile '" ++ String.ofList name.plain ++ "' not found"))

/-- What a new profile is made from. -/
structure Terms where
  name : Value
  apiUrl : Value
  accessToken : Value := .null
  timeout : Value := .int 30
  retries : Value := .int 3

/-- Refuses an address that names no scheme or no host. -/
def checkOutline (url : Value) : Except Failure Unit :=
  let incomplete : Failure := .refused .config "Invalid URL format" [("api_url", url)] []
  match url with
  | .text s =>
    match WebAddress.outline s.toList with
    | .complete => .ok ()
    | .incomplete => .error incomplete
    | .badHost => .error (.mishap .badValue "The host of the address is no host")
  | v => if v.isTruthy then .error (.mishap .noSuchPart "The address is no text") else .error incomplete

def profileOf (t : Terms) : Except Failure Profile :=
  match Profile.check [("name", t.name), ("api_url", t.apiUrl), ("access_token", t.accessToken),
      ("timeout", t.timeout), ("retry_attempts", t.retries)] with
  | .ok p => .ok p
  | .bad issues => .error (.ofIssues .config "Failed to create profile" issues)

/-- Makes a profile. The first one is the one in use. -/
def create (t : Terms) : Change Profile := do
  let s := (← get).store
  if let some n ← nameOf t.name then
    if s.has n then throw (.refusal .config ("Profile '" ++ n ++ "' already exists"))
  checkOutline t.apiUrl
  let p ← profileOf t
  let p := { p with active := s.selected.isNone }
  update fun s => { s.insert p with selected := s.selected <|> some p.name }
  saveProfile p
  saveConfig
  return p

/-- Makes a profile the one in use. -/
def select (name : Value) : Change Unit := do
  let p ← lookup (← get).store name
  update fun s =>
    { s with profiles := s.profiles.map fun q => { q with active := q.name == p.name }, selected := some p.name }
  saveConfig

/-- Removes a profile and its file, if it has one. -/
def delete (name : Value) : Change Unit := do
  let p ← lookup (← get).store name
  update fun s => s.remove p.name
  let s ← get
  let file := profileFile s.store.folder p.name
  match s.disk.has file with
  | .error e => throw (.ofDisk e)
  | .ok false => pure ()
  | .ok true =>
    match s.disk.unlink file with
    | .ok disk => set { s with disk }
    | .error e => throw (.ofDisk e)
  saveConfig

/-! ## Choosing -/

def inUse (s : ProfileStore) : Except Failure Profile :=
  match s.selected.filter fun n => !n.isEmpty with
  | none => .error (.refusal .config "No default profile set")
  | some n =>
    match s.find? n with
    | some p => .ok p
    | none => .error (.mishap .badValue "The profile in use is not there")

def ofEnvironment (e : Environment) : Except Failure Profile :=
  match e.apiUrl? with
  | none => .error (.refusal .config (Environment.urlName ++ " environment variable is required"))
  | some url =>
    match Profile.check [("name", .text "environment"), ("api_url", .text url),
        ("access_token", e.accessToken?.elim .null .text), ("active", .bool true)] with
    | .ok p => .ok p
    | .bad issues => .error (.ofIssues .config "Invalid environment configuration" issues)

/-- The profile to work with: the one that is named, or else that of the environment, or else the one in use. -/
def resolve (s : ProfileStore) (e : Environment) (name : Value) : Except Failure Profile :=
  if name.isTruthy then s.lookup name
  else if e.apiUrl?.isSome then ofEnvironment e
  else s.inUse

end ProfileStore
end PageSkins
