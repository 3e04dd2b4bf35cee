import PageSkins.CommandLine.Run

/-!
# The program

What the arguments and the configuration name is read from the machine, the command line is
run on that, and what has changed is written back. No connection is built in, so a backend
never answers.
-/

open PageSkins

/-- Reads what stands at a path, and the files of a folder. What cannot be read is left out. -/
def loadPath (d : Disk) (path : String) : IO Disk := do
  match ← (IO.FS.realPath path).toBaseIO with
  | .error _ => return d
  | .ok real =>
    let p := Path.ofText path
    match d.find p with
    | .ok (place, _) =>
      if ← real.isDir then
        let mut d := d.set place .folder
        for entry in ← real.readDir do
          if ← entry.path.isDir then d := d.set (place ++ [entry.fileName]) .folder
          else match ← (IO.FS.readBinFile (path ++ "/" ++ entry.fileName)).toBaseIO with
            | .ok bytes => d := d.set (place ++ [entry.fileName]) (.file bytes.toList)
            | .error _ => pure ()
        return d
      else match ← (IO.FS.readBinFile path).toBaseIO with
        | .ok bytes => return d.set place (.file bytes.toList)
        | .error _ => return d
    | .error _ => return d

def loadWay (d : Disk) (path : String) : IO Disk := do
  let p := Path.ofText path
  let mut d := d
  for n in List.range p.parts.length do
    let way : Path := { p with parts := p.parts.take n }
    if ← (← IO.FS.realPath way.text).isDir then
      if let .ok (place, none) := d.find way then d := d.set place .folder
  loadPath d path

/-- Makes folders and writes files that are new or changed, and removes files that are gone. -/
def saveDisk (before after : Disk) : IO Unit := do
  let path (place : List String) : String := "/" ++ "/".intercalate place
  for (place, entry) in after.entries do
    if before.at? place ≠ some entry then
      match entry with
      | .folder => IO.FS.createDirAll (path place)
      | .file bytes => IO.FS.writeBinFile (path place) (ByteArray.mk bytes.toArray)
  for (place, entry) in before.entries do
    if entry ≠ .folder ∧ (after.at? place).isNone then IO.FS.removeFile (path place)

partial def readAll (h : IO.FS.Stream) (bytes : ByteArray) : IO ByteArray := do
  let more ← h.read 65536
  if more.isEmpty then return bytes else readAll h (bytes ++ more)

/-- The seconds since the start of 1970, as a file made just now tells them. -/
def secondsNow : IO Int := do
  let (_, path) ← IO.FS.createTempFile
  let stamp := (← path.metadata).modified
  IO.FS.removeFile path
  return stamp.sec

def unreachable : Backend.Server Unit := fun _ s => (.error (.network .connection "No connection is built in"), s)

def readEnvironment : IO Environment := do
  let names := [Environment.urlName, Environment.tokenName, Environment.formatName, Environment.folderName]
  let found ← names.mapM fun n => return (← IO.getEnv n).map fun v => (n, v)
  return ⟨found.filterMap id⟩

def main (args : List String) : IO UInt32 := do
  let environment ← readEnvironment
  let home := (← IO.getEnv "HOME").getD "/"
  let folder := environment.configFolder?.elim (CommandLine.usualFolder home) Path.ofText
  let here := (Path.ofText (← IO.currentDir).toString).parts
  let named := args ++ args.map fun a => String.ofList ((a.toList.dropWhile (· != '=')).drop 1)
  let paths := named ++ [folder.text, (ProfileStore.profilesFolder folder).text]
  let disk ← paths.foldlM loadWay (.empty here)
  let usesInput := args.any ["-", "sanitize", "config"].contains
  let input ← if usesInput then readAll (← IO.getStdin) ByteArray.empty else pure ByteArray.empty
  let now ← secondsNow
  let year := ((Date.ofNumber? (719163 + now.toNat / 86400)).map Date.year).getD 1970
  let setting : CommandLine.Setting Unit := { environment, serve := unreachable, now := .int now, year }
  let (ending, after) := CommandLine.execute setting folder args {
    disk, store := ⟨folder, [], none⟩, server := (), input := DataFile.joinLineEnds (Text.decodeLossy input.toList) }
  saveDisk disk after.disk
  let stdout ← IO.getStdout
  stdout.putStr (String.ofList after.output)
  stdout.flush
  for line in after.log do IO.eprintln line
  IO.eprint (String.ofList after.errors)
  if ending.code = 2 then IO.eprintln "Usage: blogskin [OPTIONS] COMMAND [ARGS]..."
  ending.escaped.forM fun f => IO.eprintln (f.report true)
  return UInt32.ofNat ending.code
