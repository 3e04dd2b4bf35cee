import PageSkins.Backend.Client
import PageSkins.DataFile
import PageSkins.Output
import PageSkins.ProfileStore

/-!
# Sessions at a terminal

What commands read, write, print and ask.
-/

namespace PageSkins.CommandLine

open PageSkins.Backend

/-- What does not change while a command runs. -/
structure Setting (σ : Type) where
  environment : Environment
  serve : Server σ
  /-- The time of day in seconds. -/
  now : Decimal.Number
  year : Nat
  /-- The columns of the screen. -/
  screen : Nat := 80
  debug : Bool := false

structure Session (σ : Type) where
  disk : Disk
  store : ProfileStore
  server : σ
  /-- What is typed in and not yet read. -/
  input : List Char := []
  output : List Char := []
  errors : List Char := []
  log : List String := []
  /-- The random numbers that a client stretches its delays by. -/
  draws : Nat → Float := fun _ => 0.0

/-- Why a command ends early. -/
inductive Stop where
  | failed (f : Failure)
  | exit (code : Nat)

/-- What a command does. Whatever it has done before it stops stays done. -/
abbrev Act (σ : Type) := ReaderT (Setting σ) (ExceptT Stop (StateM (Session σ)))

namespace Act

variable {σ α : Type}

def fail (f : Failure) : Act σ α := throw (.failed f)

def ofExcept (x : Except Failure α) : Act σ α :=
  match x with
  | .ok a => pure a
  | .error f => fail f

def put (s : List Char) : Act σ Unit := modify fun x => { x with output := x.output ++ s }

/-- The text of a piece of output, with the columns of the screen. -/
def shown (f : Nat → Except Terminal.Fault (List Char)) : Act σ (List Char) := do
  ofExcept ((f (← read).screen).mapError Output.ofFault)

/-- Prints tagged text. -/
def say (s : String) : Act σ Unit := do put (← shown fun n => Terminal.say n s.toList)

/-- Prints text without tags. -/
def sayPlain (s : String) : Act σ Unit := do put (← shown fun n => Terminal.sayPlain n s.toList)

/-- Prints text as it is, but for colors. -/
def echo (s : List Char) : Act σ Unit := put (Terminal.dropColors s.length s ++ ['\n'])

def complain (s : List Char) : Act σ Unit := do
  let s ← shown fun n => Terminal.say n s
  modify fun x => { x with errors := x.errors ++ s }

def report (lines : List String) : Act σ Unit := modify fun x => { x with log := x.log ++ lines }

def render (wanted : Option String) (title : String) (columns : List String) (v : Value) : Act σ Unit := do
  let setting ← read
  let format ← ofExcept (Output.Format.choose wanted setting.environment)
  put (← ofExcept (Output.render setting.screen format { title, columns } v))

def table (t : Terminal.Table) : Act σ Unit := do put (← ofExcept (Output.showTable (← read).screen t))

/-- Reads sources, among them what is typed in. -/
def reading (f : Disk → DataFile.Reading α) : Act σ α := do
  let s ← get
  match (f s.disk).run s.input with
  | .ok (a, input) =>
    set { s with input }
    return a
  | .error e => fail e

def source (name : String) : Act σ (List Char) := reading fun d => DataFile.source d name

def load (file : String) : Act σ Value := reading fun d => DataFile.load d (Path.ofText file).text

def write (path : Path) (content : List Char) (overwrite : Bool) : Act σ Unit := do
  let s ← get
  let (disk, result) := DataFile.write s.disk path content overwrite
  set { s with disk }
  ofExcept result

def change (c : ProfileStore.Change α) : Act σ α := do
  let s ← get
  let (result, session) := c.run.run ⟨s.disk, s.store⟩
  set { s with disk := session.disk, store := session.store }
  ofExcept result

def talk (client : Client) (work : Server σ → Talk σ α) : Act σ α := do
  let setting ← read
  let s ← get
  let (result, x) := (work setting.serve).run
    { client, server := s.server, now := setting.now, draws := s.draws }
  set { s with server := x.server, log := s.log ++ x.log, draws := x.draw }
  ofExcept result

/-! ## Questions -/

def line : Act σ (List Char) := do
  let s ← get
  if s.input.isEmpty then fail (.mishap (.named "EOFError" false) "EOF when reading a line")
  else
    set { s with input := (s.input.dropWhile (· != '\n')).drop 1 }
    return s.input.takeWhile (· != '\n')

/-- Prints a tagged question with a plain text after it, and reads a line. -/
def ask (question hint : String) : Act σ (List Char) := do
  let q ← shown fun _ => Terminal.untagged question.toList
  let s ← shown fun n => Terminal.sayPlain n (q ++ hint.toList)
  put s.dropLast
  line

/-- Asks for a text. An empty line stands for the default. -/
def askText (question byDefault : String) : Act σ String := do
  let s ← ask question (" (" ++ byDefault ++ "): ")
  return if s.isEmpty then byDefault else String.ofList (Text.trim s)

/-- Asks until there is an answer; an empty line means no. The fuel bounds the number of lines. -/
def confirmWithin (question : String) : Nat → Act σ Bool
  | 0 => fail (.mishap (.named "EOFError" false) "EOF when reading a line")
  | fuel + 1 => do
    let s ← ask question " [y/n] (n): "
    let answer := Text.lower (Text.trim s)
    if s.isEmpty ∨ answer = ['n'] then return false
    else if answer = ['y'] then return true
    else
      say "Please enter Y or N"
      confirmWithin question fuel

def confirm (question : String) : Act σ Bool := do confirmWithin question ((← get).input.length + 1)

end Act
end PageSkins.CommandLine
