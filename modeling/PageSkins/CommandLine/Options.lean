import PageSkins.Decimal.Reader

/-!
# Options of a command line

Long names stand after two dashes, short ones after one. The value of an option follows its
name, after an equals sign or directly behind a short name, or else as the next argument.
-/

namespace PageSkins.CommandLine

inductive OptionKind where
  /-- Being given switches something on or off. -/
  | switch (on : Bool)
  /-- A value has to be given. -/
  | value
deriving Repr, DecidableEq

/-- An option under its names. Options of one key are about the same thing. -/
structure OptionSpec where
  names : List String
  key : String
  kind : OptionKind := .value

def switch (names : List String) (key : String) : OptionSpec := ⟨names, key, .switch true⟩

/-- What has been given, the last one first. -/
structure Given where
  values : List (String × String) := []
  switches : List (String × Bool) := []

namespace Given

def value? (g : Given) (key : String) : Option String := g.values.lookup key

def all (g : Given) (key : String) : List String := (g.values.filter (·.1 = key)).reverse.map (·.2)

def isOn (g : Given) (key : String) (byDefault : Bool := false) : Bool := (g.switches.lookup key).getD byDefault

/-- The last value of an option as an integer; `none` inside where it is not given. -/
def int? (g : Given) (key : String) : Option (Option Int) :=
  match g.value? key with
  | none => some none
  | some s => if s.length > 4300 then none else (Decimal.readInt? s.toList).map some

def put (g : Given) (key value : String) : Given := { g with values := (key, value) :: g.values }

def turn (g : Given) (key : String) (on : Bool) : Given := { g with switches := (key, on) :: g.switches }

end Given

/-- What came of an argument: it was no option, or it was taken, or the next argument has to be the value of a key. -/
inductive Step where
  | done (g : Given)
  | needsValue (g : Given) (key : String)

def find? (specs : List OptionSpec) (name : String) : Option OptionSpec := specs.find? (·.names.contains name)

/-- Short options, one character each. What follows one that takes a value is its value. -/
def shortOptions (specs : List OptionSpec) (g : Given) : List Char → Option Step
  | [] => some (.done g)
  | c :: rest =>
    match find? specs (String.ofList ['-', c]) with
    | none => none
    | some spec =>
      match spec.kind with
      | .switch on => shortOptions specs (g.turn spec.key on) rest
      | .value => some (if rest.isEmpty then .needsValue g spec.key else .done (g.put spec.key (String.ofList rest)))

def optionStep (specs : List OptionSpec) (g : Given) (arg : String) : Option Step :=
  let s := arg.toList
  if "--".toList.isPrefixOf s then
    let name := s.takeWhile (· != '=')
    let given := if s.contains '=' then some (String.ofList (s.drop (name.length + 1))) else none
    match find? specs (String.ofList name) with
    | none => none
    | some spec =>
      match spec.kind, given with
      | .value, some v => some (.done (g.put spec.key v))
      | .value, none => some (.needsValue g spec.key)
      | .switch on, none => some (.done (g.turn spec.key on))
      | .switch _, some _ => none
  else shortOptions specs g (s.drop 1)

/-- Tells options from other arguments. Two dashes end the options. Unless options may be `mixed` with others, the
first other argument ends them too. -/
def scan (specs : List OptionSpec) (mixed : Bool) (g : Given) : List String → Option (Given × List String)
  | [] => some (g, [])
  | "--" :: rest => some (g, rest)
  | arg :: rest =>
    if arg.startsWith "-" ∧ arg ≠ "-" then
      match optionStep specs g arg with
      | some (.done g) => scan specs mixed g rest
      | some (.needsValue g key) =>
        match rest with
        | v :: rest => scan specs mixed (g.put key v) rest
        | [] => none
      | none => none
    else if mixed then (scan specs mixed g rest).map fun (g, others) => (g, arg :: others)
    else some (g, arg :: rest)

end PageSkins.CommandLine
