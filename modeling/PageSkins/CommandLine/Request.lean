import PageSkins.CommandLine.Options

/-!
# Command lines

What a command line asks for: a command with its terms, and the options that go before it.
-/

namespace PageSkins.CommandLine

structure Globals where
  profile : Option String := none
  debug : Bool := false
  format : Option String := none
  timeout : Option Int := none
  retries : Option Int := none

structure RenderTerms where
  template : String
  context : Option String
  partials : List String
  sanitizes : Bool
  forms : Bool
  filterStyles : Bool
  maxDepth : Int
  out : Option String
  force : Bool

structure ResolveTerms where
  blogId : Option String
  records : Option String
  context : Option String
  preview : Bool
  page : String
  forms : Bool
  filterStyles : Bool

structure ProfileTerms where
  name : String
  url : Option String
  token : Option String
  timeout : Int
  retries : Int
  interactive : Bool
  tests : Bool

inductive Command where
  | render (t : RenderTerms)
  | resolve (t : ResolveTerms)
  | sanitizeHtml (source : String) (forms filterStyles : Bool)
  | sanitizeCss (source : String)
  | checkColor (color : String)
  | showPalette (color : String)
  | writeTemplates (folder : String) (force : Bool)
  | showHints (group : Option String)
  | createProfile (t : ProfileTerms)
  | listProfiles
  | useProfile (name : String)
  | showProfile (name : Option String)
  | deleteProfile (name : String) (isSure : Bool)

inductive Request where
  /-- Nothing can be made of the arguments. -/
  | unusable
  | version
  /-- A command, and none if something is wrong with its own arguments. -/
  | run (g : Globals) (command : Option Command)

namespace Command

/-- Reads the arguments of a command: options, and as many others as it takes. -/
def arguments (specs : List OptionSpec) (least most : Nat) (args : List String) : Option (Given × List String) := do
  let (g, others) ← scan specs true {} args
  if least ≤ others.length ∧ others.length ≤ most then some (g, others) else none

def policySpecs : List OptionSpec :=
  [switch ["--allow-forms"] "forms", switch ["--filter-inline-styles"] "styles"]

def readRender (args : List String) : Option Command := do
  let (g, others) ← arguments (policySpecs ++ [
    ⟨["--context", "-c"], "context", .value⟩, ⟨["--partial"], "partial", .value⟩, switch ["--sanitize"] "sanitize",
    ⟨["--max-depth"], "depth", .value⟩, ⟨["--out"], "out", .value⟩, switch ["--force"] "force"]) 1 1 args
  let maxDepth := (← g.int? "depth").getD 32
  return .render {
    template := others.headD "", context := g.value? "context", partials := g.all "partial", sanitizes := g.isOn "sanitize"
    forms := g.isOn "forms", filterStyles := g.isOn "styles", maxDepth, out := g.value? "out", force := g.isOn "force" }

def readResolve (args : List String) : Option Command := do
  let (g, _) ← arguments (policySpecs ++ [
    ⟨["--blog-id", "-b"], "blog", .value⟩, ⟨["--records", "-r"], "records", .value⟩,
    ⟨["--context", "-c"], "context", .value⟩, switch ["--preview"] "preview", ⟨["--page-type"], "page", .value⟩]) 0 0 args
  return .resolve {
    blogId := g.value? "blog", records := g.value? "records", context := g.value? "context", preview := g.isOn "preview"
    page := (g.value? "page").getD "list", forms := g.isOn "forms", filterStyles := g.isOn "styles" }

def readCreate (args : List String) : Option Command := do
  let (g, _) ← arguments [
    ⟨["--name"], "name", .value⟩, ⟨["--url"], "url", .value⟩, ⟨["--token"], "token", .value⟩,
    ⟨["--request-timeout"], "timeout", .value⟩, ⟨["--retries"], "retries", .value⟩,
    ⟨["--interactive"], "interactive", .switch true⟩, ⟨["--no-interactive"], "interactive", .switch false⟩,
    switch ["--test"] "test"] 0 0 args
  let timeout := (← g.int? "timeout").getD 30
  let retries := (← g.int? "retries").getD 3
  return .createProfile {
    name := (g.value? "name").getD "default", url := g.value? "url", token := g.value? "token", timeout, retries
    interactive := g.isOn "interactive" true, tests := g.isOn "test" }

def readOne (make : String → Command) (args : List String) : Option Command := do
  let (_, others) ← arguments [] 1 1 args
  return make (others.headD "")

def readInGroup (group name : String) (args : List String) : Option Command :=
  match group, name with
  | "sanitize", "html" => do
    let (g, others) ← arguments policySpecs 0 1 args
    return .sanitizeHtml (others.headD "-") (g.isOn "forms") (g.isOn "styles")
  | "sanitize", "css" => do
    let (_, others) ← arguments [] 0 1 args
    return .sanitizeCss (others.headD "-")
  | "theme", "check" => readOne .checkColor args
  | "theme", "palette" => readOne .showPalette args
  | "templates", "init" => do
    let (g, others) ← arguments [switch ["--force"] "force"] 0 1 args
    return .writeTemplates (others.headD ".") (g.isOn "force")
  | "templates", "variables" => do
    let (g, _) ← arguments [⟨["--group", "-g"], "group", .value⟩] 0 0 args
    return .showHints (g.value? "group")
  | "config", "init" => readCreate args
  | "config", "list" => do
    let _ ← arguments [] 0 0 args
    return .listProfiles
  | "config", "use" => readOne .useProfile args
  | "config", "show" => do
    let (_, others) ← arguments [] 0 1 args
    return .showProfile others.head?
  | "config", "delete" => do
    let (g, others) ← arguments [switch ["--yes", "-y"] "yes"] 1 1 args
    return .deleteProfile (others.headD "") (g.isOn "yes")
  | _, _ => none

def groups : List String := ["sanitize", "theme", "templates", "config"]

/-- Reads a command that has a name, or a group with the command in it. -/
def read (name : String) (args : List String) : Option Command :=
  if name = "render" then readRender args
  else if name = "resolve" then readResolve args
  else do
    let (_, rest) ← scan [] false {} args
    match rest with
    | inner :: args => readInGroup name inner args
    | [] => none

end Command

def globalSpecs : List OptionSpec := [
  ⟨["--profile", "-p"], "profile", .value⟩, switch ["--debug"] "debug", ⟨["--output", "-o"], "output", .value⟩,
  ⟨["--timeout"], "timeout", .value⟩, ⟨["--max-retries"], "retries", .value⟩, switch ["--version"] "version"]

def Request.read (args : List String) : Request :=
  match scan globalSpecs false {} args with
  | none => .unusable
  | some (g, rest) =>
    if g.isOn "version" then .version
    else match g.int? "timeout", g.int? "retries", rest with
      | some timeout, some retries, name :: args =>
        if (["render", "resolve"] ++ Command.groups).contains name then
          .run ⟨g.value? "profile", g.isOn "debug", g.value? "output", timeout, retries⟩ (Command.read name args)
        else .unusable
      | _, _, _ => .unusable

end PageSkins.CommandLine
