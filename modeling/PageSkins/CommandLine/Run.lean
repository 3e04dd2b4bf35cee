import PageSkins.CommandLine.Request
import PageSkins.CommandLine.Session
import PageSkins.Publishing
import PageSkins.RecordsFile
import PageSkins.Record.ContextFile

/-!
# Commands

What each command does in a session, and how the program ends.
-/

namespace PageSkins.CommandLine

open PageSkins.Backend

variable {σ : Type}

namespace Act

/-- Markup made safe. Markup that cannot be made safe is dropped and reported. -/
def sanitized (policy : Markup.Policy) (s : List Char) : Act σ (List Char) := do
  match Markup.sanitize policy s with
  | .ok s => return s
  | .error _ =>
    report [Markup.sanitizeWarning]
    return []

def context (file : Option String) : Act σ (Option PageContext) := do
  match file with
  | none => return none
  | some file => ofExcept ((ContextFile.read (← read).year (← load file)).mapError ContextFile.Fault.failure)

def checked {α : Type} (c : Checked α) (topic : Topic) (message : String) : Act σ α :=
  match c with
  | .ok a => pure a
  | .bad issues => fail (.ofIssues topic message issues)

def renderTemplate (t : RenderTerms) : Act σ Unit := do
  let settings ← checked (Settings.check [("max_depth", .int t.maxDepth), ("allow_forms", .bool t.forms),
    ("filter_inline_styles", .bool t.filterStyles)]) .validation "Invalid option"
  let template ← source t.template
  let context ← context t.context
  let partials ← reading fun d => DataFile.partials d t.partials
  let shown ← match Template.render? settings.limits template (context.elim [] PageContext.scope) (some partials) with
    | .ok s => pure s
    | .error f => do
      report [f.warning]
      pure []
  let shown ← if t.sanitizes then sanitized (Resolver.ofSettings settings).policy shown else pure shown
  match t.out with
  | some file =>
    let path := Path.ofText file
    write path shown t.force
    say ("[green]Wrote " ++ path.text ++ "[/green]")
  | none => echo shown

def clientProfile (g : Globals) : Act σ Profile := do
  let e := (← read).environment
  let p ← match (← get).store.resolve e (g.profile.elim .null .text) with
    | .ok p => pure p
    | .error (.refused .config m ..) => fail (.refused .config
        ("No backend configuration found. Please either:\n  1. Run 'blogskin config init' to set up a profile, or\n" ++
          "  2. Set the " ++ Environment.urlName ++ " environment variable") [("cause", .text m)] [])
    | .error f => fail f
  if g.timeout.isNone ∧ g.retries.isNone then return p
  let fs := p.toFields
  let fs := g.timeout.elim fs fun n => fs.put "timeout" (.int n)
  let fs := g.retries.elim fs fun n => fs.put "retry_attempts" (.int n)
  checked (Profile.check fs) .config "Invalid option"

def client (g : Globals) : Act σ Client := do
  let p ← clientProfile g
  ofExcept (Client.ofProfile (← read).environment p)

def records (g : Globals) (t : ResolveTerms) : Act σ SkinRecords := do
  match t.records with
  | some file => ofExcept ((RecordsFile.read (← load file)).mapError RecordsFile.Fault.failure)
  | none =>
    let client ← client g
    talk client fun serve => Talk.records serve (t.blogId.getD "")

def sizeText (s : String) : String := String.ofList (Decimal.groupThousands s.length) ++ " chars"

/-- The table of a templated skin: where each region comes from, and how large it is. -/
def regionTable (s : TemplatedSkin) : Terminal.Table :=
  let row (region : String) (isDefault : Bool) (fragment : String) : List String :=
    [region, if isDefault then "default component" else "custom", sizeText fragment]
  { title := "Templated skin"
    columns := [⟨"Region", { justify := .left, overflow := .ellipsis }⟩,
      ⟨"Source", { justify := .left, overflow := .ellipsis }⟩, ⟨"Size", { justify := .right, overflow := .ellipsis }⟩]
    rows := [row "header" s.defaultHeader s.header, row "content" false s.content,
      row "sidebar" s.defaultSidebar s.sidebar, row "footer" s.defaultFooter s.footer, row "css" false s.css] }

def showSkin (s : EffectiveSkin) : Act σ Unit := do
  let screen := (← read).screen
  let (vars, first) ← match s with
    | .templated t => do
      table (regionTable t)
      pure (t.vars, ([] : List Char))
    | .vars v => pure (v.vars, ← ofExcept (Output.table screen { title := "Layout" } (.map v.layout.toFields)))
  put first
  put (← ofExcept (Output.table screen { title := "CSS variables" } (.ofTexts vars)))

def pageNames : List String := ["list", "detail"]

def resolve (g : Globals) (t : ResolveTerms) : Act σ Unit := do
  if (t.blogId.any fun s => !s.isEmpty) = t.records.isSome then
    fail (.refusal .validation "Provide exactly one of --blog-id or --records")
  if !pageNames.contains t.page then
    fail (.refusal .validation ("Invalid page type '" ++ t.page ++ "'. Choose from: " ++ ", ".intercalate pageNames))
  let setting ← read
  let records ← records g t
  let context ← context t.context
  let resolver := Resolver.ofSettings { forms := t.forms, filterStyles := t.filterStyles }
  let found ← match resolver.resolve setting.year records
      ⟨t.preview, Template.PageType.ofName t.page, context.map PageContext.scope⟩ with
    | .ok found => pure found
    | .error _ => fail (.mishap .overflow "A number is too large")
  report found.log
  let format ← ofExcept (Output.Format.choose g.format setting.environment)
  if format = .table then showSkin found.value
  else put (← ofExcept (Output.render setting.screen format {} (.map found.value.toFields)))

def color (s : String) : Act σ Rgb :=
  match Rgb.read s.toList with
  | .color c => pure c
  | .overflow => fail (.mishap .overflow "A number is too large")

def checkColor (g : Globals) (s : String) : Act σ Unit := do
  let c ← color s
  let parts := [c.red, c.green, c.blue].map Decimal.natDigits
  render g.format "" [] (.map [
    ("color", .text s), ("rgb", .text (String.ofList (commaSeparated parts))),
    ("brightness", .float (Decimal.roundTo 2 c.brightness)), ("dark", .bool c.isDark)])

def showPalette (g : Globals) (s : String) : Act σ Unit := do
  render g.format "" [] (.ofTexts (codePalette (← color s)))

def writeTemplates (folder : String) (force : Bool) : Act σ Unit := do
  for (slot, text) in Starter.templates do
    let path := (Path.ofText folder).child (Starter.fileName slot)
    write path text.toList force
    say ("[green]Created " ++ path.text ++ "[/green]")

def showHints (g : Globals) (group : Option String) : Act σ Unit := do
  let rows := Starter.hints.flatMap fun (name, hints) =>
    if group.all (· = name) then hints.map fun h =>
      Value.map [("group", .text name), ("name", .text h.name), ("description", .text h.description)]
    else []
  render g.format "" ["group", "name", "description"] (.list rows)

/-! ## Profiles -/

/-- What is not told about a new profile, asked for. -/
def askTerms (t : ProfileTerms) : Act σ (Option String × Option String) := do
  if !t.interactive then return (t.url, t.token)
  say ("[bold blue]Setting up profile: " ++ t.name ++ "[/bold blue]")
  let url ← match t.url.filter fun s => !s.isEmpty with
    | some url => pure url
    | none => askText "Backend URL" "http://localhost:4000"
  match t.token.filter fun s => !s.isEmpty with
  | some token => return (some url, some token)
  | none =>
    if ← confirm "Do you have an access token?" then
      return (some url, some (String.ofList (Text.trim (← ask "Access token" ": "))))
    else return (some url, t.token)

def createProfile (t : ProfileTerms) : Act σ Unit := do
  let (url, token) ← askTerms t
  let some url := url.filter fun s => !s.isEmpty | fail (.refusal .config "URL is required (use --url)")
  let p ← change (ProfileStore.create ⟨.text t.name, .text url, token.elim .null .text, .int t.timeout, .int t.retries⟩)
  let isUsed := (← get).store.selected = some p.name
  say ("[green]Profile '" ++ p.name ++ "' saved" ++ (if isUsed then " and set as active" else "") ++ "![/green]")
  if t.tests then
    let client ← ofExcept (Client.ofProfile (← read).environment p)
    if ← talk client fun serve => Talk.isAlive serve then say "[green]✓ Connection successful![/green]"
    else
      say "[yellow]⚠ Connection test failed[/yellow]"
      throw (.exit 1)

def profileTable (profiles : List Fields) : Terminal.Table where
  title := "Configuration Profiles"
  columns := ["Name", "URL", "Token"].map (fun h => ⟨h, { justify := .left, overflow := .ellipsis }⟩) ++
    ["Timeout", "Retries"].map (fun h => ⟨h, { justify := .right, overflow := .ellipsis }⟩) ++
    [⟨"Active", { justify := .left, overflow := .ellipsis }⟩]
  rows := profiles.map fun fs => ["name", "api_url", "has_token", "timeout", "retry_attempts", "active"].map fun k =>
    match fs.get k with
    | .bool b => if b then "✓" else "✗"
    | v => String.ofList v.plain

def listProfiles (g : Globals) : Act σ Unit := do
  let setting ← read
  let s := (← get).store
  let format ← ofExcept (Output.Format.choose g.format setting.environment)
  if format ≠ .table then
    put (← ofExcept (Output.render setting.screen format {} (.map [
      ("profiles", .list (s.list.map .map)), ("active_profile", s.selected.elim .null .text)])))
  else if s.list.isEmpty then
    say "[yellow]No profiles configured. Run 'blogskin config init' to create one.[/yellow]"
  else table (profileTable s.list)

def useProfile (name : String) : Act σ Unit := do
  change (ProfileStore.select (.text name))
  say ("[green]Active profile set to '" ++ name ++ "'[/green]")

def showProfile (g : Globals) (name : Option String) : Act σ Unit := do
  let s := (← get).store
  let p ← ofExcept (match name.filter fun n => !n.isEmpty with
    | some n => s.lookup (.text n)
    | none => s.inUse)
  render g.format ("Profile: " ++ p.name) [] (.map (p.shown s.selected))

def deleteProfile (name : String) (isSure : Bool) : Act σ Unit := do
  let _ ← ofExcept ((← get).store.lookup (.text name))
  let isSure ← if isSure then pure true else confirm ("Delete profile '" ++ name ++ "'?")
  if !isSure then
    say "[yellow]Cancelled[/yellow]"
    throw (.exit 1)
  change (ProfileStore.delete (.text name))
  say ("[green]Profile '" ++ name ++ "' deleted[/green]")

def run (g : Globals) : Command → Act σ Unit
  | .render t => renderTemplate t
  | .resolve t => resolve g t
  | .sanitizeHtml name forms filterStyles => do echo (← sanitized ⟨forms, filterStyles⟩ (← source name))
  | .sanitizeCss name => do echo (Stylesheet.sanitize (← source name))
  | .checkColor c => checkColor g c
  | .showPalette c => showPalette g c
  | .writeTemplates folder force => writeTemplates folder force
  | .showHints group => showHints g group
  | .createProfile t => createProfile t
  | .listProfiles => listProfiles g
  | .useProfile name => useProfile name
  | .showProfile name => showProfile g name
  | .deleteProfile name isSure => deleteProfile name isSure

/-- Shows which variables of the environment are set. The token is not shown. -/
def showEnvironment : Act σ Unit := do
  let e := (← read).environment
  let unset := "[not set]"
  say "[dim]Debug mode enabled[/dim]"
  say "[dim]Environment variables:[/dim]"
  for (name, value) in [
      (Environment.urlName, (e.get? Environment.urlName).getD unset),
      (Environment.tokenName, if e.accessToken?.isSome then "[set]" else unset),
      (Environment.formatName, (e.get? Environment.formatName).getD unset),
      (Environment.folderName, (e.get? Environment.folderName).getD unset)] do
    sayPlain ("  " ++ name ++ ": " ++ value)

/-- Tells a failure. Details are told right away if `debug` is set. -/
def tell (f : Failure) : Act σ Unit := do
  let debug := (← read).debug
  if debug ∧ !f.isOwn then return
  complain ("[red]".toList ++ Terminal.protect (f.report debug).toList ++ "[/red]".toList)
  let isConfig := match f with
    | .refused .config .. => true
    | _ => false
  if !debug ∧ !isConfig then complain "[dim]Use --debug for more details[/dim]".toList

/-- Opens the profiles. A configuration that cannot be read ends the program. -/
def openStore (folder : Path) : Act σ Unit := do
  let opening := ProfileStore.openFolder (← get).disk folder
  modify fun x => { x with disk := opening.disk }
  report opening.log
  match opening.result with
  | .ok store => modify fun x => { x with store }
  | .error f =>
    match f with
    | .refused .config .. =>
      complain ("[red]".toList ++ Terminal.protect (f.report (← read).debug).toList ++ "[/red]".toList)
      throw (.exit 1)
    | f => fail f

end Act

/-- How a program ends: with a code, and with a failure that nothing handled. -/
structure Ending where
  code : Nat
  escaped : Option Failure := none

def versionText : String := "blogskin 0.1.0"

/-- The folder of the configuration, where the environment names none. -/
def usualFolder (home : String) : Path := (Path.ofText home).child ".blogskin"

def perform (folder : Path) (g : Globals) (command : Option Command) : Act σ Ending := do
  Act.openStore folder
  if g.debug then Act.showEnvironment
  match command with
  | none => return ⟨2, none⟩
  | some c =>
    tryCatch (do Act.run g c; return ⟨0, none⟩) fun
      | .exit code => return ⟨code, none⟩
      | .failed f => do
        Act.tell f
        return ⟨1, none⟩

def execute (setting : Setting σ) (folder : Path) (args : List String) (s : Session σ) : Ending × Session σ :=
  match Request.read args with
  | .unusable => (⟨2, none⟩, s)
  | .version => (⟨0, none⟩, { s with output := s.output ++ versionText.toList ++ ['\n'] })
  | .run g command =>
    let (result, s) := (perform folder g command { setting with debug := g.debug }).run s
    match result with
    | .ok e => (e, s)
    | .error (.exit code) => (⟨code, none⟩, s)
    | .error (.failed f) => (⟨1, some f⟩, s)

end PageSkins.CommandLine
