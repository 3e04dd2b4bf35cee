import PageSkins.Proofs.Resolution

/-!
# What a skin is composed of

The skin in force has three tiers: what the blog's own application sets, the base skin
under it, and the defaults. Each variable and each option of the layout is decided by
itself, by the highest tier that sets it. The colours of code follow the background
that comes out of this, and nothing else is taken from a tier.
-/

namespace PageSkins

open PageSkins.Text

/-! ### The tiers -/

/-- What a layer sets a variable to: text that is not blank. -/
def shown (layer : Variables) (name : String) : Option String :=
  (layer.lookup name).filter fun s => !allBlank s.toList

def named {α : Type} (options : List (String × α)) : Value → Option α
  | .text s => options.lookup s
  | _ => none

def answer : Value → Option Bool
  | .bool b => some b
  | _ => none

namespace SkinRecords

/-- The application of the blog itself. One of another blog does not count. -/
def own (r : SkinRecords) : Option SkinApplication :=
  r.application.filter fun a => a.blogId = r.blog.id

/-- The skin under the application: the one given, else the one that came with it. -/
def base (r : SkinRecords) : Option Skin := r.own.bind fun a => r.baseSkin <|> a.skin

/-- The tiers that set variables, the highest first. -/
def variableTiers (r : SkinRecords) : List Variables :=
  (r.own.bind (·.vars)).toList ++ (r.base.map (·.vars)).toList

/-- The tiers that set options of the layout, the highest first. -/
def layoutTiers (r : SkinRecords) : List Fields :=
  (r.own.bind (·.layout)).toList ++ (r.base.bind (·.layout)).toList

/-- What a variable is in force as: what the highest tier shows for it, else its default. -/
def inForce (r : SkinRecords) (name : String) : Option String :=
  (defaultVariables.lookup name).map fun default =>
    (r.variableTiers.findSome? fun layer => shown layer name).getD default

/-- The layout in force, each option from the highest tier with a valid value for it. -/
def layout (r : SkinRecords) : Layout where
  sidebar := (r.layoutTiers.findSome? fun layer =>
    named Sidebar.options (Fields.get layer "layout")).getD .right
  listStyle := (r.layoutTiers.findSome? fun layer =>
    named ListStyle.options (Fields.get layer "postListStyle")).getD .cards
  thumbnails := (r.layoutTiers.findSome? fun layer =>
    answer (Fields.get layer "showThumbnails")).getD true

end SkinRecords

/-- A skin without what the tiers decide. -/
def EffectiveSkin.bare : EffectiveSkin → EffectiveSkin
  | .templated s => .templated { s with vars := [] }
  | .vars _ => .vars ⟨[], {}⟩

/-- What a skin owes to the tiers of the records that it was resolved from. -/
structure Composed (r : Resolver) (year : Nat) (records : SkinRecords) (q : PageRequest)
    (skin : EffectiveSkin) : Prop where
  /-- The variables are those that a skin can set, and after them the colours of code. -/
  names : skin.cssVariables.map Prod.fst =
    defaultVariables.map Prod.fst ++ lightCode.map Prod.fst
  /-- Each variable that a skin can set is what the tiers put in force. -/
  values : ∀ name ∈ defaultVariables.map Prod.fst,
    skin.cssVariables.lookup name = records.inForce name
  /-- The colours of code are those for the background in force. -/
  code : ∃ background palette, records.inForce "--blog-bg" = some background ∧
    codePaletteFor background.toList = .ok palette ∧
    ∀ name ∈ lightCode.map Prod.fst, skin.cssVariables.lookup name = palette.lookup name
  /-- A layout is the one that the tiers put in force. -/
  layout : ∀ s, skin = .vars s → s.layout = records.layout
  /-- With other tiers, or none, the rest of the skin is the same. -/
  rest : ∀ base application other,
    r.resolve year { records with baseSkin := base, application } q = .ok other →
      other.value.bare = skin.bare

/-! ### Merging is a search from the top -/

theorem foldl_getD_eq {α β : Type} (set : β → Option α) (layers : List β) (below : α) :
    layers.foldl (fun value layer => (set layer).getD value) below =
      (layers.reverse.findSome? set).getD below := by
  induction layers generalizing below with
  | nil => rfl
  | cons layer layers ih =>
    rw [List.foldl_cons, ih, List.reverse_cons, List.findSome?_append]
    cases layers.reverse.findSome? set with
    | some a => rfl
    | none => simp

theorem setting_variableLayer (vs : Variables) (name : String) :
    setting (Resolver.variableLayer vs) name = shown vs name := by
  have found : (Resolver.variableLayer vs).lookup name = (vs.lookup name).map Value.text :=
    lookup_map_values (fun _ s => Value.text s) vs name
  unfold setting Fields.get Fields.find? shown
  rw [found]
  cases vs.lookup name with
  | none => rfl
  | some s =>
    dsimp only [Option.map_some, Option.getD_some]
    rw [Option.filter_some]
    cases allBlank s.toList with
    | true => rfl
    | false => rfl

theorem optionOr_eq {α : Type} (options : List (String × α)) (below : α) (v : Value) :
    optionOr options below v = (named options v).getD below := by
  cases v with
  | text s => rfl
  | _ => rfl

theorem thumbnails_overlayLayout (below : Layout) (layer : Fields) :
    (overlayLayout below layer).thumbnails =
      (answer (Fields.get layer "showThumbnails")).getD below.thumbnails := by
  unfold overlayLayout
  dsimp only
  cases Fields.get layer "showThumbnails" with
  | bool b => rfl
  | _ => rfl

/-- A field that each layer may set is set by the last layer that does. -/
theorem foldl_overlayLayout {α : Type} (field : Layout → α) (set : Fields → Option α)
    (step : ∀ below layer, field (overlayLayout below layer) = (set layer).getD (field below))
    (layers : List Fields) (below : Layout) :
    field (layers.foldl overlayLayout below) =
      (layers.reverse.findSome? set).getD (field below) := by
  rw [← foldl_getD_eq]
  induction layers generalizing below with
  | nil => rfl
  | cons layer layers ih => rw [List.foldl_cons, ih, step, List.foldl_cons]

namespace SkinRecords

variable (records : SkinRecords)

theorem lookup_merged (name : String) :
    (mergeVariables (records.variableTiers.reverse.map Resolver.variableLayer)).lookup name =
      records.inForce name := by
  rw [lookup_mergeVariables]
  unfold inForce
  refine congrArg (Option.map · (defaultVariables.lookup name)) (funext fun default => ?_)
  rw [foldl_getD_eq (setting · name), ← List.map_reverse, List.reverse_reverse, List.findSome?_map]
  simp only [Function.comp_def, setting_variableLayer]

theorem mergeLayout_eq : mergeLayout records.layoutTiers.reverse = records.layout := by
  have sidebar := foldl_overlayLayout Layout.sidebar
    (fun layer => named Sidebar.options (Fields.get layer "layout"))
    (fun below layer => optionOr_eq Sidebar.options below.sidebar _) records.layoutTiers.reverse {}
  have listStyle := foldl_overlayLayout Layout.listStyle
    (fun layer => named ListStyle.options (Fields.get layer "postListStyle"))
    (fun below layer => optionOr_eq ListStyle.options below.listStyle _)
    records.layoutTiers.reverse {}
  have thumbnails := foldl_overlayLayout Layout.thumbnails
    (fun layer => answer (Fields.get layer "showThumbnails"))
    thumbnails_overlayLayout records.layoutTiers.reverse {}
  rw [List.reverse_reverse] at sidebar listStyle thumbnails
  unfold mergeLayout layout
  exact congr (congr (congrArg Layout.mk sidebar) listStyle) thumbnails

end SkinRecords

theorem names_mergeVariables (layers : List Fields) :
    (mergeVariables layers).map Prod.fst = defaultVariables.map Prod.fst := by
  unfold mergeVariables
  generalize defaultVariables = below
  induction layers generalizing below with
  | nil => rfl
  | cons layer layers ih =>
    rw [List.foldl_cons, ih, overlayVariables_eq, List.map_map]
    rfl

/-! ### The colours of code -/

theorem names_codePalette (c : Rgb) : (codePalette c).map Prod.fst = lightCode.map Prod.fst := by
  unfold codePalette
  split
  · decide
  · rfl

theorem names_codePaletteFor {background : List Char} {palette : Variables}
    (h : codePaletteFor background = .ok palette) :
    palette.map Prod.fst = lightCode.map Prod.fst := by
  unfold codePaletteFor at h
  split at h
  · cases h
    exact names_codePalette _
  · cases h

/-- The variables come first and keep what they are; the colours of code stand for the rest. -/
theorem completeVariables_eq_ok {vars all : Variables} {background : String}
    (asked : vars.lookup "--blog-bg" = some background) (h : completeVariables vars = .ok all) :
    ∃ palette, codePaletteFor background.toList = .ok palette ∧ all = vars ++ palette := by
  obtain ⟨palette, made, whole⟩ := ok_of_bind h
  rw [asked, Option.getD_some] at made
  cases whole
  exact ⟨palette, made, rfl⟩

/-- No colour of code is a variable that a skin can set. -/
theorem notMem_defaultVariables :
    ∀ name ∈ lightCode.map Prod.fst, name ∉ defaultVariables.map Prod.fst := by
  decide

theorem lookup_of_mem_names {vs : Variables} {name : String} (h : name ∈ vs.map Prod.fst) :
    ∃ value, vs.lookup name = some value := by
  rw [← Option.ne_none_iff_exists']
  intro missing
  obtain ⟨v, hv, rfl⟩ := List.mem_map.1 h
  exact bne_iff_ne.1 (List.lookup_eq_none_iff.1 missing v hv) rfl

/-- On the variables of any layers, the colours of code go to the end whether they are put under
their names or complete the list. -/
theorem withCodePalette_mergeVariables (layers : List Fields) :
    let vars := mergeVariables layers
    let named := Resolver.variableLayer vars
    withCodePalette named (Fields.get named "--blog-bg") =
      (completeVariables vars).map Resolver.variableLayer := by
  intro vars named
  have names : vars.map Prod.fst = defaultVariables.map Prod.fst := names_mergeVariables layers
  have present : "--blog-bg" ∈ vars.map Prod.fst := by
    rw [names]
    decide
  obtain ⟨background, asked⟩ := lookup_of_mem_names present
  have given : Fields.get named "--blog-bg" = .text background := by
    have found : named.lookup "--blog-bg" = (vars.lookup "--blog-bg").map Value.text :=
      lookup_map_values (fun _ s => Value.text s) vars "--blog-bg"
    rw [Fields.get, Fields.find?, found, asked]
    rfl
  unfold withCodePalette completeVariables
  rw [given, asked]
  dsimp only [Option.getD_some]
  cases made : codePaletteFor background.toList with
  | error o => rfl
  | ok palette =>
    have distinct : (Fields.names named ++ Fields.names (Resolver.variableLayer palette)).Nodup := by
      have first : Fields.names named = vars.map Prod.fst := List.map_map
      have second : Fields.names (Resolver.variableLayer palette) = palette.map Prod.fst :=
        List.map_map
      rw [first, second, names, names_codePaletteFor made]
      decide
    have put := Fields.foldl_put distinct
    rw [Resolver.variableLayer, List.foldl_map] at put
    exact congrArg Except.ok (put.trans List.map_append.symm)

theorem lookup_eq_none_of_notMem {vs : Variables} {name : String} (h : name ∉ vs.map Prod.fst) :
    vs.lookup name = none := by
  rw [List.lookup_eq_none_iff]
  intro v hv
  exact bne_iff_ne.2 fun same => h (same ▸ List.mem_map_of_mem hv)

/-! ### The tiers in the three rules -/

namespace SkinRecords

variable (records : SkinRecords)

theorem value_ownApplication :
    (Resolver.ownApplication records.blog records.application).value = records.own := by
  unfold own
  cases records.application with
  | none => rfl
  | some a =>
    rw [Option.filter_some, Resolver.ownApplication]
    by_cases same : a.blogId = records.blog.id
    · rw [if_pos same, if_pos (decide_eq_true same)]
    · rw [if_neg same, if_neg (mt of_decide_eq_true same)]

theorem vars_own : Resolver.vars records.baseSkin records.own =
    mergeVariables (records.variableTiers.reverse.map Resolver.variableLayer) := by
  unfold variableTiers base
  cases records.own with
  | none => rfl
  | some a =>
    unfold Resolver.vars Resolver.applied
    dsimp only [Option.bind_some]
    generalize (records.baseSkin <|> a.skin) = base
    cases base with
    | none =>
      cases a.vars with
      | none => rfl
      | some vs => rfl
    | some s =>
      cases a.vars with
      | none => rfl
      | some vs => rfl

theorem appliedLayout_own {a : SkinApplication} (own : records.own = some a) :
    Resolver.appliedLayout records.baseSkin a = records.layout := by
  rw [← mergeLayout_eq]
  unfold Resolver.appliedLayout layoutTiers base
  rw [own]
  dsimp only [Option.bind_some]
  generalize ((records.baseSkin <|> a.skin).bind Skin.layout) = below
  cases below with
  | none =>
    cases a.layout with
    | none => rfl
    | some l => rfl
  | some b =>
    cases a.layout with
    | none => rfl
    | some l => rfl

/-- Without an application of the blog itself there are the defaults alone. -/
theorem layout_of_own_eq_none (own : records.own = none) : records.layout = {} := by
  unfold layout layoutTiers base
  rw [own]
  rfl

def custom (q : PageRequest) : Option CustomSkin :=
  (Resolver.ownCustomSkin records.blog records.customSkin).value.filter (Resolver.shows q)

end SkinRecords

namespace Resolver

variable {r : Resolver} {year : Nat} {records : SkinRecords} {q : PageRequest}
  {result : Reported EffectiveSkin}

/-- The skin that the three rules come to, with these variables in force. -/
def outcome (r : Resolver) (year : Nat) (records : SkinRecords) (q : PageRequest)
    (all : Variables) : EffectiveSkin :=
  match records.custom q with
  | some c =>
    let scope := q.scope.getD (Raw.contextOfBlog year records.blog).scope
    .templated { (r.regions c.design scope q.page).value with vars := all }
  | none => .vars ⟨all, records.layout⟩

/-- Resolution gives a skin where the variables of the tiers can be completed, and then it is
the one that the three rules come to. -/
theorem exists_resolve_iff {p : EffectiveSkin → Prop} :
    (∃ result, r.resolve year records q = .ok result ∧ p result.value) ↔
      ∃ all, completeVariables
        (mergeVariables (records.variableTiers.reverse.map variableLayer)) = .ok all ∧
          p (r.outcome year records q all) := by
  rw [← SkinRecords.vars_own]
  unfold resolve outcome SkinRecords.custom
  dsimp only
  rw [SkinRecords.value_ownApplication]
  generalize (ownCustomSkin records.blog records.customSkin).value.filter (shows q) = custom
  cases custom with
  | some c => exact ok_bind_pure_and_iff
  | none =>
    cases own : records.own with
    | some a =>
      rw [← SkinRecords.appliedLayout_own records own]
      exact ok_bind_pure_and_iff
    | none =>
      rw [SkinRecords.layout_of_own_eq_none records own]
      exact ok_bind_pure_and_iff

theorem resolve_eq_ok (h : r.resolve year records q = .ok result) :
    ∃ all, completeVariables
        (mergeVariables (records.variableTiers.reverse.map variableLayer)) = .ok all ∧
      result.value = r.outcome year records q all :=
  exists_resolve_iff.1 ⟨result, h, rfl⟩

theorem cssVariables_outcome (all : Variables) :
    (r.outcome year records q all).cssVariables = all := by
  unfold outcome
  cases records.custom q with
  | some c => rfl
  | none => rfl

theorem layout_outcome {all : Variables} {s : VariablesSkin}
    (h : r.outcome year records q all = .vars s) : s.layout = records.layout := by
  unfold outcome at h
  cases custom : records.custom q with
  | some c =>
    rw [custom] at h
    cases h
  | none =>
    rw [custom] at h
    cases h
    rfl

/-- What is left without the tiers comes from the blog, its custom skin and the request alone. -/
theorem bare_outcome {records other : SkinRecords} (blog : other.blog = records.blog)
    (custom : other.customSkin = records.customSkin) (all all' : Variables) :
    (r.outcome year other q all').bare = (r.outcome year records q all).bare := by
  have same : other.custom q = records.custom q := by
    unfold SkinRecords.custom
    rw [blog, custom]
  unfold outcome
  rw [same, blog]
  cases records.custom q with
  | some c => rfl
  | none => rfl

/-- Wherever resolution gives a skin, the skin is composed of the three tiers. -/
theorem resolve_composed (h : r.resolve year records q = .ok result) :
    Composed r year records q result.value := by
  obtain ⟨all, complete, value⟩ := resolve_eq_ok h
  have merged := SkinRecords.lookup_merged records
  have names := names_mergeVariables (records.variableTiers.reverse.map variableLayer)
  generalize mergeVariables (records.variableTiers.reverse.map variableLayer) = vars
    at complete merged names
  obtain ⟨background, asked⟩ : ∃ background, vars.lookup "--blog-bg" = some background := by
    rw [merged]
    exact ⟨_, rfl⟩
  obtain ⟨palette, made, rfl⟩ := completeVariables_eq_ok asked complete
  have css : result.value.cssVariables = vars ++ palette := by
    rw [value, cssVariables_outcome]
  constructor
  case names =>
    rw [css, List.map_append, names, names_codePaletteFor made]
  case values =>
    intro name known
    obtain ⟨s, found⟩ := lookup_of_mem_names (names ▸ known)
    rw [css, List.lookup_append, ← merged, found, Option.some_or]
  case code =>
    -- the colours of code stand last, and no variable before them has one of their names
    refine ⟨background, palette, (merged _).symm.trans asked, made, fun name known => ?_⟩
    have apart : name ∉ vars.map Prod.fst := by
      rw [names]
      exact notMem_defaultVariables name known
    rw [css, List.lookup_append, lookup_eq_none_of_notMem apart, Option.none_or]
  case layout =>
    intro s shown
    exact layout_outcome (value.symm.trans shown)
  case rest =>
    intro base application other resolved
    obtain ⟨all', -, value'⟩ := resolve_eq_ok resolved
    rw [value, value']
    apply bare_outcome
    · rfl
    · rfl

/-- Records in which every tier decides something: the background comes from the skin that
was sent along, the text colour from the application, the accent from the skin since the
application leaves it blank, and a layout option that is none is passed over. -/
def tiered : SkinRecords where
  blog := { id := "blog-1", name := "My Blog" }
  application := some {
    blogId := "blog-1"
    vars := some [("--blog-fg", "#eeeeee"), ("--blog-accent", "  "), ("--blog-shadow", "none")]
    layout := some [("layout", .text "no-sidebar"), ("postListStyle", .text "grid")]
    skin := some {
      id := "skin-1"
      name := "Slate"
      vars := [("--blog-bg", "#222"), ("--blog-fg", "#dddddd"), ("--blog-accent", "teal")]
      layout := some [("layout", .text "sidebar-left"), ("postListStyle", .text "list")] } }

theorem resolve_composed_tiered :
    ∃ result, Resolver.resolve {} 2031 tiered {} = .ok result ∧
      result.value.cssVariables.take 3 =
        [("--blog-bg", "#222"), ("--blog-fg", "#eeeeee"), ("--blog-accent", "teal")] ∧
      tiered.layout = ⟨.none, .list, true⟩ ∧ Composed {} 2031 tiered {} result.value := by
  have resolved : ∃ result, Resolver.resolve {} 2031 tiered {} = .ok result ∧
      result.value.cssVariables.take 3 =
        [("--blog-bg", "#222"), ("--blog-fg", "#eeeeee"), ("--blog-accent", "teal")] :=
    ⟨_, rfl, by decide⟩
  obtain ⟨result, resolved, first⟩ := resolved
  exact ⟨result, resolved, first, by decide, resolve_composed resolved⟩

end Resolver

end PageSkins
