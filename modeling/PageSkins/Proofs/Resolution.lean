import Mathlib.Tactic.ByContra
import PageSkins.Proofs.Failing
import PageSkins.Proofs.Lists
import PageSkins.Resolver

/-!
# When resolution fails

Nothing in the three rules of resolution fails but the colours of code, which are
made from the background in force. A background in `rgb(…)` form is refused when
one of its parts is larger than every double. Everything else gives a skin.
-/

namespace PageSkins

open PageSkins.Text PageSkins.Decimal

namespace Rgb

/-- The text is read by its numbers, and one of the first three is larger than every double. -/
def Overlong (color : List Char) : Prop :=
  ((trim color).take 3).map Char.toLower = ['r', 'g', 'b'] ∧
    ∃ r g b rest, numerals ((trim color).length + 1) (trim color) = r :: g :: b :: rest ∧
      ¬ (r.isFinite = true ∧ g.isFinite = true ∧ b.isFinite = true)

theorem exists_part_iff {x : Float} : (∃ n, part? x = some n) ↔ x.isFinite = true := by
  unfold part? truncate?
  split
  · rename_i finite
    simp [finite]
  · rename_i finite
    simp [finite]

/-- What begins like `rgb(…)` has no digits in base sixteen after a number sign. -/
theorem head_ne_of_named {s : List Char} (h : (s.take 3).map Char.toLower = ['r', 'g', 'b'])
    (hex : List Char) : s ≠ '#' :: hex := by
  rintro rfl
  cases h

theorem read_eq_overflow_iff {color : List Char} : read color = .overflow ↔ Overlong color := by
  unfold read Overlong
  generalize trim color = s
  dsimp only
  constructor
  · intro h
    split at h
    · cases h
    · split at h
      · rename_i named
        split at h
        · rename_i r g b rest list
          split at h
          · cases h
          · rename_i missing
            refine ⟨named, r, g, b, rest, list, ?_⟩
            rintro ⟨hr, hg, hb⟩
            obtain ⟨r', red⟩ := exists_part_iff.2 hr
            obtain ⟨g', green⟩ := exists_part_iff.2 hg
            obtain ⟨b', blue⟩ := exists_part_iff.2 hb
            exact missing r' g' b' red green blue
        · cases h
      · cases h
  · rintro ⟨named, r, g, b, rest, list, beyond⟩
    split
    · rename_i hex
      split at hex
      · exact absurd rfl (head_ne_of_named named _)
      · cases hex
    · rw [if_pos named, list]
      dsimp only
      split
      · rename_i red green blue
        exact absurd ⟨exists_part_iff.1 ⟨_, red⟩, exists_part_iff.1 ⟨_, green⟩,
          exists_part_iff.1 ⟨_, blue⟩⟩ beyond
      · rfl

end Rgb

/-! ### The background in force -/

def setting (layer : Fields) (name : String) : Option String :=
  match Fields.get layer name with
  | .text s => if allBlank s.toList then none else some s
  | _ => none

theorem overlayVariables_eq (below : Variables) (layer : Fields) :
    overlayVariables below layer = below.map fun v => (v.1, (setting layer v.1).getD v.2) := by
  refine List.map_congr_left fun v _ => ?_
  obtain ⟨name, value⟩ := v
  unfold setting
  dsimp only
  cases Fields.get layer name with
  | text s =>
    dsimp only
    split
    · rfl
    · rfl
  | _ => rfl

theorem lookup_overlayVariables (below : Variables) (layer : Fields) (name : String) :
    (overlayVariables below layer).lookup name =
      (below.lookup name).map fun value => (setting layer name).getD value := by
  rw [overlayVariables_eq]
  exact lookup_map_values (fun name value => (setting layer name).getD value) below name

theorem lookup_mergeVariables (layers : List Fields) (name : String) :
    (mergeVariables layers).lookup name = (defaultVariables.lookup name).map fun value =>
      layers.foldl (fun value layer => (setting layer name).getD value) value := by
  unfold mergeVariables
  generalize defaultVariables = below
  induction layers generalizing below with
  | nil => simp
  | cons layer layers ih =>
    rw [List.foldl_cons, ih, lookup_overlayVariables, Option.map_map]
    rfl

/-- The background in force: that of the application, else that of its base skin, else white. -/
def background (baseSkin : Option Skin) : Option SkinApplication → String
  | none => "#ffffff"
  | some a =>
    let base := baseSkin <|> a.skin
    let below := (base.bind fun s => setting (Resolver.variableLayer s.vars) "--blog-bg").getD "#ffffff"
    (a.vars.bind fun vs => setting (Resolver.variableLayer vs) "--blog-bg").getD below

theorem lookup_vars (baseSkin : Option Skin) (a : Option SkinApplication) :
    (Resolver.vars baseSkin a).lookup "--blog-bg" = some (background baseSkin a) := by
  have white : defaultVariables.lookup "--blog-bg" = some "#ffffff" := by decide
  cases a with
  | none => exact white
  | some a =>
    unfold Resolver.vars Resolver.applied background
    dsimp only
    rw [lookup_mergeVariables, white]
    generalize (baseSkin <|> a.skin) = base
    cases base with
    | none =>
      cases a.vars with
      | none => rfl
      | some vs => rfl
    | some s =>
      cases a.vars with
      | none => rfl
      | some vs => rfl

/-! ### Resolving -/

theorem codePaletteFor_ok_iff {color : List Char} :
    (∃ palette, codePaletteFor color = .ok palette) ↔ ¬ Rgb.Overlong color := by
  rw [← Rgb.read_eq_overflow_iff]
  unfold codePaletteFor
  cases Rgb.read color with
  | color c => simp
  | overflow => simp

theorem completeVariables_ok_iff {vars : Variables} {color : String}
    (h : vars.lookup "--blog-bg" = some color) :
    (∃ all, completeVariables vars = .ok all) ↔ ¬ Rgb.Overlong color.toList := by
  rw [← codePaletteFor_ok_iff]
  unfold completeVariables
  rw [h, Option.getD_some]
  exact ok_bind_pure_iff

/-- Every rule ends in the colours of code, and nothing else in it fails. -/
theorem Resolver.resolve_ok_iff_complete (r : Resolver) (year : Nat) (records : SkinRecords)
    (q : PageRequest) :
    (∃ skin, r.resolve year records q = .ok skin) ↔
      ∃ all, completeVariables (vars records.baseSkin
        (ownApplication records.blog records.application).value) = .ok all := by
  unfold Resolver.resolve
  dsimp only
  generalize (ownApplication records.blog records.application).value = a
  generalize (ownCustomSkin records.blog records.customSkin).value.filter (shows q) = custom
  cases custom with
  | some c => exact ok_bind_pure_iff
  | none =>
    cases a with
    | some a => exact ok_bind_pure_iff
    | none => exact ok_bind_pure_iff

/-- Resolution gives a skin for all records, but where the background in force is overlong. -/
theorem Resolver.resolve_ok_iff (r : Resolver) (year : Nat) (records : SkinRecords)
    (q : PageRequest) :
    (∃ skin, r.resolve year records q = .ok skin) ↔ ¬ Rgb.Overlong
      (background records.baseSkin (ownApplication records.blog records.application).value).toList :=
  (resolve_ok_iff_complete r year records q).trans (completeVariables_ok_iff (lookup_vars _ _))

/-- A blog may ask for such a background itself. -/
theorem Resolver.not_resolve_of_setting {r : Resolver} {year : Nat} {records : SkinRecords}
    {q : PageRequest} {a : SkinApplication} (own : records.application = some a)
    (same : a.blogId = records.blog.id) {vs : Variables} (vars : a.vars = some vs) {color : String}
    (asked : setting (variableLayer vs) "--blog-bg" = some color)
    (overlong : Rgb.Overlong color.toList) : ¬ ∃ skin, r.resolve year records q = .ok skin := by
  rw [resolve_ok_iff_complete, completeVariables_ok_iff (lookup_vars _ _), own, ownApplication,
    if_pos same]
  dsimp only [background]
  rw [vars, Option.bind_some, asked, Option.getD_some]
  exact not_not_intro overlong

theorem setting_of_shown {name color : String} (shown : allBlank color.toList = false) :
    setting (Resolver.variableLayer [(name, color)]) name = some color := by
  simp [setting, Resolver.variableLayer, Fields.get, Fields.find?, shown]

theorem Resolver.not_resolve_nines :
    ¬ ∃ skin, Resolver.resolve {} 2031
      { blog := { id := "blog-1", name := "My Blog" }
        application := some {
          blogId := "blog-1"
          vars := some [("--blog-bg",
            "rgb(" ++ String.ofList (List.replicate 400 '9') ++ ",0,0)")] } } {} = .ok skin := by
  have letters : ("rgb(" ++ String.ofList (List.replicate 400 '9') ++ ",0,0)").toList =
      "rgb(".toList ++ List.replicate 400 '9' ++ ",0,0)".toList := by
    rw [String.toList_append, String.toList_append, @String.toList_ofList (List.replicate 400 '9')]
  refine not_resolve_of_setting rfl rfl rfl (setting_of_shown ?_) ?_
  · rw [letters]
    decide
  · rw [letters]
    exact Rgb.read_eq_overflow_iff.1 (by decide +kernel)

end PageSkins
