import PageSkins.Proofs.Composition

/-!
# Which source is in force

A custom skin of the blog itself wins when it is active or previewed, and then the
records of skins and applications reach no part of the page but its variables. When
no custom skin is shown, neither the custom skin nor the page that was asked for
reaches any part of the result. Records of other blogs are as good as none. What is
reported on the way is not part of the result here: a record that is dropped is
reported.
-/

namespace PageSkins

/-- A custom skin of the blog itself is given, and it is active or previewed. -/
def SkinRecords.ShowsCustom (records : SkinRecords) (q : PageRequest) : Prop :=
  ∃ c, records.customSkin = some c ∧ c.blogId = records.blog.id ∧
    (c.isActive = true ∨ q.preview = true)

/-- A skin that one source makes and that the others do not reach. -/
structure SoleSource (r : Resolver) (year : Nat) (records : SkinRecords) (q : PageRequest)
    (skin : EffectiveSkin) : Prop where
  /-- Templates are shown exactly when there is a custom skin to show. -/
  templated_iff : (∃ s, skin = .templated s) ↔ records.ShowsCustom q
  /-- Variables are the same beside every custom skin that is not shown, and on every page. -/
  vars_same : ∀ s, skin = .vars s → ∀ customSkin page scope,
    ¬ { records with customSkin }.ShowsCustom { q with page, scope } →
      ∃ other, r.resolve year { records with customSkin } { q with page, scope } = .ok other ∧
        other.value = skin
  /-- Regions, stylesheet and flags are the same over every base skin and application. -/
  templated_same : ∀ s, skin = .templated s → ∀ baseSkin application other,
    r.resolve year { records with baseSkin, application } q = .ok other →
      ∃ t, other.value = .templated t ∧ { t with vars := [] } = { s with vars := [] }
  /-- An application of another blog is as good as none. -/
  foreign_application : ∀ a, records.application = some a → a.blogId ≠ records.blog.id →
    ∃ other, r.resolve year { records with application := none } q = .ok other ∧
      other.value = skin
  /-- A custom skin of another blog is as good as none. -/
  foreign_custom : ∀ c, records.customSkin = some c → c.blogId ≠ records.blog.id →
    ∃ other, r.resolve year { records with customSkin := none } q = .ok other ∧
      other.value = skin

namespace SkinRecords

variable {records : SkinRecords} {q : PageRequest}

theorem custom_eq_some_iff {c : CustomSkin} : records.custom q = some c ↔
    records.customSkin = some c ∧ c.blogId = records.blog.id ∧
      (c.isActive = true ∨ q.preview = true) := by
  unfold custom
  cases records.customSkin with
  | none => simp [Resolver.ownCustomSkin]
  | some d =>
    by_cases same : d.blogId = records.blog.id
    · simp only [Resolver.ownCustomSkin, if_pos same, Option.filter_eq_some_iff, Resolver.shows,
        Bool.or_eq_true, Option.some.injEq]
      constructor
      · rintro ⟨rfl, shown⟩
        exact ⟨rfl, same, shown⟩
      · rintro ⟨rfl, -, shown⟩
        exact ⟨rfl, shown⟩
    · simp only [Resolver.ownCustomSkin, if_neg same, Option.filter_none]
      constructor
      · rintro ⟨⟩
      · rintro ⟨given, own, -⟩
        obtain rfl := Option.some.inj given
        exact absurd own same

theorem showsCustom_iff : records.ShowsCustom q ↔ ∃ c, records.custom q = some c := by
  simp only [ShowsCustom, custom_eq_some_iff]

theorem custom_eq_none_iff : records.custom q = none ↔ ¬ records.ShowsCustom q := by
  rw [showsCustom_iff, not_exists, Option.eq_none_iff_forall_ne_some]

theorem not_showsCustom_of_foreign {c : CustomSkin} (given : records.customSkin = some c)
    (foreign : c.blogId ≠ records.blog.id) : ¬ records.ShowsCustom q := by
  rintro ⟨d, given', own, -⟩
  obtain rfl := Option.some.inj (given.symm.trans given')
  exact foreign own

theorem own_of_foreign {a : SkinApplication} (given : records.application = some a)
    (foreign : a.blogId ≠ records.blog.id) : records.own = none := by
  simp [own, given, foreign]

/-- Without an application of the blog itself no tier counts, the base skin included. -/
theorem tiers_of_own_eq_none (h : records.own = none) :
    records.variableTiers = [] ∧ records.layoutTiers = [] := by
  simp [variableTiers, layoutTiers, base, h]

theorem layout_without_application (h : records.own = none) :
    ({ records with application := none } : SkinRecords).layout = records.layout := by
  unfold layout
  rw [(tiers_of_own_eq_none h).2]
  rfl

end SkinRecords

namespace Resolver

variable {r : Resolver} {year : Nat} {records other : SkinRecords} {q q' : PageRequest}
  {all : Variables} {skin : EffectiveSkin}

theorem outcome_of_not_shows (h : ¬ records.ShowsCustom q) :
    r.outcome year records q all = .vars ⟨all, records.layout⟩ := by
  rw [← SkinRecords.custom_eq_none_iff] at h
  simp only [outcome, h]

theorem outcome_templated_iff :
    (∃ s, r.outcome year records q all = .templated s) ↔ records.ShowsCustom q := by
  rw [SkinRecords.showsCustom_iff]
  unfold outcome
  cases records.custom q with
  | none => simp
  | some c => simp

/-- Over the same tiers the same variables are completed, so that nothing fails anew. -/
theorem resolve_of_tiers
    (complete : completeVariables
      (mergeVariables (records.variableTiers.reverse.map variableLayer)) = .ok all)
    (tiers : other.variableTiers = records.variableTiers)
    (value : r.outcome year other q' all = skin) :
    ∃ found, r.resolve year other q' = .ok found ∧ found.value = skin := by
  rw [← tiers] at complete
  exact (exists_resolve_iff (p := fun found => found = skin)).2 ⟨all, complete, value⟩

/-- Wherever resolution gives a skin, a single source makes it. -/
theorem resolve_soleSource {result : Reported EffectiveSkin}
    (h : r.resolve year records q = .ok result) : SoleSource r year records q result.value := by
  obtain ⟨all, complete, value⟩ := resolve_eq_ok h
  constructor
  case templated_iff =>
    rw [value]
    exact outcome_templated_iff
  case vars_same =>
    intro s shown customSkin page scope hidden
    have plain : ¬ records.ShowsCustom q := by
      intro shows
      obtain ⟨t, templated⟩ := outcome_templated_iff.2 shows
      cases shown.symm.trans (value.trans templated)
    refine resolve_of_tiers complete rfl ?_
    rw [value, outcome_of_not_shows plain]
    exact outcome_of_not_shows hidden
  case templated_same =>
    intro s shown baseSkin application other resolved
    obtain ⟨all', -, value'⟩ := resolve_eq_ok resolved
    have bare : other.value.bare = result.value.bare := by
      rw [value, value']
      apply bare_outcome
      · rfl
      · rfl
    rw [shown] at bare
    cases templated : other.value with
    | templated t =>
      rw [templated] at bare
      exact ⟨t, rfl, EffectiveSkin.templated.inj bare⟩
    | vars t =>
      rw [templated] at bare
      cases bare
  case foreign_application =>
    intro a given foreign
    have absent := SkinRecords.own_of_foreign given foreign
    refine resolve_of_tiers complete (SkinRecords.tiers_of_own_eq_none absent).1.symm ?_
    rw [value]
    unfold outcome
    rw [SkinRecords.layout_without_application absent]
    rfl
  case foreign_custom =>
    intro c given foreign
    refine resolve_of_tiers complete rfl ?_
    rw [value, outcome_of_not_shows (SkinRecords.not_showsCustom_of_foreign given foreign)]
    apply outcome_of_not_shows
    rintro ⟨c, ⟨⟩, -⟩

/-- Records that contend for a page: the custom skin is not active but the blog's own, and the
application is another blog's, with a skin of its own beside the one that is given. -/
def contested : SkinRecords where
  blog := { id := "blog-1", name := "My Blog" }
  baseSkin := some { id := "skin-1", name := "Slate", vars := [("--blog-bg", "#222")] }
  application := some {
    blogId := "blog-2"
    vars := some [("--blog-bg", "#00ff00")]
    skin := some { id := "skin-2", name := "Lime" } }
  customSkin := some { blogId := "blog-1", design := { header := "<h1>Hello</h1>" } }

theorem resolve_soleSource_contested :
    ∃ result, Resolver.resolve {} 2031 contested { preview := true } = .ok result ∧
      contested.ShowsCustom { preview := true } ∧
      SoleSource {} 2031 contested { preview := true } result.value := by
  obtain ⟨result, resolved⟩ : ∃ result,
      Resolver.resolve {} 2031 contested { preview := true } = .ok result :=
    (resolve_ok_iff_complete _ _ _ _).2 ⟨_, rfl⟩
  exact ⟨result, resolved, ⟨_, rfl, rfl, .inr rfl⟩, resolve_soleSource resolved⟩

end Resolver
end PageSkins
