import PageSkins.Publishing.Workshop
import PageSkins.Proofs.Precedence

/-!
# Skins that go from blog to blog

A snapshot has the design of the skin that it is taken of, and a blog that takes the
snapshot over has that design in place of its own. So the page of the one blog is the page
of the other, whatever skin the second blog had before, and sharing the skin once more
hands on the same design. The variables of a page are not part of this: they are those of
the blog that is shown.
-/

namespace PageSkins

/-- A custom skin of a blog shows these regions, this stylesheet and these flags. -/
structure Resolver.ShowsPage (r : Resolver) (year : Nat) (blog : Blog) (c : CustomSkin)
    (q : PageRequest) (page : TemplatedSkin) : Prop where
  /-- Alone it always shows them. -/
  alone : ∃ result, r.resolve year { blog, customSkin := some c } q = .ok result ∧
    result.value.bare = .templated page
  /-- Beside other records it shows them whenever there is a result. -/
  beside : ∀ baseSkin application result,
    r.resolve year { blog, baseSkin, application, customSkin := some c } q = .ok result →
      result.value.bare = .templated page

namespace Resolver

variable {r : Resolver} {year : Nat} {blog : Blog} {c : CustomSkin} {q : PageRequest}
  {scope : Fields}

theorem bare_outcome_of_shown {records : SkinRecords} (shown : records.custom q = some c)
    (given : q.scope = some scope) (all : Variables) :
    (r.outcome year records q all).bare =
      .templated { (r.regions c.design scope q.page).value with vars := [] } := by
  unfold outcome
  rw [shown, given]
  rfl

/-- What a skin shows in a given scope is what its design makes of that scope. -/
theorem showsPage (own : c.blogId = blog.id) (shown : c.isActive = true ∨ q.preview = true)
    (given : q.scope = some scope) :
    r.ShowsPage year blog c q { (r.regions c.design scope q.page).value with vars := [] } := by
  have inForce (baseSkin : Option Skin) (application : Option SkinApplication) :
      SkinRecords.custom { blog, baseSkin, application, customSkin := some c } q = some c :=
    SkinRecords.custom_eq_some_iff.2 ⟨rfl, own, shown⟩
  constructor
  case alone =>
    have complete : ∃ all, completeVariables defaultVariables = .ok all := ⟨_, rfl⟩
    obtain ⟨all, complete⟩ := complete
    exact (exists_resolve_iff (p := fun skin => skin.bare = .templated _)).2
      ⟨all, complete, bare_outcome_of_shown (inForce none none) given all⟩
  case beside =>
    intro baseSkin application result resolved
    obtain ⟨all, -, value⟩ := resolve_eq_ok resolved
    rw [value]
    exact bare_outcome_of_shown (inForce baseSkin application) given all

end Resolver

namespace Publishing

/-- What an author says about a snapshot, each part of the kind that it should be. -/
structure Wording where
  name : String
  creatorId : String
  isPublic : Bool := true
  description : Option String := none
  thumbnailUrl : Option String := none

namespace Wording

def Named (w : Wording) : Prop := Text.trim w.name.toList ≠ []

instance (w : Wording) : Decidable w.Named := inferInstanceAs (Decidable (_ ≠ _))

def terms (w : Wording) : Terms where
  name := .text w.name
  creatorId := .text w.creatorId
  isPublic := .bool w.isPublic
  description := .ofText? w.description
  thumbnailUrl := .ofText? w.thumbnailUrl

/-- The snapshot that the author gets. Texts that are empty count as not given. -/
def published (w : Wording) (now : Moment) (id : String) (c : CustomSkin) : PublishedSkin where
  id := id
  sourceBlogId := some c.blogId
  creatorId := w.creatorId
  name := String.ofList (Text.trim w.name.toList)
  description := w.description.filter fun s => !s.isEmpty
  thumbnailUrl := w.thumbnailUrl.filter fun s => !s.isEmpty
  design := c.design
  isPublic := w.isPublic
  createdAt := some now

theorem properName_of_named {w : Wording} (named : w.Named) :
    properName w.terms.name = .ok (String.ofList (Text.trim w.name.toList)) := by
  have filled : (Text.trim w.name.toList).isEmpty = false :=
    Bool.eq_false_iff.2 (mt List.isEmpty_iff.1 named)
  simp only [properName, terms, filled, Bool.false_eq_true, if_false]

theorem orNull_ofText? (d : Option String) :
    orNull (.ofText? d) = .ofText? (d.filter fun s => !s.isEmpty) := by
  cases d with
  | none => rfl
  | some s =>
    rw [Option.filter_some]
    unfold orNull
    by_cases filled : (!s.isEmpty) = true
    · rw [if_pos filled]
      exact if_pos filled
    · rw [if_neg filled]
      exact if_neg filled

end Wording

variable {now : Moment} {id : String} {c : CustomSkin} {p : PublishedSkin} {blogId : String}

/-- Publishing reads nothing of a skin but its blog and its design. -/
theorem snapshotFields_of_shared {w : Wording} (named : w.Named) {skin : Fields}
    (blog : Fields.get skin "blog_id" = .text c.blogId) (same : shared skin = shared c.toFields) :
    snapshotFields now id skin w.terms = .ok (w.published now id c) := by
  unfold snapshotFields
  rw [Wording.properName_of_named named, blog, same]
  unfold Wording.published
  dsimp only [Wording.terms]
  rw [Wording.orNull_ofText?, Wording.orNull_ofText?]
  -- all else of the record computes, so only these two texts are told apart
  cases w.description.filter fun s => !s.isEmpty with
  | none =>
    cases w.thumbnailUrl.filter fun s => !s.isEmpty with
    | none => rfl
    | some t => rfl
  | some d =>
    cases w.thumbnailUrl.filter fun s => !s.isEmpty with
    | none => rfl
    | some t => rfl

theorem snapshot_eq_ok {w : Wording} (named : w.Named) :
    snapshot now id c w.terms = .ok (w.published now id c) :=
  snapshotFields_of_shared named rfl rfl

/-- What the blog had before gives no part of the design. -/
theorem apply_eq_ok {existing : Option CustomSkin} (own : ∀ e ∈ existing, e.blogId = blogId)
    (now : Moment) (p : PublishedSkin) :
    ∃ taken, apply now p blogId existing = .ok taken ∧
      taken.blogId = blogId ∧ taken.design = p.design ∧ taken.isActive = true := by
  cases existing with
  | none => exact ⟨_, rfl, rfl, rfl, rfl⟩
  | some e =>
    have home : e.blogId = blogId := own e rfl
    exact ⟨_, if_pos home, home, rfl, rfl⟩

/-- Taking over into named values leaves the blog and the design that taking over into a
skin leaves. The time of the change stands there as a moment and not as text. -/
theorem applyFields_eq_ok {existing : Option CustomSkin} {taken : CustomSkin}
    (own : ∀ e ∈ existing, e.blogId = blogId) (h : apply now p blogId existing = .ok taken) :
    ∃ fields, applyFields now p (.text blogId) (existing.map CustomSkin.toFields) = .ok fields ∧
      Fields.get fields "blog_id" = .text taken.blogId ∧ shared fields = shared taken.toFields := by
  cases existing with
  | none =>
    cases h
    exact ⟨_, rfl, rfl, rfl⟩
  | some e =>
    have made : apply now p blogId (some e) = .ok _ := if_pos (own e rfl)
    cases h.symm.trans made
    have put : applyFields now p (.text blogId) ((some e).map CustomSkin.toFields) =
        .ok (Fields.put (CustomSkin.toFields { e with
          design := p.design, isActive := true, sourceId := some p.id, updatedAt := some now })
          "updated_at" (.moment now)) := by
      simp only [applyFields, brought, Design.templateFields, Design.templates, Design.flagFields,
        CustomSkin.toFields, Option.map_some, List.map_cons, List.map_nil, List.cons_append,
        List.nil_append, List.foldl_cons, List.foldl_nil, Fields.put, String.reduceEq, if_false,
        if_true, Value.ofText?]
    exact ⟨_, put, rfl, rfl⟩

/-- A blog that takes over a published skin shows the page that the skin shows at home when
it is previewed, and what it publishes again has the shared fields of that skin. The same
snapshot comes of the named values that an editor holds. -/
theorem page_of_published (r : Resolver) (year : Nat) {w again : Wording} (named : w.Named)
    (renamed : again.Named) {home target : Blog} (athome : c.blogId = home.id)
    {existing : Option CustomSkin} (own : ∀ e ∈ existing, e.blogId = target.id)
    (now later last : Moment) (id id' : String) (preview : Bool) (page : Template.PageType)
    (scope : Fields) :
    ∃ p taken reshared fields,
      snapshot now id c w.terms = .ok p ∧
      apply later p target.id existing = .ok taken ∧
      (∃ regions, r.ShowsPage year target taken ⟨preview, page, some scope⟩ regions ∧
        r.ShowsPage year home c ⟨true, page, some scope⟩ regions) ∧
      snapshot last id' taken again.terms = .ok reshared ∧
      shared reshared.toFields = shared c.toFields ∧
      applyFields later p (.text target.id) (existing.map CustomSkin.toFields) = .ok fields ∧
      snapshotFields last id' fields again.terms = .ok reshared := by
  obtain ⟨taken, applied, blog, design, active⟩ :=
    apply_eq_ok own later (w.published now id c)
  obtain ⟨fields, put, blog', same⟩ := applyFields_eq_ok own applied
  refine ⟨_, taken, _, fields, snapshot_eq_ok named, applied, ?page, snapshot_eq_ok renamed,
    ?shared, put, snapshotFields_of_shared renamed blog' same⟩
  case page =>
    have there : r.ShowsPage year target taken ⟨preview, page, some scope⟩ _ :=
      Resolver.showsPage blog (.inl active) rfl
    rw [design] at there
    exact ⟨_, there, Resolver.showsPage athome (.inr rfl) rfl⟩
  case shared =>
    change taken.design.templateFields ++ taken.design.flagFields = _
    rw [design]
    rfl

/-- A skin at work on another blog: the blog had a header of its own, and both a template
that includes posts and a wish for the built-in footer come along. -/
theorem page_of_published_replacing :
    let c : CustomSkin := {
      blogId := "blog-1"
      design := {
        header := "<h1>{{blog_name}}</h1>"
        postList := "\x7b\x7b#each posts\x7d\x7d\x7b\x7b/each\x7d\x7d"
        postItem := "<p>{{title}}</p>"
        defaultFooter := true } }
    let existing : CustomSkin :=
      { id := some "skin-9", blogId := "blog-2", design := { header := "<b>old</b>" } }
    let w : Wording := { name := " Slate ", creatorId := "author-1" }
    let home : Blog := { id := "blog-1", name := "My Blog" }
    let target : Blog := { id := "blog-2", name := "Yours" }
    let now : Moment := ⟨⟨2031, 2, 3⟩, {}, some 0⟩
    w.Named ∧ c.blogId = home.id ∧ existing.blogId = target.id ∧
    ∃ p taken reshared fields,
      snapshot now "snapshot-1" c w.terms = .ok p ∧
      apply now p target.id (some existing) = .ok taken ∧
      (∃ regions,
        Resolver.ShowsPage {} 2031 target taken ⟨false, .list, some []⟩ regions ∧
        Resolver.ShowsPage {} 2031 home c ⟨true, .list, some []⟩ regions) ∧
      snapshot now "snapshot-2" taken w.terms = .ok reshared ∧
      shared reshared.toFields = shared c.toFields ∧
      applyFields now p (.text target.id) (some existing.toFields) = .ok fields ∧
      snapshotFields now "snapshot-2" fields w.terms = .ok reshared := by
  intro c existing w home target now
  have named : w.Named := by decide
  exact ⟨named, rfl, rfl, page_of_published {} 2031 named named rfl
    (by intro e he; cases he; rfl) now now now "snapshot-1" "snapshot-2" false .list []⟩

end Publishing
end PageSkins
