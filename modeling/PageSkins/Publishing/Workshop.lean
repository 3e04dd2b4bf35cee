import PageSkins.Publishing

/-!
# A workshop for skins

An author edits a skin here, publishes it and takes it over again. Values are edited without
being checked; a published skin cannot be edited.
-/

namespace PageSkins.Publishing

/-- The skins at hand. -/
structure Workshop where
  custom : Fields
  published : Option PublishedSkin := none
  /-- The result of taking over the published skin. -/
  applied : Option Fields := none
  /-- How many identifiers have been given out. -/
  ids : Nat := 0

namespace Workshop

/-- What a step gives, and the workshop after it. -/
abbrev Step (α : Type) := Workshop × Except Failure α

/-- Publishes a skin. An identifier is given out as soon as the name is found to be proper. -/
def snapshot (now : Moment) (newId : Nat → String) (w : Workshop) (skin : Option Fields) (terms : Terms) :
    Step PublishedSkin :=
  match properName terms.name with
  | .error f => (w, .error f.failure)
  | .ok _ =>
    let w := { w with ids := w.ids + 1 }
    match skin with
    | none => (w, .error Fault.noSkin.failure)
    | some skin =>
      match snapshotFields now (newId w.ids) skin terms with
      | .ok p => ({ w with published := some p }, .ok p)
      | .error f => (w, .error f.failure)

/-- Sets a field of the custom skin. -/
def edit (w : Workshop) (field : String) (v : Value) : Step Unit :=
  if w.custom.has field then ({ w with custom := w.custom.put field v }, .ok ())
  else (w, .error (.mishap .badValue "The skin has no such field"))

/-- Refuses to set a field of the published skin. -/
def editPublished (w : Workshop) (field : String) : Step Unit :=
  (w, .error (match w.published with
    | some _ => .invalid [⟨[.field field], .frozen⟩]
    | none => Fault.noSkin.failure))

/-- Takes over the published skin for a blog, into a skin that the blog has or as a new one. -/
def apply (now : Moment) (w : Workshop) (blogId : Value) (existing : Option Fields) : Step Fields :=
  match existing.filter (isForeign blogId) with
  | some other => (w, .error (Fault.otherBlog blogId (other.get "blog_id")).failure)
  | none =>
    match w.published with
    | none => (w, .error Fault.noSkin.failure)
    | some p =>
      match applyFields now p blogId existing with
      | .ok skin => ({ w with applied := some skin }, .ok skin)
      | .error f => (w, .error f.failure)

/-- Starts a variant of the published skin. An identifier is given out where none is given. -/
def clone (now : Moment) (newId : Nat → String) (w : Workshop) (blogId id : Value) : Step (Skin × SkinApplication) :=
  let w := if id.isTruthy then w else { w with ids := w.ids + 1 }
  match w.published with
  | none => (w, .error Fault.noSkin.failure)
  | some p =>
    (w, (Publishing.clone now (if id.isTruthy then id else .text (newId w.ids)) p blogId).mapError Fault.failure)

end Workshop
end PageSkins.Publishing
