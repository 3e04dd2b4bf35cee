import PageSkins.Proofs.Failing
import PageSkins.Record.ContextFile

/-!
# Files with the data of a page

A file that does not give the data of a page is refused as invalid, unless it goes astray and
ends in a failure that is no refusal. It does so where a value of another kind stands in place
of the day of a post, of the post of a page or of its category, and where an identifier is too
long to be written. Raw records are read in order, so a file goes astray only if the first
record that cannot be read does.
-/

namespace PageSkins

namespace Raw

/-! ### Parts of a record -/

def Stray (f : RawFault) : Prop := f = .notRecord ∨ f = .tooLong

/-- A value that is shown as a day. -/
inductive ShowsDay : Value → Prop where
  | null : ShowsDay .null
  | text (s : String) : ShowsDay (.text s)
  | date (d : Date) : ShowsDay (.date d)
  | moment (t : Moment) : ShowsDay (.moment t)

variable {v : Value} {name : String} {fs : Fields}

theorem entryOrNull_of_entries (h : entries? v = some fs) :
    entryOrNull v name = .ok (fs.get name) := by
  rw [entryOrNull, h]

@[simp]
theorem not_fails_entry : ¬Fails Stray (entry v name) := by
  unfold entry
  split
  · simp [Stray]
  · split
    · simp
    · simp [Stray]

theorem entry_eq_ok {x : Value} (h : entries? v = some fs) :
    entry v name = .ok x ↔ fs.find? name = some x := by
  cases found : fs.find? name with
  | none => simp [entry, h, found]
  | some y => simp [entry, h, found]

@[simp]
theorem fails_entryOrNull : Fails Stray (entryOrNull v name) ↔ entries? v = none := by
  unfold entryOrNull
  split
  · simp [*, Stray]
  · simp [*]

/-- A part that may be missing is no record if something else stands in its place. -/
theorem entries?_orElse : entries? (orElse v (.map [])) = none ↔
    v.isTruthy = true ∧ entries? v = none := by
  unfold orElse
  split
  · simp [*]
  · simp [*, entries?]

/-- An identifier can be written, or it goes astray. -/
theorem idText_cases (v : Value) :
    (hasLongInteger v = false ∧ ∃ s, idText v = .ok s) ∨
      (hasLongInteger v = true ∧ idText v = .error .tooLong) := by
  cases long : hasLongInteger v with
  | false => exact .inl ⟨rfl, _, if_neg (by simp [long])⟩
  | true => exact .inr ⟨rfl, if_pos long⟩

@[simp]
theorem exists_idText : (∃ s, idText v = .ok s) ↔ hasLongInteger v = false := by
  obtain ⟨short, s, written⟩ | ⟨long, fault⟩ := idText_cases v
  · simp [short, written]
  · simp [long, fault]

@[simp]
theorem fails_idText : Fails Stray (idText v) ↔ hasLongInteger v = true := by
  obtain ⟨short, s, written⟩ | ⟨long, fault⟩ := idText_cases v
  · simp [short, written]
  · simp [long, fault, Stray]

/-- A value is shown as a day, or it goes astray. -/
theorem shownDate_cases (v : Value) :
    (ShowsDay v ∧ ∃ s, shownDate v = .ok s) ∨
      (¬ShowsDay v ∧ shownDate v = .error .notRecord) := by
  cases v with
  | null => exact .inl ⟨.null, _, rfl⟩
  | text s => exact .inl ⟨.text s, _, rfl⟩
  | date d => exact .inl ⟨.date d, _, rfl⟩
  | moment t => exact .inl ⟨.moment t, _, rfl⟩
  | _ => exact .inr ⟨by rintro ⟨⟩, rfl⟩

@[simp]
theorem exists_shownDate : (∃ s, shownDate v = .ok s) ↔ ShowsDay v := by
  obtain ⟨day, s, shown⟩ | ⟨no_day, fault⟩ := shownDate_cases v
  · simp [day, shown]
  · simp [no_day, fault]

@[simp]
theorem fails_shownDate : Fails Stray (shownDate v) ↔ ¬ShowsDay v := by
  obtain ⟨day, s, shown⟩ | ⟨no_day, fault⟩ := shownDate_cases v
  · simp [day, shown]
  · simp [no_day, fault, Stray]

@[simp]
theorem not_fails_ofChecked {α : Type} {c : Checked α} : ¬Fails Stray (ofChecked c) := by
  cases c with
  | ok a => simp [ofChecked]
  | bad issues => simp [ofChecked, Stray]

/-! ### One record -/

/-- A post among others that goes astray: it has an identifier, but one of its identifiers is too
long, or it was created on what is no day. -/
def StrayPost (post : Value) : Prop :=
  ∃ fs id, entries? post = some fs ∧ fs.find? "id" = some id ∧
    (hasLongInteger id = true ∨ ¬ShowsDay (fs.get "created_at") ∨
      ∃ b, fs.find? "blog_id" = some b ∧ hasLongInteger b = true)

/-- A category that goes astray: its identifier is too long. -/
def StrayCategory (category : Value) : Prop :=
  ∃ fs id, entries? category = some fs ∧ fs.find? "id" = some id ∧ hasLongInteger id = true

/-- The post of a page that goes astray: it is no record, or it has an identifier, but that is too
long, or the post was created on what is no day, or its category is no record. -/
def StrayPage (post : Value) : Prop :=
  post ≠ .null ∧ (entries? post = none ∨
    ∃ fs id, entries? post = some fs ∧ fs.find? "id" = some id ∧
      (hasLongInteger id = true ∨ ¬ShowsDay (fs.get "created_at") ∨
        ((fs.get "category").isTruthy = true ∧ entries? (fs.get "category") = none)))

theorem fails_postItem {post : Value} : Fails Stray (postItem post) ↔ StrayPost post := by
  cases h : entries? post with
  | none =>
    have missing : entry post "id" = .error .notIndexed := by simp only [entry, h]
    simp only [postItem, missing, StrayPost, h]
    simp [bind, Except.bind, Stray]
  | some fs =>
    -- a step is reached if the ones before it went well
    have steps : Fails Stray (postItem post) ↔ ∃ id, fs.find? "id" = some id ∧
        (hasLongInteger id = true ∨ hasLongInteger id = false ∧
          (¬ShowsDay (fs.get "created_at") ∨ ShowsDay (fs.get "created_at") ∧
            ∃ b, fs.find? "blog_id" = some b ∧ hasLongInteger b = true)) := by
      simp [postItem, entryOrNull_of_entries h, fails_bind, entry_eq_ok h]
    grind [StrayPost]

theorem fails_categoryItem {blog : Blog} {category : Value} :
    Fails Stray (categoryItem blog category) ↔ StrayCategory category := by
  cases h : entries? category with
  | none =>
    have missing : entry category "id" = .error .notIndexed := by simp only [entry, h]
    simp only [categoryItem, missing, StrayCategory, h]
    simp [bind, Except.bind, Stray]
  | some fs =>
    simp only [categoryItem, StrayCategory, fails_bind, entry_eq_ok h]
    simp [h]

theorem fails_postFields {post : Value} (some_post : post ≠ .null) :
    Fails Stray (postFields post) ↔ StrayPage post := by
  cases h : entries? post with
  | none =>
    have missing : entryOrNull post "category" = .error .notRecord := by simp only [entryOrNull, h]
    simp only [postFields, missing, StrayPage, h]
    simp [bind, Except.bind, Stray, some_post]
  | some fs =>
    have steps : Fails Stray (postFields post) ↔ ∃ id, fs.find? "id" = some id ∧
        (hasLongInteger id = true ∨ hasLongInteger id = false ∧
          (¬ShowsDay (fs.get "created_at") ∨ ShowsDay (fs.get "created_at") ∧
            (fs.get "category").isTruthy = true ∧ entries? (fs.get "category") = none)) := by
      simp [postFields, entryOrNull_of_entries h, fails_bind, entry_eq_ok h, entries?_orElse,
        Functor.map, Except.map]
    grind [StrayPage]

/-! ### Collections -/

def AllRead {α : Type} (read : Value → Except RawFault α) (v : Value) : Prop :=
  ∃ us, collection v = .ok us ∧ ∀ u ∈ us, ∃ a, read u = .ok a

/-- The first part of a collection that cannot be read is of some kind. -/
def FirstUnread {α : Type} (read : Value → Except RawFault α) (kind : Value → Prop) (v : Value) :
    Prop :=
  ∃ before u after, collection v = .ok (before ++ u :: after) ∧
    (∀ w ∈ before, ∃ a, read w = .ok a) ∧ kind u

@[simp]
theorem not_fails_collection : ¬Fails Stray (collection v) := by
  unfold collection
  split
  · cases v with
    | list | text | map | keyed => simp [parts]
    | _ => simp [parts, Stray]
  · simp

section Collections

variable {α : Type} {read : Value → Except RawFault α} {kind : Value → Prop}

/-- A collection is read, and then something else is done. -/
theorem fails_collection (kind_iff : ∀ u, Fails Stray (read u) ↔ kind u) (next : Prop) :
    (∃ us, collection v = .ok us ∧
        (Fails Stray (us.mapM read) ∨ (∃ as, us.mapM read = .ok as) ∧ next)) ↔
      FirstUnread read kind v ∨ AllRead read v ∧ next := by
  simp only [fails_mapM, kind_iff, exists_mapM_eq_ok]
  constructor
  · rintro ⟨us, listed, ⟨before, u, after, rfl, fine, stray⟩ | ⟨fine, after⟩⟩
    · exact .inl ⟨before, u, after, listed, fine, stray⟩
    · exact .inr ⟨⟨us, listed, fine⟩, after⟩
  · rintro (⟨before, u, after, listed, fine, stray⟩ | ⟨⟨us, listed, fine⟩, after⟩)
    · exact ⟨_, listed, .inl ⟨before, u, after, rfl, fine, stray⟩⟩
    · exact ⟨us, listed, .inr ⟨fine, after⟩⟩

end Collections

/-! ### Whole records -/

/-- Raw records go astray at the first of them that cannot be read. The posts are read before the
categories, and these before the post of the page. -/
def AstrayRecords (blog : Blog) (posts categories page : Value) : Prop :=
  FirstUnread postItem StrayPost posts ∨
    AllRead postItem posts ∧ (FirstUnread (categoryItem blog) StrayCategory categories ∨
      AllRead (categoryItem blog) categories ∧ StrayPage page)

theorem fails_context {year : Nat} {r : Records} : Fails Stray (context year r) ↔
    AstrayRecords r.blog r.posts r.categories r.post := by
  obtain ⟨blog, postCount, subscriberCount, visitorCount, posts, page, categories⟩ := r
  rw [AstrayRecords, ← fails_collection (fun _ => fails_categoryItem),
    ← fails_collection (fun _ => fails_postItem)]
  by_cases h : page = .null
  · simp [context, fails_bind, h, StrayPage]
  · simp [context, fails_bind, fails_postFields h]

end Raw

/-! ### Files -/

namespace ContextFile

/-- A file goes astray: it has raw records of a valid blog under no other keys than it may have,
and these records do. -/
def StrayFile (v : Value) : Prop :=
  ∃ (fs es : Fields) (blog : Blog), v = .map fs ∧ (∀ n ∈ fs.names, n ∈ rawKeys) ∧
    fs.get "blog" = .map es ∧ Blog.check es = .ok blog ∧
    Raw.AstrayRecords blog (fs.get "posts") (fs.get "categories") (fs.get "post")

/-- The faults of files that no refusal stands for. -/
def Stray (f : Fault) : Prop := f = .notRecord ∨ f = .tooLong

theorem stray_ofRaw {f : RawFault} : Stray (.ofRaw f) ↔ Raw.Stray f := by
  cases f with
  | _ => simp [Stray, Raw.Stray, Fault.ofRaw]

/-- A fault is told as a refusal of the file, unless it is a stray one. -/
theorem refused_iff {f : Fault} :
    (∃ message details issues, f.failure = .refused .validation message details issues) ↔
      ¬Stray f := by
  cases f with
  | _ => simp [Stray, Fault.failure, Failure.refusal, Failure.ofIssues]

theorem sortedKeys_eq_nil_iff {keys : List String} : sortedKeys keys = [] ↔ keys = [] := by
  rw [← List.length_eq_zero_iff, sortedKeys, List.length_mergeSort, List.length_eq_zero_iff]

theorem isEmpty_unknown_iff {fs : Fields} :
    (sortedKeys (fs.names.filter fun n => !rawKeys.contains n)).isEmpty = true ↔
      ∀ n ∈ fs.names, n ∈ rawKeys := by
  rw [List.isEmpty_iff, sortedKeys_eq_nil_iff]
  simp [List.filter_eq_nil_iff]

/-- What can be gone through can be counted. -/
theorem exists_count_of_collection {v : Value} {us : List Value}
    (h : Raw.collection v = .ok us) : ∃ n, count? v = some n := by
  unfold Raw.collection at h
  split at h
  · cases v with
    | list | text | map | keyed => exact ⟨_, rfl⟩
    | _ => cases h
  · rename_i empty
    cases v with
    | list | text | map | keyed => exact ⟨_, rfl⟩
    | _ => exact ⟨0, by simp only [count?, if_neg empty]⟩

theorem exists_count_of_astray {blog : Blog} {posts categories page : Value}
    (h : Raw.AstrayRecords blog posts categories page) : ∃ n, count? posts = some n := by
  obtain ⟨before, u, after, listed, -⟩ | ⟨⟨us, listed, -⟩, -⟩ := h
  · exact exists_count_of_collection listed
  · exact exists_count_of_collection listed

/-- Telling a fault as one of a file changes nothing about its going astray. -/
theorem fails_told {x : Except RawFault PageContext} :
    Fails Stray (match x with
      | .ok c => (return c : Except Fault PageContext)
      | .error f => throw (Fault.ofRaw f)) ↔ Fails Raw.Stray x := by
  cases x with
  | ok c => simp
  | error f => exact fails_error.trans (stray_ofRaw.trans fails_error.symm)

section OfRaw

variable {year : Nat} {fs es : Fields} {blog : Blog}

theorem ofRaw_of_unknown (h : ¬∀ n ∈ fs.names, n ∈ rawKeys) :
    ∃ keys, ofRaw year fs = .error (.unknownKeys keys) := by
  rw [← isEmpty_unknown_iff, Bool.not_eq_true] at h
  exact ⟨_, by simp only [ofRaw, h]; rfl⟩

variable (known : ∀ n ∈ fs.names, n ∈ rawKeys)
include known

theorem ofRaw_of_no_blog (h : ∀ es, fs.get "blog" ≠ .map es) :
    ofRaw year fs = .error .malformed := by
  have known := isEmpty_unknown_iff.2 known
  cases found : fs.get "blog" with
  | map es => exact absurd found (h es)
  | _ =>
    simp only [ofRaw, known, found]
    rfl

variable (found : fs.get "blog" = .map es)
include found

theorem ofRaw_of_bad_blog {issues : List Issue} (bad : Blog.check es = .bad issues) :
    ofRaw year fs = .error (.invalid issues) := by
  have known := isEmpty_unknown_iff.2 known
  simp only [ofRaw, known, found, bad]
  rfl

variable (checked : Blog.check es = .ok blog)
include checked

theorem ofRaw_of_uncounted (h : count? (fs.get "posts") = none) :
    ofRaw year fs = .error .malformed := by
  have known := isEmpty_unknown_iff.2 known
  simp only [ofRaw, known, found, checked, h]
  rfl

theorem fails_ofRaw_of_counted {n : Nat} (counted : count? (fs.get "posts") = some n) :
    Fails Stray (ofRaw year fs) ↔
      Raw.AstrayRecords blog (fs.get "posts") (fs.get "categories") (fs.get "post") := by
  have known := isEmpty_unknown_iff.2 known
  simp only [ofRaw, known, found, checked, counted]
  exact fails_told.trans Raw.fails_context

end OfRaw

theorem fails_ofRaw {year : Nat} {fs : Fields} :
    Fails Stray (ofRaw year fs) ↔ StrayFile (.map fs) := by
  constructor
  · intro fails
    by_cases known : ∀ n ∈ fs.names, n ∈ rawKeys
    case neg =>
      obtain ⟨keys, refused⟩ : ∃ keys, ofRaw year fs = .error (.unknownKeys keys) :=
        ofRaw_of_unknown known
      simp [refused, Stray] at fails
    by_cases found : ∃ es, fs.get "blog" = .map es
    case neg =>
      rw [ofRaw_of_no_blog known (not_exists.1 found)] at fails
      simp [Stray] at fails
    obtain ⟨es, found⟩ := found
    cases checked : Blog.check es with
    | bad issues =>
      rw [ofRaw_of_bad_blog known found checked] at fails
      simp [Stray] at fails
    | ok blog =>
      cases counted : count? (fs.get "posts") with
      | none =>
        rw [ofRaw_of_uncounted known found checked counted] at fails
        simp [Stray] at fails
      | some n =>
        exact ⟨fs, es, blog, rfl, known, found, checked,
          (fails_ofRaw_of_counted known found checked counted).1 fails⟩
  · rintro ⟨fs, es, blog, ⟨⟩, known, found, checked, astray⟩
    obtain ⟨n, counted⟩ := exists_count_of_astray astray
    exact (fails_ofRaw_of_counted known found checked counted).2 astray

theorem has_blog_of_strayFile {fs : Fields} (h : StrayFile (.map fs)) : fs.has "blog" = true := by
  obtain ⟨fs, es, blog, ⟨⟩, -, found, -⟩ := h
  cases absent : fs.find? "blog" with
  | none => simp [Fields.get, absent] at found
  | some v => simp [Fields.has, absent]

theorem fails_read (year : Nat) {v : Value} : Fails Stray (read year v) ↔ StrayFile v := by
  cases v with
  | map fs =>
    by_cases raw : Fields.has fs "blog" = true
    · rw [read, if_pos raw, fails_map, fails_ofRaw]
    · rw [read, if_neg raw]
      refine iff_of_false ?_ fun stray => raw (has_blog_of_strayFile stray)
      cases PageContext.check year fs with
      | ok c => simp
      | bad issues => simp [Stray]
  | _ => simp [read, StrayFile, Stray]

/-- A file gives the data of a page, or none for null, or is refused as invalid, if and only if it
does not go astray. -/
theorem read_refused_iff (year : Nat) (v : Value) :
    (∀ f, read year v = .error f →
      ∃ message details issues, f.failure = .refused .validation message details issues) ↔
      ¬StrayFile v := by
  simp only [refused_iff, ← fails_read year, Fails, not_exists, not_and]

def stamped : Value := .map [
  ("blog", .map [("id", .text "blog-1"), ("name", .text "Notes")]),
  ("posts", .list [.map [("id", .text "post-1"), ("blog_id", .text "blog-1"),
    ("created_at", .int 1700000000)]])]

theorem not_read_refused_stamped :
    ∃ f, read 2031 stamped = .error f ∧
      ¬∃ message details issues, f.failure = .refused .validation message details issues := by
  refine ⟨.notRecord, by decide +kernel, ?_⟩
  rintro ⟨message, details, issues, ⟨⟩⟩

end ContextFile

end PageSkins
