import PageSkins.Proofs.Failing
import PageSkins.RecordsFile

/-!
# Files with the records of a blog

A file that does not give the records of a blog is refused as invalid, unless a value of another
kind stands in place of one of its records. The records are read in order, so a file goes astray
only if the first record that cannot be read is such a value.
-/

namespace PageSkins.RecordsFile

def Stray (f : Fault) : Prop := f = .notRecord

/-- A fault is told as a refusal of the file, unless it is the stray one. -/
theorem refused_iff {f : Fault} :
    (∃ message details issues, f.failure = .refused .validation message details issues) ↔
      ¬Stray f := by
  cases f with
  | _ => simp [Stray, Fault.failure, Failure.refusal, Failure.ofIssues]

/-! ### One record -/

/-- A value that is no map stands in place of a record. Null and whatever is empty stand for no
record at all. -/
def Misplaced (v : Value) : Prop := v.isTruthy = true ∧ ∀ fs, v ≠ .map fs

/-- A record passes its check, or there is none. -/
def Sound {α : Type} (check : Fields → Checked α) (v : Value) : Prop :=
  v.isTruthy = true → ∃ fs a, v = .map fs ∧ check fs = .ok a

section
variable {α : Type} {check : Fields → Checked α} {v : Value}

@[simp]
theorem fails_record : Fails Stray (record check v) ↔ ∀ fs, v ≠ .map fs := by
  cases v with
  | map fs =>
    cases checked : check fs with
    | ok a => simp [record, checked]
    | bad issues => simp [record, checked, Stray]
  | _ => simp [record, Stray]

@[simp]
theorem exists_record :
    (∃ a, record check v = .ok a) ↔ ∃ fs a, v = .map fs ∧ check fs = .ok a := by
  cases v with
  | map fs =>
    cases checked : check fs with
    | ok a => simp [record, checked]
    | bad issues => simp [record, checked]
  | _ => simp [record]

@[simp]
theorem fails_optional : Fails Stray (optional check v) ↔ Misplaced v := by
  by_cases given : v.isTruthy = true
  · simp [optional, given, Misplaced]
  · simp [optional, given, Misplaced]

@[simp]
theorem exists_optional : (∃ a, optional check v = .ok a) ↔ Sound check v := by
  by_cases given : v.isTruthy = true
  · simp only [optional, given, if_true, Sound, forall_const, ← exists_record]
    exact ok_bind_pure_iff
  · simp [optional, given, Sound]

end

/-! ### Whole files -/

/-- A file goes astray: there is something for a blog in it, and the first of its four records
that cannot be read is a value in place of a record. -/
def StrayFile (v : Value) : Prop :=
  ∃ fs, Raw.entries? v = some fs ∧ (fs.get "blog").isTruthy = true ∧
    (Misplaced (fs.get "blog") ∨ Sound Blog.check (fs.get "blog") ∧
      (Misplaced (fs.get "base_skin") ∨ Sound Skin.check (fs.get "base_skin") ∧
        (Misplaced (fs.get "application") ∨ Sound SkinApplication.check (fs.get "application") ∧
          Misplaced (fs.get "custom_skin"))))

theorem fails_read {v : Value} : Fails Stray (read v) ↔ StrayFile v := by
  unfold read StrayFile
  cases Raw.entries? v with
  | none => simp [throw, throwThe, MonadExceptOf.throw, Stray]
  | some fs =>
    by_cases given : (fs.get "blog").isTruthy = true
    · simp [given, fails_bind, Misplaced, Sound]
    · simp [given, fails_bind, throw, throwThe, MonadExceptOf.throw, Stray]

/-- A file gives the records of a blog or is refused as invalid, if and only if it does not go
astray. -/
theorem records_refused_iff (v : Value) :
    (∀ f, read v = .error f →
      ∃ message details issues, f.failure = .refused .validation message details issues) ↔
      ¬StrayFile v := by
  simp only [refused_iff, ← fails_read, Fails, not_exists, not_and]

/-- The records of a blog whose applied skin is given as a text. -/
def named : Value := .map [
  ("blog", .map [("id", .text "blog-1"), ("name", .text "Notes")]),
  ("application", .text "night")]

theorem not_records_refused_named :
    ∃ f, read named = .error f ∧
      ¬∃ message details issues, f.failure = .refused .validation message details issues := by
  refine ⟨.notRecord, rfl, ?_⟩
  rintro ⟨message, details, issues, ⟨⟩⟩

end PageSkins.RecordsFile
