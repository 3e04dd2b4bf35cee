import PageSkins.Failure
import PageSkins.Resolver

/-!
# Files with the records of a blog

The blog itself, and its skins where there are some.
-/

namespace PageSkins.RecordsFile

/-- Why a file gives no records. -/
inductive Fault where
  | noBlog
  | invalid (issues : List Issue)
  /-- A value stands in place of a record. -/
  | notRecord
deriving Repr, DecidableEq

def Fault.failure : Fault → Failure
  | .noBlog => .refusal .validation "Records file must contain a 'blog' record"
  | .invalid issues => .ofIssues .validation "Invalid records" issues
  | .notRecord => .mishap .wrongKind "A value stands in place of a record"

def record {α : Type} (check : Fields → Checked α) : Value → Except Fault α
  | .map fs =>
    match check fs with
    | .ok a => .ok a
    | .bad issues => .error (.invalid issues)
  | _ => .error .notRecord

/-- Reads a record that may be null or empty instead. -/
def optional {α : Type} (check : Fields → Checked α) (v : Value) : Except Fault (Option α) :=
  if v.isTruthy then some <$> record check v else .ok none

def read (data : Value) : Except Fault SkinRecords := do
  let some fs := Raw.entries? data | throw .noBlog
  let blog := Fields.get fs "blog"
  if !blog.isTruthy then throw .noBlog
  return {
    blog := ← record Blog.check blog
    baseSkin := ← optional Skin.check (Fields.get fs "base_skin")
    application := ← optional SkinApplication.check (Fields.get fs "application")
    customSkin := ← optional CustomSkin.check (Fields.get fs "custom_skin") }

end PageSkins.RecordsFile
