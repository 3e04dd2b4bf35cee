import PageSkins.Failure
import PageSkins.Record.PageContext

/-!
# Files with the data of a page

Such a file holds raw records under `blog`, or the fields of the page themselves.
-/

namespace PageSkins.ContextFile

/-- The keys of a file of raw records. -/
def rawKeys : List String :=
  ["blog", "posts", "post", "categories", "post_count", "subscriber_count", "visitor_count"]

/-- Why a file gives no data for a page. -/
inductive Fault where
  | notMapping
  | unknownKeys (keys : List String)
  | invalid (issues : List Issue)
  | lacks (field : String)
  | malformed
  /-- A value of the wrong kind stands where a record is asked for fields. This is no fault of a field. -/
  | notRecord
  | tooLong
deriving Repr, DecidableEq

def Fault.ofRaw : RawFault → Fault
  | .invalid issues => .invalid issues
  | .lacks field => .lacks field
  | .notIndexed => .malformed
  | .notRecord => .notRecord
  | .tooLong => .tooLong

def Fault.failure : Fault → Failure
  | .notMapping => .refusal .validation "Context file must contain a mapping"
  | .unknownKeys keys => .refusal .validation ("Unknown context keys: " ++ ", ".intercalate keys)
  | .invalid issues => .ofIssues .validation "Invalid context" issues
  | .lacks field => .refusal .validation ("Invalid context: missing or malformed field '" ++ field ++ "'")
  | .malformed => .refusal .validation "Invalid context: missing or malformed field of some record"
  | .notRecord => .mishap .noSuchPart "A value stands in place of a record"
  | .tooLong => .mishap .badValue "An integer has too many digits"

/-- The number of parts of a value that has parts. -/
def count? : Value → Option Nat
  | .list vs => some vs.length
  | .text s => some s.length
  | .map es => some es.length
  | .keyed es => some es.length
  | v => if v.isTruthy then none else some 0

/-- The keys of a map by code point, each before the next. -/
def sortedKeys (keys : List String) : List String := keys.mergeSort fun a b => decide (a ≤ b)

def ofRaw (year : Nat) (fs : Fields) : Except Fault PageContext := do
  let unknown := sortedKeys (fs.names.filter fun n => !rawKeys.contains n)
  if !unknown.isEmpty then throw (.unknownKeys unknown)
  let blog ← match fs.get "blog" with
    | .map es =>
      match Blog.check es with
      | .ok b => pure b
      | .bad issues => throw (.invalid issues)
    | _ => throw .malformed
  let count ← match count? (fs.get "posts") with
    | some n => pure n
    | none => throw .malformed
  let number (name : String) (default : Nat) : Value := (fs.find? name).getD (.int default)
  match Raw.context year ⟨blog, number "post_count" count, number "subscriber_count" 0, number "visitor_count" 0,
      fs.get "posts", fs.get "post", fs.get "categories"⟩ with
  | .ok c => return c
  | .error f => throw (.ofRaw f)

/-- Reads the data of a page. Null stands for no data. -/
def read (year : Nat) : Value → Except Fault (Option PageContext)
  | .null => .ok none
  | .map fs =>
    if Fields.has fs "blog" then some <$> ofRaw year fs
    else match PageContext.check year fs with
      | .ok c => .ok (some c)
      | .bad issues => .error (.invalid issues)
  | .keyed _ => .error .malformed
  | _ => .error .notMapping

end PageSkins.ContextFile
