import PageSkins.Record.Check
import PageSkins.Template.Render

/-!
# Settings

How deep templates may nest, and what fragments keep.
-/

namespace PageSkins

open PageSkins.Check

structure Settings where
  maxDepth : Int := 32
  maxInclusions : Int := 8
  filterStyles : Bool := false
  forms : Bool := false
deriving Repr, DecidableEq

namespace Settings

/-- A limit on nesting. Nothing can be shown without one level. -/
def limit : Check.Reader Int := fun v => (integer v).also fun n =>
  if n < 1 then .fail (.refused "Nesting limits must be at least 1") else .ok n

def check (fs : Fields) : Checked Settings :=
  Settings.mk <$> orElse fs "max_depth" 32 limit <*> orElse fs "max_partial_depth" 8 limit
    <*> orElse fs "filter_inline_styles" false flag <*> orElse fs "allow_forms" false flag

def toValue (s : Settings) : Value := .map [
  ("max_depth", .int s.maxDepth), ("max_partial_depth", .int s.maxInclusions),
  ("filter_inline_styles", .bool s.filterStyles), ("allow_forms", .bool s.forms)]

def limits (s : Settings) : Template.Limits := ⟨s.maxDepth.toNat, s.maxInclusions.toNat⟩

end Settings
end PageSkins
