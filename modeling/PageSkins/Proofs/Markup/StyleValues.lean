import PageSkins.Proofs.Markup.AllowList
import PageSkins.Proofs.Markup.BrowserReading
import PageSkins.Proofs.Stylesheet.Respelling

/-!
# Values of style attributes

With filtered styles the dangerous constructs are taken out of the value of a style
attribute. Writing the value and reading it again only spells it otherwise, so none
comes back as it is written. The filter does not read references, though, and a
browser does: a construct that is spelled with a reference passes. So does one in an
attribute that has a vocabulary in braces before its name, which the filter does not
take for a style and the writer writes without its vocabulary.
-/

namespace PageSkins

namespace Markup

open Stylesheet (Respelled isDangerous)

/-! ### How a value is spelled where it is written -/

namespace Writer

theorem respelled_escapeValue (s : List Char) : Respelled s (escapeValue s) := by
  refine Respelled.flatMap (fun c => ?_) s
  split
  · exact Or.inr (by decide)
  · split
    · exact Or.inr (by decide)
    · exact Or.inl rfl

theorem respelled_escapeQuotes (s : List Char) : Respelled s (escapeQuotes s) := by
  refine Respelled.flatMap (fun c => ?_) s
  split
  · exact Or.inr (by decide)
  · exact Or.inl rfl

theorem respelled_plainAmpersands (s : List Char) : Respelled s (plainAmpersands s) := by
  induction s using plainAmpersands.induct with
  | case1 s ih =>
    rw [plainAmpersands]
    exact Respelled.veiled "&amp;".toList (w := ['&']) (by decide) ih
  | case2 c s other ih =>
    rw [plainAmpersands]
    · exact Respelled.cons c ih
    · exact other
  | case3 => exact Respelled.nil

/-- A part that is settled is as it was, but for the ampersand at its start and the semicolon after the body
of its reference. -/
theorem respelled_settlePart {part w : List Char} (h : settlePart part = .ok w) :
    Respelled part w := by
  unfold settlePart at h
  split at h
  · rename_i r
    have escaped : Respelled ('&' :: r) ("&amp;".toList ++ r) :=
      Respelled.veiled ['&'] (by decide) (Respelled.refl r)
    dsimp only at h
    split at h
    · cases h
      exact escaped
    · rename_i body hbody
      split at h
      · cases h
      · cases h
        exact escaped
      · cases h
        obtain ⟨tail, rfl⟩ := (Reference.body?_some hbody).1
        have after : (body ++ tail).drop (body.length + 1) = tail.drop 1 := by
          rw [← List.drop_drop, List.drop_left]
        have closed : Respelled (tail.take 1 ++ tail.drop 1) ([';'] ++ tail.drop 1) :=
          Respelled.veiled (tail.take 1) (by decide) (Respelled.refl _)
        rw [List.take_append_drop] at closed
        rw [after]
        exact Respelled.cons '&' ((Respelled.refl body).append closed)
  · cases h
    exact Respelled.refl _

theorem respelled_settleParts {parts settled : List (List Char)}
    (h : List.Forall₂ (fun part w => settlePart part = .ok w) parts settled) :
    Respelled parts.flatten settled.flatten := by
  induction h with
  | nil => exact Respelled.nil
  | cons first _ ih => exact (respelled_settlePart first).append ih

theorem isDangerous_settle {s w : List Char} (h : settle s = .ok w)
    (harmless : isDangerous s = false) : isDangerous w = false := by
  have plain := (respelled_plainAmpersands s).isDangerous harmless
  unfold settle at h
  dsimp only at h
  obtain ⟨parts, settled, h⟩ := ok_of_bind h
  cases h
  rw [← Reference.splitAmpersands_flatten (plainAmpersands s)] at plain
  exact ((Respelled.refl _).append (respelled_settleParts (forall₂_of_mapM settled))).isDangerous plain

end Writer

theorem respelled_normalizeBreaks (s : List Char) : Respelled s (normalizeBreaks s) := by
  have feed : ∀ c ∈ ['\n'], Text.isBlank c = true := forall_mem_of_all (by decide)
  induction s using normalizeBreaks.induct with
  | case1 s ih =>
    rw [normalizeBreaks]
    have pair : ∀ c ∈ ['\r', '\n'], Text.isBlank c = true := forall_mem_of_all (by decide)
    exact Respelled.blanks pair feed ih
  | case2 s apart ih =>
    rw [normalizeBreaks]
    · have single : ∀ c ∈ ['\r'], Text.isBlank c = true := forall_mem_of_all (by decide)
      exact Respelled.blanks single feed ih
    · exact apart
  | case3 c s _ single ih =>
    rw [normalizeBreaks_cons fun e => single e]
    exact Respelled.cons c ih
  | case4 => exact Respelled.nil

theorem respelled_visible (s : List Char) : Respelled s (s.map visible) := by
  induction s with
  | nil => exact Respelled.nil
  | cons c s ih =>
    rw [List.map_cons]
    unfold visible
    split
    · exact Respelled.veiled [c] (w := ['\ufffd']) (by decide) ih
    · exact Respelled.cons c ih

/-! ### Attributes -/

def Attribute.Styled (a : Attribute) : Prop :=
  smallName a.name = "style" → isDangerous a.value = false

/-- The attribute is the one whose value is filtered, if it is a style. -/
def Attribute.PlainStyle (a : Attribute) : Prop :=
  smallName (QualifiedName.ofText a.name).name = "style" →
    QualifiedName.ofText a.name = ⟨none, "style"⟩

def Quoted.Styled (a : Quoted) : Prop :=
  smallName (String.ofList a.name) = "style" → isDangerous a.value = false

theorem Policy.value?_style {p : Policy} (filtered : p.filterStyles = true) (value : List Char) :
    p.value? ⟨none, "style"⟩ value = .ok (some (Stylesheet.sanitize value)) := by
  have kept : p.keepsAttribute "style" = true := by
    have listed : contentAttributes.contains (smallName "style") = true := by decide
    rw [Policy.keepsAttribute, listed]
    rfl
  rw [Policy.value?, kept, filtered]
  rfl

/-- The filter leaves no dangerous construct in what it takes for a style. -/
theorem Policy.turns_styled {p : Policy} (filtered : p.filterStyles = true) :
    p.Turns (fun a => a.LocallyTight ∧ a.PlainStyle) Attribute.Styled where
  tight _ h := h.1
  value a v h hv named := by
    rw [h.2 named, value?_style filtered] at hv
    cases hv
    exact Stylesheet.isDangerous_sanitize a.value

theorem Attribute.WrittenAs.styled {a : Attribute} {q : Quoted} (h : a.WrittenAs q)
    (ha : a.Styled) : q.Styled := by
  intro named
  have same : a.name.toList = q.name := by
    rcases h.name with same | settled
    · exact same.symm
    · have plain : '&' ∉ a.name.toList := by
        intro amp
        have inside : '&' ∈ (smallName (String.ofList q.name)).toList := by
          rw [toList_smallName, String.toList_ofList]
          exact List.mem_map.2 ⟨'&', Writer.ampersand_mem_settle settled amp, by decide⟩
        rw [named] at inside
        exact absurd inside (by decide)
      rw [Writer.settle_of_notMem plain] at settled
      exact Except.ok.inj settled
  rw [← same, String.ofList_toList] at named
  obtain ⟨w, escaped, settled⟩ := h.value
  have value := (Writer.respelled_escapeValue a.value).isDangerous (ha named)
  have harmless : isDangerous w = false := by
    rcases escaped with rfl | rfl
    · exact value
    · exact (Writer.respelled_escapeQuotes _).isDangerous value
  rcases settled with same | settled
  · rw [same]
    exact harmless
  · exact Writer.isDangerous_settle settled harmless

theorem Quoted.Styled.uniform {a : Quoted} (h : a.Styled) : a.uniform.Styled :=
  fun named => (respelled_normalizeBreaks a.value).isDangerous (h named)

theorem Quoted.Styled.read {a : Quoted} (h : a.Styled) : a.read.Styled := by
  intro named
  rw [Quoted.read, smallName_lower] at named
  exact (respelled_visible a.value).isDangerous (h named)

/-- The styles of a fragment hold no dangerous construct as they are written, where the filter takes
every one of them for a style. -/
theorem styled_sanitize {p : Policy} (filtered : p.filterStyles = true) {s out : List Char}
    (plain : Tree.AllCarry Attribute.PlainStyle (Tree.read p.keepsElement (stripContainers s)))
    (h : sanitize p s = .ok out) {t : Tag} {bad : Bool} (ht : Lexeme.tag t bad ∈ lexemes out) :
    ∀ a ∈ t.attributes, a.Styled := by
  have read := Tree.allCarry_and _ (read_locallyTight p s) plain
  have markup : Reduced p Quoted.Styled out :=
    reduced_of_sanitize (Policy.turns_styled filtered) (Writer.writes_of_each fun _ _ _ styled written =>
      written.styled styled) read h
  have stable : ∀ q : Quoted, q.Styled → q.uniform.Styled := fun _ styled => styled.uniform
  intro a ha
  obtain ⟨q, styled, rfl⟩ := (lexemes_made stable markup _ ht).2 a ha
  exact styled.read

/-! ### What a browser makes of the styles -/

/-- A browser finds no dangerous construct in the styles of the markup. -/
def ShowsNone (markup : List Char) : Prop :=
  ∀ t bad, Lexeme.tag t bad ∈ lexemes markup → ∀ a ∈ t.attributes, a.name = "style" →
    ∀ p ∈ Stylesheet.dangerous, ∀ mid, mid <:+: (Reference.glyphs a.value).map Glyph.char →
      ¬ p.Matches mid

/-- Wherever a browser finds a dangerous construct in the styles of the markup, a reference stands for some
of it. -/
def ShowsByReference (markup : List Char) : Prop :=
  ∀ t bad, Lexeme.tag t bad ∈ lexemes markup → ∀ a ∈ t.attributes, a.name = "style" →
    ∀ p ∈ Stylesheet.dangerous, ∀ run, run <:+: Reference.glyphs a.value →
      p.Matches (run.map Glyph.char) → ∃ g ∈ run, g.referenced = true

theorem showsByReference_of_styled {markup : List Char}
    (h : ∀ t bad, Lexeme.tag t bad ∈ lexemes markup → ∀ a ∈ t.attributes, a.Styled) :
    ShowsByReference markup := by
  intro t bad ht a ha named p hp run inside found
  -- without a reference the run would stand in the value as it is written
  by_contra literal
  have plain : ∀ g ∈ run, g.referenced = false := by
    intro g hg
    cases referenced : g.referenced with
    | false => rfl
    | true => exact absurd ⟨g, hg, referenced⟩ literal
  have some' : run ≠ [] := by
    rintro rfl
    obtain ⟨c, q, rfl, -, -⟩ :=
      Text.Pattern.framed_false_cases (Stylesheet.framed_of_dangerous p hp)
    obtain ⟨x, u, empty, -⟩ := found
    cases empty
  have dangerous : isDangerous a.value = true :=
    Stylesheet.isDangerous_iff.2 ⟨p, hp, _, Reference.infix_of_glyphs plain some' inside, found⟩
  rw [h t bad ht a ha (by rw [named]; decide)] at dangerous
  cases dangerous

/-! ### A paragraph with a style -/

/-- What becomes of a paragraph with one attribute. -/
theorem sanitize_paragraph {p : Policy} {s v v' : List Char} {name : String}
    (read : Tree.read p.keepsElement (stripContainers s) =
      [.element "p" .page [⟨name, v⟩] [.text ['x']]])
    (value : p.value? (QualifiedName.ofText name) v = .ok (some v')) :
    sanitize p s = Writer.write
      [.element "p" .page [⟨(QualifiedName.ofText name).name, v'⟩] [.text ['x']]] := by
  have kept : p.keepsElement "p" = true := by
    have listed : contentElements.contains "p" = true := by decide
    rw [Policy.keepsElement, listed, Bool.true_or]
  have attributes : p.attributes [⟨name, v⟩] = .ok [⟨(QualifiedName.ofText name).name, v'⟩] := by
    simp only [Policy.attributes, value]
    rfl
  exact sanitize_element read kept attributes

/-- A style that spells a dangerous construct with a reference. -/
def referencedStyle : List Char := "&#106;avascript:alert(1)".toList

def referenced : List Char := "<p style=\"&#106;avascript:alert(1)\">x</p>".toList

/-- A paragraph whose style has a vocabulary before its name. -/
def braced : List Char := "<p {x}style=\"expression(1)\">x</p>".toList

def filtering : Policy := { filterStyles := true }

theorem read_referenced : Tree.read filtering.keepsElement (stripContainers referenced) =
    [.element "p" .page [⟨"style", referencedStyle⟩] [.text ['x']]] := by
  have strip : stripContainers referenced = referenced := by decide +kernel
  rw [strip]
  rfl

theorem read_braced : Tree.read filtering.keepsElement (stripContainers braced) =
    [.element "p" .page [⟨"\x7bx\x7dstyle", "expression(1)".toList⟩] [.text ['x']]] := by
  have strip : stripContainers braced = braced := by decide +kernel
  rw [strip]
  rfl

/-- The filter finds nothing in it, and the reference stays. -/
theorem sanitize_referenced : sanitize filtering referenced = .ok referenced := by
  have harmless : Stylesheet.sanitize referencedStyle = referencedStyle :=
    Stylesheet.sanitize_of_not_dangerous (by decide)
  have value : filtering.value? (QualifiedName.ofText "style") referencedStyle =
      .ok (some referencedStyle) :=
    (Policy.value?_style rfl referencedStyle).trans (by rw [harmless])
  rw [sanitize_paragraph read_referenced value]
  rfl

/-- The filter does not look at it, and it is written as a style. -/
theorem sanitize_braced :
    sanitize filtering braced = .ok "<p style=\"expression(1)\">x</p>".toList := by
  rw [sanitize_paragraph read_braced rfl]
  rfl

end Markup

namespace Resolver

open Markup

/-- With filtered styles, where no style has a vocabulary before its name, a browser finds no dangerous
construct in the styles of a clean fragment but with the help of references. -/
theorem styles_clean (r : Resolver) (fragment : List Char) (filtered : r.policy.filterStyles = true)
    (plain : Tree.AllCarry Attribute.PlainStyle
      (Tree.read r.policy.keepsElement (stripContainers fragment))) :
    ShowsByReference (r.clean fragment).value.toList := by
  apply showsByReference_of_styled
  intro t bad ht
  unfold clean at ht
  split at ht
  · rename_i out h
    rw [String.toList_ofList] at ht
    exact styled_sanitize filtered plain h ht
  · have nothing : lexemes "".toList = [] := lexemes_nil
    rw [nothing] at ht
    cases ht

theorem styles_clean_referenced :
    Tree.AllCarry Attribute.PlainStyle
        (Tree.read filtering.keepsElement (stripContainers referenced)) ∧
      ShowsByReference (clean { policy := filtering } referenced).value.toList := by
  have plain : Tree.AllCarry Attribute.PlainStyle
      (Tree.read filtering.keepsElement (stripContainers referenced)) := by
    rw [read_referenced]
    simp only [Tree.AllCarry, Tree.Carries, List.mem_singleton, forall_eq, and_true]
    exact fun _ => rfl
  exact ⟨plain, styles_clean _ referenced rfl plain⟩

/-- A browser reads the reference, and with it a dangerous construct. -/
theorem not_styles_clean_referenced :
    ¬ ShowsNone (clean { policy := filtering } referenced).value.toList := by
  rw [toList_clean sanitize_referenced]
  intro none
  have ht : Lexeme.tag ⟨false, "p", [⟨"style", referencedStyle⟩], false⟩ false ∈
      lexemes referenced := by
    rw [lexemes, lexemesFrom_some rfl]
    exact List.mem_cons_self
  have dangerous : Stylesheet.isDangerous ((Reference.glyphs referencedStyle).map Glyph.char) = true := by
    decide
  obtain ⟨p, hp, mid, inside, found⟩ := Stylesheet.isDangerous_iff.1 dangerous
  exact none _ _ ht _ List.mem_cons_self rfl p hp mid inside found

/-- A vocabulary before its name hides a style from the filter. -/
theorem not_styles_clean_braced :
    ¬ ShowsByReference (clean { policy := filtering } braced).value.toList := by
  rw [toList_clean sanitize_braced]
  intro byReference
  have ht : Lexeme.tag ⟨false, "p", [⟨"style", "expression(1)".toList⟩], false⟩ false ∈
      lexemes "<p style=\"expression(1)\">x</p>".toList := by
    rw [lexemes, lexemesFrom_some rfl]
    exact List.mem_cons_self
  have dangerous : Stylesheet.isDangerous "expression(1)".toList = true := by decide
  obtain ⟨p, hp, mid, inside, found⟩ := Stylesheet.isDangerous_iff.1 dangerous
  have literal : Reference.glyphs "expression(1)".toList =
      "expression(1)".toList.map (⟨·, false⟩) := by decide
  have shown : (mid.map fun c => (⟨c, false⟩ : Glyph)).map Glyph.char = mid := by
    rw [List.map_map]
    exact List.map_id mid
  obtain ⟨g, hg, referenced⟩ := byReference _ _ ht _ List.mem_cons_self rfl p hp
    (mid.map (⟨·, false⟩)) (by rw [literal]; exact inside.map _) (by rw [shown]; exact found)
  obtain ⟨c, -, rfl⟩ := List.mem_map.1 hg
  cases referenced

end Resolver
end PageSkins
