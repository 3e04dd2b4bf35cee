import PageSkins.Proofs.Markup.TreeAttributes
import PageSkins.Proofs.Markup.WrittenMarkup
import PageSkins.Resolver

/-!
# The allow-list

A fragment is read into trees, reduced to what a policy keeps, and written. Here
the three steps are put together: what is written reads back as characters and
kept tags, whatever the fragment was. The tree is not asked to read back as
itself.
-/

namespace PageSkins

namespace Markup

/-! ### Names in the tree -/

/-- The name without its vocabulary reads back as itself past its first character. -/
def Attribute.LocallyTight (a : Attribute) : Prop :=
  TightName (QualifiedName.ofText a.name).name.toList

theorem Attribute.Tight.locally {a : Attribute} (h : a.Tight) : a.LocallyTight := by
  unfold Attribute.LocallyTight QualifiedName.ofText
  unfold Attribute.Tight at h
  split
  · rename_i r hr
    split
    · rename_i c name hn
      rw [hr] at h
      intro d hd
      rw [String.toList_ofList] at hd
      have inside : d ∈ r.dropWhile (· != '}') := by
        rw [hn]
        exact List.mem_cons_of_mem _ (List.mem_of_mem_tail hd)
      exact h d ((List.dropWhile_suffix _).subset inside)
    · exact h
  · exact h

theorem Attribute.LocallyTight.drawn {a : Attribute} (h : a.LocallyTight) :
    (Builder.foreignAttribute (Builder.drawingAttribute a)).LocallyTight := by
  have small : (Builder.drawingAttribute a).LocallyTight := by
    unfold Builder.drawingAttribute
    split
    · have known : ∀ c ∈ (QualifiedName.ofText "viewBox").name.toList.tail,
          isNameChar c = true := forall_mem_of_all (by decide)
      exact known
    · exact h
  generalize Builder.drawingAttribute a = b at small
  unfold Builder.foreignAttribute
  split
  · split
    · rename_i listed
      generalize (b.name.drop 6).toString = n at listed
      have known : ∀ n ∈ ["actuate", "arcrole", "href", "role", "show", "title", "type"],
          (QualifiedName.ofText
            ("\x7bhttp://www.w3.org/1999/xlink\x7d" ++ n)).name.toList.tail.all isNameChar = true := by
        decide
      exact List.all_eq_true.1 (known n (List.contains_iff_mem.1 listed))
    · exact small
  · exact small

/-! ### Trees that are reduced -/

theorem Policy.keeps_of_value? {p : Policy} {q : QualifiedName} {value v : List Char}
    (h : p.value? q value = .ok (some v)) : p.keepsAttribute q.name = true := by
  unfold Policy.value? at h
  split at h
  · cases h
  · rename_i kept
    simpa using kept

theorem Attribute.fits_of_kept {p : Policy} {a : Attribute} (kept : p.keepsAttribute a.name = true)
    (tight : TightName a.name.toList) : a.Fits p := by
  obtain ⟨c, r, hn, first⟩ := keepsAttribute_cons kept
  rw [TightName, hn] at tight
  refine ⟨kept, by rw [hn]; exact List.cons_ne_nil c r, ?_⟩
  rw [hn]
  intro d hd
  rcases List.mem_cons.1 hd with rfl | hd
  · exact first
  · exact tight d hd

/-- Where an attribute of a tree has `P`, what the policy makes of it has `F`. -/
structure Policy.Turns (p : Policy) (P F : Attribute → Prop) : Prop where
  tight : ∀ a, P a → a.LocallyTight
  value : ∀ a v, P a → p.value? (QualifiedName.ofText a.name) a.value = .ok (some v) →
    F ⟨(QualifiedName.ofText a.name).name, v⟩

section Filtering

variable {p : Policy} {P F : Attribute → Prop}

theorem Policy.fits_attributes (turns : p.Turns P F) {as kept : List Attribute} (ha : ∀ a ∈ as, P a)
    (h : p.attributes as = .ok kept) : ∀ a ∈ kept, a.Fits p ∧ F a := by
  induction as generalizing kept with
  | nil =>
    cases h
    intro a hm
    cases hm
  | cons a as ih =>
    rw [Policy.attributes] at h
    obtain ⟨value, hv, h⟩ := ok_of_bind h
    obtain ⟨rest, hr, h⟩ := ok_of_bind h
    have others := ih (fun b hb => ha b (List.mem_cons_of_mem _ hb)) hr
    have first := ha a List.mem_cons_self
    cases value with
    | none =>
      cases h
      exact others
    | some v =>
      cases h
      intro b hb
      rcases List.mem_cons.1 hb with rfl | hb
      · exact ⟨Attribute.fits_of_kept (keeps_of_value? hv) (turns.tight a first),
          turns.value a v first hv⟩
      · exact others b hb

mutual

theorem Policy.fits_filterTree (turns : p.Turns P F) : ∀ (t : Tree), t.Carries P →
    ∀ {kept : List Tree}, p.filterTree t = .ok kept → Tree.AllFit p F kept
  | .text s, _, kept, h => by
    rw [Policy.filterTree] at h
    cases h
    simp [Tree.AllFit, Tree.Fits]
  | .comment, _, kept, h => by
    rw [Policy.filterTree] at h
    cases h
    simp [Tree.AllFit]
  | .element name vocabulary attributes children, ht, kept, h => by
    rw [Tree.Carries] at ht
    rw [Policy.filterTree] at h
    split at h
    · rename_i keeps
      obtain ⟨as, ha, h⟩ := ok_of_bind h
      obtain ⟨inside, hc, h⟩ := ok_of_bind h
      cases h
      have fits := Policy.fits_attributes turns ht.1 ha
      have below := Policy.fits_filter turns children ht.2 hc
      simp only [Tree.AllFit, Tree.Fits, and_true]
      exact ⟨keeps, fits, below⟩
    · exact Policy.fits_filter turns children ht.2 h

/-- What is left of trees fits the policy, and its attributes have what the policy gives them. -/
theorem Policy.fits_filter (turns : p.Turns P F) : ∀ (ts : List Tree), Tree.AllCarry P ts →
    ∀ {kept : List Tree}, p.filter ts = .ok kept → Tree.AllFit p F kept
  | [], _, kept, h => by
    rw [Policy.filter] at h
    cases h
    simp [Tree.AllFit]
  | t :: rest, ht, kept, h => by
    rw [Tree.AllCarry] at ht
    rw [Policy.filter] at h
    obtain ⟨first, h₁, h⟩ := ok_of_bind h
    obtain ⟨others, h₂, h⟩ := ok_of_bind h
    cases h
    exact Tree.allFit_append (Policy.fits_filterTree turns t ht.1 h₁)
      (Policy.fits_filter turns rest ht.2 h₂)

end

end Filtering

/-! ### Written fragments -/

/-- What is written for a fragment is reduced markup. What the attributes have in it comes from what
they have in the trees, by way of the policy and of the writer. -/
theorem reduced_of_sanitize {p : Policy} {P F : Attribute → Prop} {Q : Quoted → Prop}
    (turns : p.Turns P F) (writes : Writer.Writes p F Q) {s out : List Char}
    (read : Tree.AllCarry P (Tree.read p.keepsElement (stripContainers s)))
    (h : sanitize p s = .ok out) : Reduced p Q out := by
  obtain ⟨trees, filtered, written⟩ := ok_of_bind h
  exact Writer.reduced_write writes (Policy.fits_filter turns _ read filtered) written

/-- What becomes of a fragment that is one kept element around a text. -/
theorem sanitize_element {p : Policy} {s text : List Char} {name : String} {attributes kept : List Attribute}
    (read : Tree.read p.keepsElement (stripContainers s) =
      [.element name .page attributes [.text text]])
    (keeps : p.keepsElement name = true) (left : p.attributes attributes = .ok kept) :
    sanitize p s = Writer.write [.element name .page kept [.text text]] := by
  rw [sanitize, read]
  simp only [Policy.filter, Policy.filterTree, keeps, left]
  rfl

theorem read_locallyTight (p : Policy) (s : List Char) :
    Tree.AllCarry Attribute.LocallyTight (Tree.read p.keepsElement (stripContainers s)) :=
  Tree.read_carries (fun _ => Attribute.Tight.locally) (fun _ => Attribute.LocallyTight.drawn) _

/-- What is written for a fragment reads as markup of kept elements. -/
theorem reduced_sanitize {p : Policy} {s out : List Char} (h : sanitize p s = .ok out) :
    Reduced p (Quoted.Kept p) out := by
  have turns : p.Turns Attribute.LocallyTight fun _ => True :=
    ⟨fun _ tight => tight, fun _ _ _ _ => trivial⟩
  exact reduced_of_sanitize turns (Writer.writes_of_each fun _ _ fits _ written => written.kept fits)
    (read_locallyTight p s) h

end Markup

theorem Resolver.toList_clean {r : Resolver} {s out : List Char}
    (h : Markup.sanitize r.policy s = .ok out) : (r.clean s).value.toList = out := by
  rw [clean, h]
  exact String.toList_ofList

/-- Whatever the fragment, what it becomes holds characters and tags of kept elements with kept attributes
only, when it is read again with every tag reported. -/
theorem Resolver.lexemes_clean (r : Resolver) (fragment : List Char) :
    (Markup.lexemes (r.clean fragment).value.toList).Forall (Markup.Lexeme.Kept r.policy) := by
  rw [List.forall_iff_forall_mem]
  unfold Resolver.clean
  split
  · rename_i out h
    rw [String.toList_ofList]
    exact Markup.lexemes_reduced (Markup.reduced_sanitize h)
  · exact Markup.lexemes_reduced Markup.Reduced.nil

end PageSkins
