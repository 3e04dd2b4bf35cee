import PageSkins.Markup.Policy
import PageSkins.Proofs.Markup.JoinedText
import PageSkins.Proofs.Markup.WrittenValues

/-!
# Orderly trees

In an orderly tree elements are nested the way their tags are read, no two texts
stand side by side, and every attribute can be written and read back. Tables,
drawings and lists of choices are not among them. Written and read back, such a
tree is the same but for its texts and the values of its attributes, which are
then escaped, and for a line break at the start of preformatted text, which is
lost. What is escaped in a text, or in a value between double quotes, is not
escaped again.
-/

namespace PageSkins.Markup

/-! ### Which trees are orderly -/

/-- Blocks that close a paragraph and may hold other blocks. -/
def flowBlocks : List String := [
  "div", "p", "ul", "ol", "header", "footer", "nav", "main", "aside", "article", "section",
  "figure", "figcaption", "blockquote", "pre"]

/-- Elements that may not stand inside one of their own kind. -/
def soleElements : List String := ["a", "strong", "em", "b", "i", "u", "code", "button"]

/-- Elements that may stand anywhere. -/
def freeElements : List String := ["span", "label", "br", "img", "input"]

/-- Whether the tags of an element mean what they say inside these elements, innermost first. -/
def opensIn (path : List String) (name : String) : Bool :=
  if flowBlocks.contains name || name == "hr" then !path.contains "p"
  else if Builder.headings.contains name then
    !path.contains "p" && !Builder.headings.contains (path.headD "")
  else if name == "li" then !path.contains "p" && ["ul", "ol"].contains (path.headD "")
  else if soleElements.contains name then !path.contains name
  else freeElements.contains name

/-- The attribute can be written, and is then read back under its name. -/
structure Attribute.Orderly (a : Attribute) : Prop where
  named : a.name.toList ≠ []
  tight : ∀ c ∈ a.name.toList, isNameChar c = true
  small : ∀ c ∈ a.name.toList, c.toLower = c
  plain : ∀ c ∈ a.name.toList, c ∉ ['&', '"', '\'', '<', '\x7b']
  value : ∀ c ∈ a.value, c ∉ ['\r', '\x00']
  open' : a.written ≠ ['>']
  settled : a.single = false →
    ∃ w, Writer.settle (Writer.escapeQuotes (Writer.escapeValue a.value)) = .ok w

def Tree.isText : Tree → Bool
  | .text _ => true
  | _ => false

mutual

/-- The tree is orderly inside these elements, innermost first. -/
def Tree.Orderly (p : Policy) (path : List String) : Tree → Prop
  | .text s => s ≠ [] ∧ '\r' ∉ s ∧ Writer.Clear (Writer.writtenText s)
  | .comment => False
  | .element name vocabulary attributes children =>
    (vocabulary = .page ∧ p.keepsElement name = true ∧ opensIn path name = true) ∧
    ((∀ a ∈ attributes, a.Orderly) ∧ (attributes.map Attribute.name).Nodup) ∧
    (Writer.emptyElements.contains name = true → children = []) ∧
    Tree.AllOrderly p (name :: path) children

/-- The trees are orderly inside these elements, innermost first. -/
def Tree.AllOrderly (p : Policy) (path : List String) : List Tree → Prop
  | [] => True
  | t :: rest => t.Orderly p path ∧ Tree.AllOrderly p path rest ∧
      (t.isText = true → ∀ u ∈ rest.head?, u.isText = false)

end

mutual

/-- The policy keeps every value as it is written. -/
def Tree.Kept (p : Policy) : Tree → Prop
  | .text _ => True
  | .comment => True
  | .element _ _ attributes children =>
    (∀ a ∈ attributes, p.value? ⟨none, a.name⟩ a.written = .ok (some a.written)) ∧
      Tree.AllKept p children

def Tree.AllKept (p : Policy) : List Tree → Prop
  | [] => True
  | t :: rest => t.Kept p ∧ Tree.AllKept p rest

end

theorem Tree.allOrderly_singleton {p : Policy} {path : List String} {t : Tree}
    (h : t.Orderly p path) : Tree.AllOrderly p path [t] := by
  rw [Tree.AllOrderly, Tree.AllOrderly]
  exact ⟨h, trivial, fun _ u hu => by cases hu⟩

/-- An element that holds a text and nothing else. -/
theorem Tree.orderly_around {p : Policy} {path : List String} {name : String}
    {attributes : List Attribute} {s : List Char} (keeps : p.keepsElement name = true)
    (fits : opensIn path name = true) (holds : Writer.emptyElements.contains name = false)
    (orderly : ∀ a ∈ attributes, a.Orderly) (nodup : (attributes.map Attribute.name).Nodup)
    (some' : s ≠ []) (plain : '\r' ∉ s) (clear : Writer.Clear (Writer.writtenText s)) :
    Tree.Orderly p path (.element name .page attributes [.text s]) := by
  rw [Tree.Orderly]
  refine ⟨⟨rfl, keeps, fits⟩, ⟨orderly, nodup⟩, fun empty => ?_, Tree.allOrderly_singleton ?_⟩
  · rw [holds] at empty
    cases empty
  · rw [Tree.Orderly]
    exact ⟨some', plain, clear⟩

/-! ### What they are written as and read back as -/

def openingMarkup (name : String) (attributes : List Attribute) (s : List Char) : List Char :=
  '<' :: (name.toList ++ ((attributes.map Attribute.quoted).flatMap Quoted.text ++ '>' :: s))

def closingMarkup (name : String) (s : List Char) : List Char :=
  '<' :: '/' :: (name.toList ++ '>' :: s)

mutual

def Tree.markup : Tree → List Char → List Char
  | .text u, s => Writer.writtenText u ++ s
  | .comment, s => s
  | .element name _ attributes children, s =>
    openingMarkup name attributes (if Writer.emptyElements.contains name then s
      else Tree.allMarkup children (closingMarkup name s))

def Tree.allMarkup : List Tree → List Char → List Char
  | [], s => s
  | t :: rest, s => t.markup (Tree.allMarkup rest s)

end

/-- Trees without a line break at their start. -/
def Tree.withoutBreak : List Tree → List Tree
  | .text ('\n' :: s) :: rest => Tree.ofText s ++ rest
  | ts => ts

def Tree.startsWithBreak : List Tree → Bool
  | .text ('\n' :: _) :: _ => true
  | _ => false

mutual

/-- What a tree is read back as. -/
def Tree.reread : Tree → Tree
  | .text s => .text (Writer.writtenText s)
  | .comment => .comment
  | .element name vocabulary attributes children =>
    .element name vocabulary (attributes.map Attribute.reread)
      (if name = "pre" then Tree.withoutBreak (Tree.allReread children)
        else Tree.allReread children)

def Tree.allReread : List Tree → List Tree
  | [] => []
  | t :: rest => t.reread :: Tree.allReread rest

end

mutual

/-- Whether preformatted text begins with a line break somewhere, or an attribute drifts. -/
def Tree.drifts : Tree → Bool
  | .text _ => false
  | .comment => false
  | .element name _ attributes children => attributes.any Attribute.drifts ||
    ((name == "pre" && Tree.startsWithBreak children) || Tree.anyDrifts children)

def Tree.anyDrifts : List Tree → Bool
  | [] => false
  | t :: rest => t.drifts || Tree.anyDrifts rest

end

/-! ### Line breaks at the start -/

theorem Tree.startsWithBreak_iff {ts : List Tree} :
    Tree.startsWithBreak ts = true ↔ ∃ s rest, ts = .text ('\n' :: s) :: rest := by
  constructor
  · intro h
    unfold Tree.startsWithBreak at h
    split at h
    · exact ⟨_, _, rfl⟩
    · cases h
  · rintro ⟨s, rest, rfl⟩
    rfl

theorem Tree.withoutBreak_of_not {ts : List Tree} (h : Tree.startsWithBreak ts = false) :
    Tree.withoutBreak ts = ts := by
  unfold Tree.withoutBreak
  split
  · cases h
  · rfl

theorem Tree.withoutBreak_cons (t : Tree) (rest : List Tree) :
    Tree.withoutBreak (t :: rest) = Tree.withoutBreak [t] ++ rest := by
  cases starts : Tree.startsWithBreak [t] with
  | true =>
    obtain ⟨s, others, e⟩ := Tree.startsWithBreak_iff.1 starts
    obtain ⟨rfl, rfl⟩ := List.cons.inj e
    rw [Tree.withoutBreak, Tree.withoutBreak, List.append_nil]
  | false =>
    have off : Tree.startsWithBreak (t :: rest) = false := by
      refine Bool.eq_false_iff.2 fun on => ?_
      obtain ⟨s, others, e⟩ := Tree.startsWithBreak_iff.1 on
      rw [(List.cons.inj e).1] at starts
      cases starts
    rw [Tree.withoutBreak_of_not starts, Tree.withoutBreak_of_not off]
    rfl

theorem Tree.startsWithBreak_reread (ts : List Tree) :
    Tree.startsWithBreak (Tree.allReread ts) = Tree.startsWithBreak ts := by
  rw [Bool.eq_iff_iff, Tree.startsWithBreak_iff, Tree.startsWithBreak_iff]
  constructor
  · rintro ⟨s, rest, h⟩
    cases ts with
    | nil =>
      rw [Tree.allReread] at h
      cases h
    | cons t ts =>
      rw [Tree.allReread] at h
      obtain ⟨first, -⟩ := List.cons.inj h
      cases t with
      | text u =>
        rw [Tree.reread] at first
        obtain ⟨v, rfl⟩ := Writer.head_writtenText (Tree.text.inj first) (by decide)
        exact ⟨v, ts, rfl⟩
      | comment =>
        rw [Tree.reread] at first
        cases first
      | element name vocabulary attributes children =>
        rw [Tree.reread] at first
        cases first
  · rintro ⟨s, rest, rfl⟩
    refine ⟨Writer.writtenText s, Tree.allReread rest, ?_⟩
    rw [Tree.allReread, Tree.reread, Writer.writtenText_space_cons (by decide)]

/-- Where no line break is lost at the start, the children are those that are read back. -/
theorem Tree.withoutBreak_reread {name : String} {children : List Tree}
    (h : (name == "pre" && Tree.startsWithBreak children) = false) :
    (if name = "pre" then Tree.withoutBreak (Tree.allReread children)
      else Tree.allReread children) = Tree.allReread children := by
  split
  · rename_i pre
    rw [pre] at h
    refine Tree.withoutBreak_of_not ?_
    rw [Tree.startsWithBreak_reread]
    exact h
  · rfl

theorem Tree.allMarkup_ofText (u : List Char) (ts : List Tree) (s : List Char) :
    Tree.allMarkup (Tree.ofText u ++ ts) s = Writer.writtenText u ++ Tree.allMarkup ts s := by
  cases u with
  | nil => rfl
  | cons c u =>
    have text : Tree.ofText (c :: u) = [.text (c :: u)] := rfl
    rw [text, List.cons_append, Tree.allMarkup, Tree.markup]
    rfl

theorem Tree.allMarkup_startsWithBreak {ts : List Tree} (h : Tree.startsWithBreak ts = true)
    (s : List Char) : Tree.allMarkup ts s = '\n' :: Tree.allMarkup (Tree.withoutBreak ts) s := by
  obtain ⟨u, rest, rfl⟩ := Tree.startsWithBreak_iff.1 h
  rw [Tree.withoutBreak, Tree.allMarkup_ofText, Tree.allMarkup, Tree.markup,
    Writer.writtenText_space_cons (by decide)]
  rfl

/-! ### What drifts -/

/-- Semicolons less line breaks: escaping brings in the former, and preformatted text loses the latter. -/
def balance : List Char → Int
  | [] => 0
  | c :: s => (if c = ';' then 1 else if c = '\n' then -1 else 0) + balance s

theorem balance_append (s t : List Char) : balance (s ++ t) = balance s + balance t := by
  induction s with
  | nil => exact (Int.zero_add _).symm
  | cons c s ih => rw [List.cons_append, balance, ih, balance, Int.add_assoc]

theorem balance_cons (c : Char) (s : List Char) : balance (c :: s) = balance [c] + balance s :=
  balance_append [c] s

theorem toNat_or_le (x y : Bool) : (x || y).toNat ≤ x.toNat + y.toNat := by
  cases x <;> cases y <;> decide

/-- Escaping adds a semicolon for each ampersand and opening bracket. -/
theorem balance_escapeValue (s : List Char) :
    balance s + (s.any fun c => c = '&' || c = '<').toNat ≤ balance (Writer.escapeValue s) := by
  induction s with
  | nil => decide
  | cons c s ih =>
    have first : balance [c] + (decide (c = '&') || decide (c = '<')).toNat ≤
        balance (if c = '&' then "&amp;".toList else if c = '<' then "&lt;".toList else [c]) := by
      by_cases amp : c = '&'
      · subst amp
        decide
      · by_cases bracket : c = '<'
        · subst bracket
          decide
        · simp [amp, bracket]
    have sum := toNat_or_le (decide (c = '&') || decide (c = '<')) (s.any fun c => c = '&' || c = '<')
    rw [Writer.escapeValue_cons, balance_append, balance_cons, List.any_cons]
    omega

theorem Attribute.balance_reread (a : Attribute) :
    balance a.quoted.text + a.drifts.toNat ≤ balance a.reread.quoted.text := by
  cases drifts : a.drifts with
  | false =>
    rw [Attribute.quoted_reread drifts, Bool.toNat_false]
    omega
  | true =>
    obtain ⟨single, special⟩ := Bool.and_eq_true_iff.1 drifts
    have again : a.reread.written = Writer.escapeValue a.written :=
      Attribute.written_of_single ((Attribute.single_reread a).trans single)
    have more : (a.written.any fun c => c = '&' || c = '<') = true := by
      rw [Attribute.written_of_single single]
      exact Writer.any_escapeValue special
    have grown := balance_escapeValue a.written
    rw [more, ← again] at grown
    have text : ∀ q : Quoted, balance q.text =
        balance (' ' :: q.name) + balance ['=', q.quote] + balance q.value + balance [q.quote] := by
      intro q
      rw [← balance_append, ← balance_append, ← balance_append]
      simp [Quoted.text]
    have name : a.reread.quoted.name = a.quoted.name := rfl
    have quote : a.reread.quoted.quote = a.quoted.quote := by
      rw [Attribute.quoted, Attribute.quoted, Attribute.single_reread]
    have value : a.reread.quoted.value = a.reread.written := rfl
    have value' : a.quoted.value = a.written := rfl
    rw [text, text, name, quote, value, value']
    omega

theorem balance_attributes (as : List Attribute) :
    balance ((as.map Attribute.quoted).flatMap Quoted.text) + (as.any Attribute.drifts).toNat ≤
      balance (((as.map Attribute.reread).map Attribute.quoted).flatMap Quoted.text) := by
  induction as with
  | nil => decide
  | cons a as ih =>
    have first := a.balance_reread
    have sum := toNat_or_le a.drifts (as.any Attribute.drifts)
    rw [List.map_cons, List.map_cons, List.map_cons, List.flatMap_cons, List.flatMap_cons,
      balance_append, balance_append, List.any_cons]
    omega

theorem balance_opening (name : String) (as : List Attribute) (s s' : List Char) :
    balance (openingMarkup name as s) + balance s' + (as.any Attribute.drifts).toNat ≤
      balance (openingMarkup name (as.map Attribute.reread) s') + balance s := by
  have inner := balance_attributes as
  have layout : ∀ (as : List Attribute) (s : List Char), balance (openingMarkup name as s) =
      balance ['<'] + balance name.toList +
        balance ((as.map Attribute.quoted).flatMap Quoted.text) + balance ['>'] + balance s := by
    intro as s
    rw [openingMarkup, balance_cons, balance_append, balance_append, balance_cons '>' s]
    omega
  rw [layout, layout]
  omega

theorem balance_closing (name : String) (s s' : List Char) :
    balance (closingMarkup name s) + balance s' = balance (closingMarkup name s') + balance s := by
  have layout : ∀ s : List Char, balance (closingMarkup name s) =
      balance ['<'] + balance ['/'] + balance name.toList + balance ['>'] + balance s := by
    intro s
    rw [closingMarkup, balance_cons, balance_cons '/', balance_append, balance_cons '>' s]
    omega
  rw [layout, layout]
  omega

mutual

/-- Rereading adds to the balance of markup where something drifts. -/
theorem Tree.balance_reread {p : Policy} : ∀ (t : Tree) {path : List String}, t.Orderly p path →
    ∀ s s' : List Char, balance (t.markup s) + balance s' + t.drifts.toNat ≤
      balance (t.reread.markup s') + balance s
  | .text u, _, _, s, s' => by
    rw [Tree.reread, Tree.markup, Tree.markup, Writer.writtenText_writtenText, Tree.drifts,
      balance_append, balance_append, Bool.toNat_false]
    omega
  | .comment, _, _, s, s' => by
    rw [Tree.reread, Tree.markup, Tree.markup, Tree.drifts, Bool.toNat_false]
    omega
  | .element name vocabulary attributes children, path, ht, s, s' => by
    rw [Tree.Orderly] at ht
    obtain ⟨-, -, void, inside⟩ := ht
    have sum := toNat_or_le (attributes.any Attribute.drifts)
      ((name == "pre" && Tree.startsWithBreak children) || Tree.anyDrifts children)
    rw [Tree.reread, Tree.markup, Tree.markup, Tree.drifts]
    cases empty : Writer.emptyElements.contains name with
    | true =>
      have opening := balance_opening name attributes s s'
      have none' : ((name == "pre" && Tree.startsWithBreak children) || Tree.anyDrifts children) =
          false := by
        rw [void empty, Tree.anyDrifts, Bool.or_false]
        exact Bool.and_false _
      rw [if_pos rfl, if_pos rfl, none', Bool.or_false]
      exact opening
    | false =>
      have inner := Tree.balance_allReread children inside (closingMarkup name s)
        (closingMarkup name s')
      have closing := balance_closing name s s'
      rw [if_neg Bool.false_ne_true, if_neg Bool.false_ne_true]
      cases loss : name == "pre" && Tree.startsWithBreak children with
      | true =>
        obtain ⟨pre, starts⟩ := Bool.and_eq_true_iff.1 loss
        have lost : balance ['\n'] = -1 := by decide
        rw [← Tree.startsWithBreak_reread] at starts
        rw [Tree.allMarkup_startsWithBreak starts, balance_cons, lost] at inner
        have opening := balance_opening name attributes
          (Tree.allMarkup children (closingMarkup name s))
          (Tree.allMarkup (Tree.withoutBreak (Tree.allReread children)) (closingMarkup name s'))
        rw [loss, Bool.true_or, Bool.toNat_true] at sum
        rw [if_pos (beq_iff_eq.1 pre), Bool.true_or]
        omega
      | false =>
        have opening := balance_opening name attributes
          (Tree.allMarkup children (closingMarkup name s))
          (Tree.allMarkup (Tree.allReread children) (closingMarkup name s'))
        rw [loss, Bool.false_or] at sum
        rw [Tree.withoutBreak_reread loss, Bool.false_or]
        omega

theorem Tree.balance_allReread {p : Policy} : ∀ (ts : List Tree) {path : List String},
    Tree.AllOrderly p path ts → ∀ s s' : List Char,
      balance (Tree.allMarkup ts s) + balance s' + (Tree.anyDrifts ts).toNat ≤
        balance (Tree.allMarkup (Tree.allReread ts) s') + balance s
  | [], _, _, s, s' => by
    rw [Tree.allReread, Tree.allMarkup, Tree.allMarkup, Tree.anyDrifts, Bool.toNat_false]
    omega
  | t :: rest, _, ht, s, s' => by
    rw [Tree.AllOrderly] at ht
    have first := Tree.balance_reread t ht.1 (Tree.allMarkup rest s)
      (Tree.allMarkup (Tree.allReread rest) s')
    have others := Tree.balance_allReread rest ht.2.1 s s'
    have sum := toNat_or_le t.drifts (Tree.anyDrifts rest)
    rw [Tree.allReread, Tree.allMarkup, Tree.allMarkup, Tree.anyDrifts]
    omega

end

theorem openingMarkup_reread {name : String} {as : List Attribute}
    (h : as.any Attribute.drifts = false) (s : List Char) :
    openingMarkup name (as.map Attribute.reread) s = openingMarkup name as s := by
  have same : (as.map Attribute.reread).map Attribute.quoted = as.map Attribute.quoted := by
    rw [List.map_map]
    refine List.map_congr_left fun a ha => Attribute.quoted_reread ?_
    exact Bool.eq_false_iff.2 (List.any_eq_false.1 h a ha)
  rw [openingMarkup, openingMarkup, same]

mutual

/-- Where nothing drifts, rereading leaves the markup as it is. -/
theorem Tree.markup_reread : ∀ (t : Tree) (s : List Char), t.drifts = false →
    t.reread.markup s = t.markup s
  | .text u, s, _ => by
    rw [Tree.reread, Tree.markup, Tree.markup, Writer.writtenText_writtenText]
  | .comment, s, _ => rfl
  | .element name vocabulary attributes children, s, h => by
    rw [Tree.drifts, Bool.or_eq_false_iff, Bool.or_eq_false_iff] at h
    obtain ⟨settled, kept, inner⟩ := h
    rw [Tree.reread, Tree.withoutBreak_reread kept, Tree.markup, Tree.markup,
      openingMarkup_reread settled, Tree.allMarkup_reread children _ inner]

theorem Tree.allMarkup_reread : ∀ (ts : List Tree) (s : List Char), Tree.anyDrifts ts = false →
    Tree.allMarkup (Tree.allReread ts) s = Tree.allMarkup ts s
  | [], s, _ => rfl
  | t :: rest, s, h => by
    rw [Tree.anyDrifts, Bool.or_eq_false_iff] at h
    rw [Tree.allReread, Tree.allMarkup, Tree.allMarkup, Tree.markup_reread t _ h.1,
      Tree.allMarkup_reread rest s h.2]

end

end PageSkins.Markup
