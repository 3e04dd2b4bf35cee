import Mathlib.Data.List.Basic
import PageSkins.Markup.Policy
import PageSkins.Proofs.Markup.AttributeNames
import PageSkins.Proofs.Markup.Lexemes

/-!
# Markup of kept elements

`Reduced` describes texts made of plain characters and of tags of kept elements
with quoted attributes of some kind. It says nothing about how tags pair up.
Read from its start, such a text yields no lexeme but characters and kept tags,
with attributes of that kind: no comment, no declaration, no tag cut off.
-/

namespace PageSkins.Markup

/-- An attribute as it is written: a name, and a value between quotes of one kind. -/
structure Quoted where
  name : List Char
  quote : Char
  value : List Char

namespace Quoted

def text (a : Quoted) : List Char := ' ' :: (a.name ++ '=' :: a.quote :: (a.value ++ [a.quote]))

/-- The name ends at the equals sign and the value at its second quote. -/
structure Readable (a : Quoted) : Prop where
  named : a.name ≠ []
  tight : ∀ c ∈ a.name, isNameChar c = true
  quoted : a.quote = '"' ∨ a.quote = '\''
  closed : a.quote ∉ a.value

def Kept (p : Policy) (a : Quoted) : Prop := p.keepsAttribute (String.ofList a.name) = true

/-- The attribute that is read: its name is in small letters. -/
def read (a : Quoted) : Attribute :=
  ⟨String.ofList (a.name.map Char.toLower), a.value.map visible⟩

end Quoted

/-- Plain characters and tags of kept elements, with attributes that have a property. -/
inductive Reduced (p : Policy) (Q : Quoted → Prop) : List Char → Prop
  | nil : Reduced p Q []
  | char {c : Char} {s : List Char} (plain : c ≠ '<') (rest : Reduced p Q s) :
      Reduced p Q (c :: s)
  | opening {name : String} {attributes : List Quoted} {s : List Char}
      (kept : p.keepsElement name = true) (known : ∀ a ∈ attributes, a.Readable ∧ Q a)
      (rest : Reduced p Q s) :
      Reduced p Q ('<' :: (name.toList ++ (attributes.flatMap Quoted.text ++ '>' :: s)))
  | closing {name : String} {s : List Char} (kept : p.keepsElement name = true)
      (rest : Reduced p Q s) : Reduced p Q ('<' :: '/' :: (name.toList ++ '>' :: s))

/-- What a lexeme of reduced markup may be. -/
def Lexeme.Kept (p : Policy) : Lexeme → Prop
  | .space _ | .chars _ | .zero => True
  | .tag t _ => p.keepsElement t.name = true ∧ ∀ a ∈ t.attributes, p.keepsAttribute a.name = true
  | _ => False

/-- A lexeme of reduced markup: characters, or a tag whose attributes were written with the property. -/
def Lexeme.Made (p : Policy) (Q : Quoted → Prop) : Lexeme → Prop
  | .space _ | .chars _ | .zero => True
  | .tag t _ => p.keepsElement t.name = true ∧ ∀ x ∈ t.attributes, ∃ a : Quoted, Q a ∧ x = a.read
  | _ => False

/-! ### Names of elements -/

/-- A character that goes on with the name of an element and stays as it is. -/
def isTagChar (c : Char) : Bool :=
  !isSpace c && c != '/' && c != '>' && c != '\x00' && c.toLower == c

def continuesName (c : Char) : Bool := !isSpace c && c != '/' && c != '>' && c != '\x00'

/-- A letter first, and nothing that ends the name. -/
def TagWord (name : List Char) : Prop :=
  ∃ c r, name = c :: r ∧ isLetter c = true ∧ ∀ d ∈ c :: r, continuesName d = true

/-- A letter first, and nothing that ends or changes the name. -/
def TagName (name : List Char) : Prop :=
  ∃ c r, name = c :: r ∧ isLetter c = true ∧ ∀ d ∈ c :: r, isTagChar d = true

theorem mem_of_keepsElement {p : Policy} {name : String} (h : p.keepsElement name = true) :
    name ∈ contentElements ++ formElements := by
  simp only [Policy.keepsElement, Bool.or_eq_true, Bool.and_eq_true, List.contains_iff_mem] at h
  rcases h with content | ⟨-, form⟩
  · exact List.mem_append_left _ content
  · exact List.mem_append_right _ form

theorem tagName_of_kept {p : Policy} {name : String} (h : p.keepsElement name = true) :
    TagName name.toList := by
  have known : ∀ n ∈ contentElements ++ formElements,
      n.toList.head?.any isLetter = true ∧ n.toList.all isTagChar = true := by decide
  obtain ⟨first, all⟩ := known name (mem_of_keepsElement h)
  cases hn : name.toList with
  | nil =>
    rw [hn] at first
    cases first
  | cons c r =>
    rw [hn] at first all
    exact ⟨c, r, rfl, first, List.all_eq_true.1 all⟩

theorem isTagChar_iff {c : Char} : isTagChar c = true ↔ continuesName c = true ∧ c.toLower = c := by
  simp only [isTagChar, continuesName, Bool.and_eq_true, beq_iff_eq]

/-- The name of a kept element is a word, in small letters. -/
theorem TagName.word {name : List Char} (h : TagName name) :
    TagWord name ∧ name.map Char.toLower = name := by
  obtain ⟨c, r, rfl, letter, small⟩ := h
  have each : ∀ d ∈ c :: r, d.toLower = d := fun d hd => (isTagChar_iff.1 (small d hd)).2
  exact ⟨⟨c, r, rfl, letter, fun d hd => (isTagChar_iff.1 (small d hd)).1⟩,
    (List.map_congr_left each).trans (List.map_id' _)⟩

/-! ### Reading a tag -/

theorem visible_of_ne {c : Char} (h : c ≠ '\x00') : visible c = c := if_neg h

theorem scanTag_go {place place' : Place} {d d' : Draft} {c : Char}
    (step : move place d c = .go place' d') (s : List Char) :
    scanTag place d (c :: s) = scanTag place' d' s := by
  rw [scanTag, step]

theorem scanTag_tagName (d : Draft) (r rest : List Char) (h : ∀ c ∈ r, continuesName c = true) :
    scanTag .tagName d (r ++ rest) = scanTag .tagName { d with name := r.reverse ++ d.name } rest := by
  induction r generalizing d with
  | nil => rfl
  | cons c r ih =>
    have hc : continuesName c = true := h c List.mem_cons_self
    simp only [continuesName, Bool.and_eq_true, Bool.not_eq_true', bne_iff_ne] at hc
    obtain ⟨⟨⟨space, solidus⟩, close⟩, zero⟩ := hc
    have step : move .tagName d c = .go .tagName { d with name := c :: d.name } := by
      simp [move, space, solidus, close, zero, Draft.noteZero, visible_of_ne zero]
    rw [List.cons_append, scanTag_go step, ih _ (fun e he => h e (List.mem_cons_of_mem _ he))]
    simp [List.append_assoc]

theorem scanTag_name (d : Draft) (n v name rest : List Char) (more : List (List Char × List Char))
    (hd : d.attributes = (n, v) :: more) (h : ∀ c ∈ name, isNameChar c = true) :
    ∃ f, scanTag .name d (name ++ rest) =
      scanTag .name { d with attributes := (name.reverse ++ n, v) :: more, fault := f } rest := by
  induction name generalizing d n with
  | nil =>
    refine ⟨d.fault, ?_⟩
    rw [List.nil_append, List.reverse_nil, List.nil_append, ← hd]
  | cons c name ih =>
    have hc : isNameChar c = true := h c List.mem_cons_self
    simp only [isNameChar, Bool.and_eq_true, Bool.not_eq_true', bne_iff_ne] at hc
    obtain ⟨⟨⟨⟨space, solidus⟩, close⟩, eq⟩, zero⟩ := hc
    obtain ⟨f, step⟩ : ∃ f, move .name d c =
        .go .name { d with attributes := (c :: n, v) :: more, fault := f } := by
      by_cases quote : c = '\'' ∨ c = '"' ∨ c = '<'
      · refine ⟨some .badName, ?_⟩
        simp [move, inName, space, solidus, close, eq, quote, Draft.pushName, Draft.note, hd,
          visible_of_ne zero]
      · refine ⟨d.fault, ?_⟩
        simp [move, inName, space, solidus, close, eq, zero, quote, Draft.pushName, Draft.noteZero, hd,
          visible_of_ne zero]
    obtain ⟨g, later⟩ := ih { d with attributes := (c :: n, v) :: more, fault := f } (c :: n) rfl
      (fun e he => h e (List.mem_cons_of_mem _ he))
    refine ⟨g, ?_⟩
    rw [List.cons_append, scanTag_go step, later]
    simp [List.append_assoc]

/-- Between quotes nothing but the quote is looked for. -/
theorem scanTag_value (d : Draft) (q : Char) (place : Place)
    (hq : (q = '"' ∧ place = .doubleQuoted) ∨ (q = '\'' ∧ place = .singleQuoted))
    (n v value rest : List Char) (more : List (List Char × List Char))
    (hd : d.attributes = (n, v) :: more) (h : q ∉ value) :
    ∃ f, scanTag place d (value ++ q :: rest) = scanTag .afterValue
      { d with attributes := (n, (value.map visible).reverse ++ v) :: more, fault := f } rest := by
  induction value generalizing d v with
  | nil =>
    refine ⟨d.fault, ?_⟩
    have same : (([] : List Char).map visible).reverse ++ v = v := rfl
    rw [same, ← hd]
    rcases hq with ⟨rfl, rfl⟩ | ⟨rfl, rfl⟩
    · simp [scanTag, move]
    · simp [scanTag, move]
  | cons c value ih =>
    have hc : c ≠ q := fun same => h (same ▸ List.mem_cons_self)
    obtain ⟨f, push⟩ : ∃ f, (d.noteZero c).pushValue c =
        { d with attributes := (n, visible c :: v) :: more, fault := f } := by
      by_cases zero : c = '\x00'
      · exact ⟨some .other, by simp [Draft.noteZero, zero, Draft.pushValue, Draft.note, hd]⟩
      · exact ⟨d.fault, by simp [Draft.noteZero, zero, Draft.pushValue, hd]⟩
    have step : move place d c =
        .go place { d with attributes := (n, visible c :: v) :: more, fault := f } := by
      rcases hq with ⟨rfl, rfl⟩ | ⟨rfl, rfl⟩
      · simp [move, hc, push]
      · simp [move, hc, push]
    obtain ⟨g, later⟩ := ih { d with attributes := (n, visible c :: v) :: more, fault := f }
      (visible c :: v) rfl (fun hm => h (List.mem_cons_of_mem _ hm))
    refine ⟨g, ?_⟩
    rw [List.cons_append, scanTag_go step, later]
    simp [List.append_assoc]

theorem beforeName_nameChar (d : Draft) {c : Char} (h : isNameChar c = true) :
    ∃ f, beforeName d c = .go .name { d with attributes := ([c], []) :: d.attributes, fault := f } := by
  simp only [isNameChar, Bool.and_eq_true, Bool.not_eq_true', bne_iff_ne] at h
  obtain ⟨⟨⟨⟨space, solidus⟩, close⟩, eq⟩, zero⟩ := h
  by_cases quote : c = '\'' ∨ c = '"' ∨ c = '<'
  · refine ⟨some .badName, ?_⟩
    simp [beforeName, space, solidus, close, eq, quote, Draft.addAttribute, Draft.note,
      visible_of_ne zero]
  · refine ⟨d.fault, ?_⟩
    simp [beforeName, space, solidus, close, eq, zero, quote, Draft.addAttribute, Draft.noteZero,
      visible_of_ne zero]

theorem endName_cons (d : Draft) (n v : List Char) (more : List (List Char × List Char)) :
    ∃ f, ({ d with attributes := (n, v) :: more } : Draft).endName =
      { d with attributes := (n.map Char.toLower, v) :: more, fault := f } := by
  by_cases again : more.any (·.1 == n.map Char.toLower) = true
  · exact ⟨some .other, by simp only [Draft.endName, if_pos again, Draft.note]⟩
  · exact ⟨d.fault, by simp only [Draft.endName, if_neg again]⟩

/-- The name of an attribute is read to its equals sign, and put in small letters there. -/
theorem scanTag_toEquals {name : List Char} (named : name ≠ [])
    (tight : ∀ c ∈ name, isNameChar c = true) {place : Place}
    (hp : place = .tagName ∨ place = .afterValue) (d : Draft) (rest : List Char) :
    ∃ f, scanTag place d (' ' :: (name ++ '=' :: rest)) = scanTag .beforeValue
      { d with attributes := ((name.map Char.toLower).reverse, []) :: d.attributes, fault := f } rest := by
  obtain ⟨c, r, rfl⟩ := List.exists_cons_of_ne_nil named
  have space : move place d ' ' = .go .beforeName d := by
    rcases hp with rfl | rfl
    · simp [move, isSpace]
    · simp [move, isSpace]
  have ends : ∀ d' : Draft, move .name d' '=' = .go .beforeValue d'.endName := by
    intro d'
    simp [move, inName]
  obtain ⟨f₁, start⟩ := beforeName_nameChar d (tight c List.mem_cons_self)
  obtain ⟨f₂, inner⟩ := scanTag_name { d with attributes := ([c], []) :: d.attributes, fault := f₁ }
    [c] [] r ('=' :: rest) d.attributes rfl (fun e he => tight e (List.mem_cons_of_mem _ he))
  obtain ⟨f₃, ended⟩ := endName_cons { d with fault := f₂ } (r.reverse ++ [c]) [] d.attributes
  have lowered : ((c :: r).map Char.toLower).reverse = (r.reverse ++ [c]).map Char.toLower := by simp
  refine ⟨f₃, ?_⟩
  rw [scanTag_go space, List.cons_append, scanTag_go (show move .beforeName d c = _ from start), inner,
    scanTag_go (ends _), ended, lowered]

/-- A value is read from its opening quote to the closing one. -/
theorem scanTag_fromQuote {q : Char} (quoted : q = '"' ∨ q = '\'') {value : List Char}
    (closed : q ∉ value) (d : Draft) (n : List Char) (more : List (List Char × List Char))
    (rest : List Char) :
    ∃ f, scanTag .beforeValue { d with attributes := (n, []) :: more } (q :: (value ++ q :: rest)) =
      scanTag .afterValue
        { d with attributes := (n, (value.map visible).reverse) :: more, fault := f } rest := by
  obtain ⟨place, inside⟩ : ∃ place : Place,
      (q = '"' ∧ place = .doubleQuoted) ∨ (q = '\'' ∧ place = .singleQuoted) := by
    rcases quoted with double | single
    · exact ⟨.doubleQuoted, Or.inl ⟨double, rfl⟩⟩
    · exact ⟨.singleQuoted, Or.inr ⟨single, rfl⟩⟩
  have opens : ∀ d' : Draft, move .beforeValue d' q = .go place d' := by
    intro d'
    rcases inside with ⟨rfl, rfl⟩ | ⟨rfl, rfl⟩
    · simp [move, beforeValue, isSpace]
    · simp [move, beforeValue, isSpace]
  obtain ⟨f, inner⟩ := scanTag_value { d with attributes := (n, []) :: more } q place inside n [] value
    rest more rfl closed
  refine ⟨f, ?_⟩
  rw [scanTag_go (opens _), inner, List.append_nil]

def Quoted.drafted (a : Quoted) : List Char × List Char :=
  ((a.name.map Char.toLower).reverse, (a.value.map visible).reverse)

/-- A quoted attribute is added to the draft under its name in small letters. -/
theorem scanTag_quoted {a : Quoted} (ha : a.Readable) {place : Place}
    (hp : place = .tagName ∨ place = .afterValue) (d : Draft) (rest : List Char) :
    ∃ f, scanTag place d (a.text ++ rest) =
      scanTag .afterValue { d with attributes := a.drafted :: d.attributes, fault := f } rest := by
  obtain ⟨named, tight, quoted, closed⟩ := ha
  have layout : a.text ++ rest =
      ' ' :: (a.name ++ '=' :: a.quote :: (a.value ++ a.quote :: rest)) := by
    simp [Quoted.text]
  obtain ⟨f, name⟩ := scanTag_toEquals named tight hp d (a.quote :: (a.value ++ a.quote :: rest))
  obtain ⟨g, value⟩ := scanTag_fromQuote quoted closed { d with fault := f }
    (a.name.map Char.toLower).reverse d.attributes rest
  exact ⟨g, by rw [layout, name, value, Quoted.drafted]⟩

/-- Quoted attributes and a closing bracket complete a tag. -/
theorem scanTag_attributes {attributes : List Quoted} (h : ∀ a ∈ attributes, a.Readable)
    {place : Place} (hp : place = .tagName ∨ place = .afterValue) (d : Draft) (rest : List Char) :
    ∃ f, scanTag place d (attributes.flatMap Quoted.text ++ '>' :: rest) =
      (.inl (Draft.finish { d with
        attributes := (attributes.map Quoted.drafted).reverse ++ d.attributes, fault := f } false),
        rest) := by
  induction attributes generalizing place d with
  | nil =>
    refine ⟨d.fault, ?_⟩
    rcases hp with rfl | rfl
    · simp [scanTag, move, isSpace]
    · simp [scanTag, move, isSpace]
  | cons a attributes ih =>
    obtain ⟨f, first⟩ := scanTag_quoted (h a List.mem_cons_self) hp d
      (attributes.flatMap Quoted.text ++ '>' :: rest)
    obtain ⟨g, later⟩ := ih (fun b hb => h b (List.mem_cons_of_mem _ hb)) (Or.inr rfl)
      { d with attributes := a.drafted :: d.attributes, fault := f }
    refine ⟨g, ?_⟩
    rw [List.flatMap_cons, List.append_assoc, first, later]
    simp [List.append_assoc]

theorem mem_of_mem_distinct : ∀ {as : List Attribute} {seen : List String} {a : Attribute},
    a ∈ Draft.distinct as seen → a ∈ as
  | [], _, _, h => by cases h
  | b :: as, seen, a, h => by
    unfold Draft.distinct at h
    split at h
    · exact List.mem_cons_of_mem _ (mem_of_mem_distinct h)
    · rcases List.mem_cons.1 h with rfl | h
      · exact List.mem_cons_self
      · exact List.mem_cons_of_mem _ (mem_of_mem_distinct h)

/-- A tag is read to its closing bracket, with its name and its attributes. -/
theorem scanFrom_tag (mark : List Char) (closing : Bool) {c : Char} {r : List Char}
    (word : ∀ d ∈ c :: r, continuesName d = true) {attributes : List Quoted}
    (h : ∀ a ∈ attributes, a.Readable) (rest : List Char) :
    ∃ bad, scanFrom mark closing c (r ++ (attributes.flatMap Quoted.text ++ '>' :: rest)) =
      (.tag ⟨closing, String.ofList ((c :: r).map Char.toLower),
        Draft.distinct (attributes.map Quoted.read) [], false⟩ bad, rest) := by
  have name := scanTag_tagName ⟨closing, [c], [], none⟩ r
    (attributes.flatMap Quoted.text ++ '>' :: rest) (fun e he => word e (List.mem_cons_of_mem _ he))
  obtain ⟨f, tag⟩ := scanTag_attributes h (Or.inl rfl)
    ⟨closing, r.reverse ++ [c], [], none⟩ rest
  have read : ((attributes.map Quoted.drafted).reverse ++ []).reverse.map
      (fun nv : List Char × List Char =>
        (⟨String.ofList nv.1.reverse, nv.2.reverse⟩ : Attribute)) = attributes.map Quoted.read := by
    simp [Quoted.drafted, Quoted.read, Function.comp_def]
  have named : (r.reverse ++ [c]).reverse = c :: r := by simp
  unfold scanFrom
  rw [name, tag]
  dsimp only [Draft.finish]
  rw [read, named]
  exact ⟨_, rfl⟩

/-! ### Reading reduced markup -/

theorem smallName_lower (n : List Char) :
    smallName (String.ofList (n.map Char.toLower)) = smallName (String.ofList n) := by
  have kelvin : ∀ c : Char, c.toLower = '\u212a' → c = '\u212a' := by
    intro c h
    rcases toLower_eq_or_isLower c with same | lower
    · rw [← same]
      exact h
    · rw [h] at lower
      cases lower
  simp only [smallName, String.toList_ofList, List.flatMap_map]
  congr 1
  refine List.flatMap_congr fun c _ => ?_
  by_cases h : c = '\u212a'
  · subst h
    rfl
  · have h' : c.toLower ≠ '\u212a' := fun e => h (kelvin c e)
    simp only [if_neg h, if_neg h', toLower_toLower]

theorem keepsAttribute_lower (p : Policy) (n : List Char) :
    p.keepsAttribute (String.ofList (n.map Char.toLower)) =
      p.keepsAttribute (String.ofList n) := by
  unfold Policy.keepsAttribute
  rw [smallName_lower]

theorem Reduced.dropWhile {p : Policy} {Q : Quoted → Prop} {f : Char → Bool} (hf : f '<' = false)
    {s : List Char} (h : Reduced p Q s) : Reduced p Q (s.dropWhile f) := by
  induction h with
  | nil => exact Reduced.nil
  | @char c s plain rest ih =>
    by_cases hc : f c = true
    · rw [List.dropWhile_cons_of_pos hc]
      exact ih
    · rw [List.dropWhile_cons_of_neg hc]
      exact Reduced.char plain rest
  | opening kept known rest _ =>
    rw [List.dropWhile_cons_of_neg (by rw [hf]; exact Bool.false_ne_true)]
    exact Reduced.opening kept known rest
  | closing kept rest _ =>
    rw [List.dropWhile_cons_of_neg (by rw [hf]; exact Bool.false_ne_true)]
    exact Reduced.closing kept rest

theorem scanMarkup_letter {c : Char} (h : isLetter c = true) (s : List Char) :
    scanMarkup false (c :: s) = scanFrom ['<'] false c s := by
  have apart : ∀ d, isLetter d = false → c ≠ d := by
    rintro d hd rfl
    rw [h] at hd
    cases hd
  unfold scanMarkup
  split
  case h_7 heq =>
    cases heq
    exact if_pos h
  case h_8 heq => cases heq
  all_goals
    rename_i heq
    exact absurd (List.cons.inj heq).1 (apart _ (by decide))

theorem scanMarkup_closing {c : Char} (h : isLetter c = true) (s : List Char) :
    scanMarkup false ('/' :: c :: s) = scanFrom ['<', '/'] true c s := by
  have close : c ≠ '>' := by
    rintro rfl
    cases h
  unfold scanMarkup
  split
  case h_3 heq => exact absurd (List.cons.inj (List.cons.inj heq).2).1 close
  case h_4 heq =>
    cases heq
    exact if_pos h
  case h_7 heq =>
    rename_i apart _ _
    cases heq
    exact absurd rfl (apart c s rfl)
  all_goals
    rename_i heq
    cases heq

theorem scan_openingTag {name : List Char} (word : TagWord name) {attributes : List Quoted}
    (h : ∀ a ∈ attributes, a.Readable) (s : List Char) :
    ∃ bad, scan false ('<' :: (name ++ (attributes.flatMap Quoted.text ++ '>' :: s))) =
      some (.tag ⟨false, String.ofList (name.map Char.toLower),
        Draft.distinct (attributes.map Quoted.read) [], false⟩ bad, s) := by
  obtain ⟨c, r, rfl, letter, word⟩ := word
  obtain ⟨bad, tag⟩ := scanFrom_tag ['<'] false word h s
  refine ⟨bad, ?_⟩
  rw [List.cons_append, scan, scanMarkup_letter letter, tag]

theorem scan_closingTag {name : List Char} (word : TagWord name) (s : List Char) :
    ∃ bad, scan false ('<' :: '/' :: (name ++ '>' :: s)) =
      some (.tag ⟨true, String.ofList (name.map Char.toLower), [], false⟩ bad, s) := by
  obtain ⟨c, r, rfl, letter, word⟩ := word
  have bare : ∀ a ∈ ([] : List Quoted), a.Readable := fun a ha => (List.not_mem_nil ha).elim
  obtain ⟨bad, tag⟩ := scanFrom_tag ['<', '/'] true word bare s
  refine ⟨bad, ?_⟩
  rw [List.cons_append, scan, scanMarkup_closing letter]
  exact congrArg some tag

theorem scan_opening {p : Policy} {name : String} (kept : p.keepsElement name = true)
    {attributes : List Quoted} (h : ∀ a ∈ attributes, a.Readable) (s : List Char) :
    ∃ bad, scan false ('<' :: (name.toList ++ (attributes.flatMap Quoted.text ++ '>' :: s))) =
      some (.tag ⟨false, name, Draft.distinct (attributes.map Quoted.read) [], false⟩ bad, s) := by
  obtain ⟨word, small⟩ := (tagName_of_kept kept).word
  obtain ⟨bad, tag⟩ := scan_openingTag word h s
  rw [small, String.ofList_toList] at tag
  exact ⟨bad, tag⟩

theorem scan_closing {p : Policy} {name : String} (kept : p.keepsElement name = true)
    (s : List Char) :
    ∃ bad, scan false ('<' :: '/' :: (name.toList ++ '>' :: s)) =
      some (.tag ⟨true, name, [], false⟩ bad, s) := by
  obtain ⟨word, small⟩ := (tagName_of_kept kept).word
  obtain ⟨bad, tag⟩ := scan_closingTag word s
  rw [small, String.ofList_toList] at tag
  exact ⟨bad, tag⟩

/-- The lexeme at the start of reduced markup is one of its own, and what follows is reduced markup. -/
theorem scan_reduced {p : Policy} {Q : Quoted → Prop} (s : List Char) (l : Lexeme)
    (rest : List Char) (h : Reduced p Q s) (hs : scan false s = some (l, rest)) :
    l.Made p Q ∧ Reduced p Q rest := by
  cases h with
  | nil => cases hs
  | @char c s plain more =>
    unfold scan at hs
    split at hs
    · cases hs
    · rename_i heq
      cases heq
      exact absurd rfl plain
    · rename_i heq
      cases heq
      cases hs
      exact ⟨trivial, more⟩
    · rename_i heq
      cases heq
      cases hs
      exact ⟨trivial, more⟩
    · rename_i heq
      cases heq
      split at hs
      · cases hs
        exact ⟨trivial, more.dropWhile (by decide)⟩
      · cases hs
        exact ⟨trivial, more.dropWhile (by decide)⟩
  | @opening name attributes s kept known more =>
    obtain ⟨bad, start⟩ := scan_opening kept (fun a ha => (known a ha).1) s
    rw [start] at hs
    cases hs
    refine ⟨⟨kept, ?_⟩, more⟩
    intro x hx
    obtain ⟨a, ha, rfl⟩ := List.mem_map.1 (mem_of_mem_distinct hx)
    exact ⟨a, (known a ha).2, rfl⟩
  | @closing name s kept more =>
    obtain ⟨bad, start⟩ := scan_closing kept s
    rw [start] at hs
    cases hs
    exact ⟨⟨kept, fun x hx => (List.not_mem_nil hx).elim⟩, more⟩

/-! ### Line breaks -/

theorem normalizeBreaks_cons {c : Char} (h : c ≠ '\r') (s : List Char) :
    normalizeBreaks (c :: s) = c :: normalizeBreaks s := by
  rw [normalizeBreaks]
  · rintro s' rfl
    exact absurd rfl h
  · rintro rfl
    exact absurd rfl h

theorem normalizeBreaks_append {s : List Char} (h : '\r' ∉ s) (t : List Char) :
    normalizeBreaks (s ++ t) = s ++ normalizeBreaks t := by
  induction s with
  | nil => rfl
  | cons c s ih =>
    have hc : c ≠ '\r' := fun e => h (e ▸ List.mem_cons_self)
    rw [List.cons_append, normalizeBreaks_cons hc, ih (fun hm => h (List.mem_cons_of_mem _ hm))]
    rfl

theorem mem_normalizeBreaks {s : List Char} {c : Char} (h : c ∈ normalizeBreaks s) :
    c ∈ s ∨ c = '\n' := by
  induction s using normalizeBreaks.induct with
  | case1 s ih =>
    rw [normalizeBreaks] at h
    rcases List.mem_cons.1 h with feed | h
    · exact Or.inr feed
    · exact (ih h).imp_left fun old => List.mem_cons_of_mem _ (List.mem_cons_of_mem _ old)
  | case2 s apart ih =>
    rw [normalizeBreaks] at h
    · rcases List.mem_cons.1 h with feed | h
      · exact Or.inr feed
      · exact (ih h).imp_left (List.mem_cons_of_mem _)
    · exact apart
  | case3 c s _ single ih =>
    rw [normalizeBreaks_cons fun e => single e] at h
    rcases List.mem_cons.1 h with rfl | h
    · exact Or.inl List.mem_cons_self
    · exact (ih h).imp_left (List.mem_cons_of_mem _)
  | case4 => cases h

/-- The quote that closes a value keeps its line breaks from those that follow. -/
theorem normalizeBreaks_value {q : Char} (hq : q ≠ '\n') (hq' : q ≠ '\r') (value rest : List Char) :
    normalizeBreaks (value ++ q :: rest) = normalizeBreaks value ++ q :: normalizeBreaks rest := by
  induction value using normalizeBreaks.induct with
  | case1 s ih => simp [normalizeBreaks, ih]
  | case2 s apart ih =>
    rw [List.cons_append, normalizeBreaks, ih, normalizeBreaks]
    · rfl
    · exact apart
    · intro s' hs
      cases s with
      | nil => exact hq (List.cons.inj hs).1
      | cons d s => exact apart s (by rw [(List.cons.inj hs).1])
  | case3 c s _ single ih =>
    rw [List.cons_append, normalizeBreaks_cons (fun e => single e), ih,
      normalizeBreaks_cons (fun e => single e)]
    rfl
  | case4 => exact normalizeBreaks_cons hq' rest

theorem return_notMem {f : Char → Bool} (hf : f '\r' = false) {s : List Char}
    (h : ∀ c ∈ s, f c = true) : '\r' ∉ s := by
  intro hm
  have := h _ hm
  rw [hf] at this
  cases this

/-- The attribute with uniform line breaks in its value. -/
def Quoted.uniform (a : Quoted) : Quoted := { a with value := normalizeBreaks a.value }

theorem normalizeBreaks_quotedText {a : Quoted} (ha : a.Readable) (rest : List Char) :
    a.uniform.Readable ∧
      normalizeBreaks (a.text ++ rest) = a.uniform.text ++ normalizeBreaks rest := by
  obtain ⟨named, tight, quoted, closed⟩ := ha
  have feed : a.quote ≠ '\n' := by
    rcases quoted with h | h
    · rw [h]
      decide
    · rw [h]
      decide
  have ret : a.quote ≠ '\r' := by
    rcases quoted with h | h
    · rw [h]
      decide
    · rw [h]
      decide
  refine ⟨⟨named, tight, quoted, fun hm => ?_⟩, ?_⟩
  · rcases mem_normalizeBreaks hm with old | same
    · exact closed old
    · exact feed same
  · have plain : '\r' ∉ ' ' :: a.name ++ ['=', a.quote] := by
      intro hm
      simp only [List.cons_append, List.mem_cons, List.mem_append, List.not_mem_nil, or_false] at hm
      rcases hm with h | h | h | h
      · cases h
      · exact return_notMem (by decide) tight h
      · cases h
      · exact ret h.symm
    have layout : ∀ (b : Quoted) (t : List Char), b.text ++ t =
        (' ' :: b.name ++ ['=', b.quote]) ++ (b.value ++ b.quote :: t) := by
      intro b t
      simp [Quoted.text]
    rw [layout, normalizeBreaks_append plain, normalizeBreaks_value feed ret, layout]
    rfl

theorem normalizeBreaks_attributes {attributes : List Quoted} (h : ∀ a ∈ attributes, a.Readable)
    (rest : List Char) : normalizeBreaks (attributes.flatMap Quoted.text ++ rest) =
      (attributes.map Quoted.uniform).flatMap Quoted.text ++ normalizeBreaks rest := by
  induction attributes with
  | nil => rfl
  | cons a attributes ih =>
    rw [List.flatMap_cons, List.append_assoc, (normalizeBreaks_quotedText (h a List.mem_cons_self) _).2,
      ih fun b hb => h b (List.mem_cons_of_mem _ hb), List.map_cons, List.flatMap_cons,
      List.append_assoc]

/-- A property of attributes that uniform line breaks leave alone stays with the markup. -/
theorem Reduced.normalizeBreaks {p : Policy} {Q : Quoted → Prop} (stable : ∀ a, Q a → Q a.uniform)
    {s : List Char} (h : Reduced p Q s) : Reduced p Q (normalizeBreaks s) := by
  induction h with
  | nil => exact Reduced.nil
  | @char c s plain rest ih =>
    by_cases ret : c = '\r'
    · subst ret
      cases s with
      | nil => exact Reduced.char (by decide) Reduced.nil
      | cons d s =>
        by_cases feed : d = '\n'
        · subst feed
          exact ih
        · have alone : Markup.normalizeBreaks ('\r' :: d :: s) =
              '\n' :: Markup.normalizeBreaks (d :: s) := by
            rw [Markup.normalizeBreaks]
            intro s' hs
            exact feed (List.cons.inj hs).1
          rw [alone]
          exact Reduced.char (by decide) ih
    · rw [normalizeBreaks_cons ret]
      exact Reduced.char plain ih
  | @opening name attributes s kept known rest ih =>
    obtain ⟨c, r, hn, -, small⟩ := tagName_of_kept kept
    have plain : '\r' ∉ name.toList := by
      rw [hn]
      exact return_notMem (by decide) small
    rw [normalizeBreaks_cons (by decide), normalizeBreaks_append plain,
      normalizeBreaks_attributes fun a ha => (known a ha).1, normalizeBreaks_cons (by decide)]
    refine Reduced.opening kept (fun b hb => ?_) ih
    obtain ⟨a, ha, rfl⟩ := List.mem_map.1 hb
    exact ⟨(normalizeBreaks_quotedText (known a ha).1 []).1, stable a (known a ha).2⟩
  | @closing name s kept rest ih =>
    obtain ⟨c, r, hn, -, small⟩ := tagName_of_kept kept
    have plain : '\r' ∉ name.toList := by
      rw [hn]
      exact return_notMem (by decide) small
    rw [normalizeBreaks_cons (by decide), normalizeBreaks_cons (by decide),
      normalizeBreaks_append plain, normalizeBreaks_cons (by decide)]
    exact Reduced.closing kept ih

/-- Reduced markup reads as characters and kept tags, with attributes as they were written. -/
theorem lexemes_made {p : Policy} {Q : Quoted → Prop} (stable : ∀ a, Q a → Q a.uniform)
    {s : List Char} (h : Reduced p Q s) : ∀ l ∈ lexemes s, l.Made p Q :=
  forall_lexemesFrom scan_reduced (h.normalizeBreaks stable)

theorem Lexeme.Made.kept {p : Policy} {l : Lexeme} (h : l.Made p (Quoted.Kept p)) : l.Kept p := by
  cases l with
  | tag t bad =>
    refine ⟨h.1, fun x hx => ?_⟩
    obtain ⟨a, ha, rfl⟩ := h.2 x hx
    exact (keepsAttribute_lower p a.name).trans ha
  | _ => exact h

/-- Reduced markup reads as characters and kept tags. -/
theorem lexemes_reduced {p : Policy} {s : List Char} (h : Reduced p (Quoted.Kept p) s) :
    ∀ l ∈ lexemes s, l.Kept p :=
  fun l hl => (lexemes_made (fun _ kept => kept) h l hl).kept

end PageSkins.Markup
