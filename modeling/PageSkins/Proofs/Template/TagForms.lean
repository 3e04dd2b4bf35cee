import PageSkins.Proofs.Lists
import PageSkins.Proofs.Template.Cutting
import PageSkins.Template.Printer
import PageSkins.Text.Blank

/-!
# The forms of a tag

A tag that is known has one form that the printer gives it. That form reads as
the same tag, and it differs from any other form only by blanks.
-/

namespace PageSkins.Template

open PageSkins.Text

/-! ### Blanks -/

def solid (s : List Char) : List Char := s.filter fun c => !isBlank c

theorem solid_append (s t : List Char) : solid (s ++ t) = solid s ++ solid t := List.filter_append s t

theorem solid_dropWhile (s : List Char) : solid (s.dropWhile isBlank) = solid s := by
  induction s with
  | nil => rfl
  | cons c s ih =>
    by_cases blank : isBlank c = true
    · rw [List.dropWhile_cons_of_pos blank, ih]
      simp [solid, blank]
    · rw [List.dropWhile_cons_of_neg blank]

theorem solid_reverse (s : List Char) : solid s.reverse = (solid s).reverse := List.filter_reverse

theorem solid_trim (s : List Char) : solid (trim s) = solid s := by
  rw [trim, trimRight, trimLeft, solid_reverse, solid_dropWhile, solid_reverse, List.reverse_reverse,
    solid_dropWhile]

/-- No character of a name is blank. -/
theorem not_isBlank_of_isWord {c : Char} (h : isWord c = true) : ¬ isBlank c = true := by
  intro blank
  have known : ∀ r ∈ blankRanges, ∀ n ∈ List.range' r.1 (r.2 + 1 - r.1),
      wordRanges.has n = false := by decide +kernel
  obtain ⟨r, hr, low, high⟩ := Ranges.exists_of_has blank
  have apart := known r hr c.toNat (List.mem_range'_1.2 ⟨low, by omega⟩)
  rw [isWord, apart] at h
  cases h

theorem isInner_of_isWord {c : Char} (h : isWord c = true) : isInner c = true := by
  have apart : ∀ d : Char, isWord d = false → c ≠ d := by
    rintro d hd rfl
    rw [h] at hd
    cases hd
  simp [isInner, apart _ isWord_brace.1, apart _ isWord_brace.2]

/-- Text that neither starts nor ends with a blank. -/
theorem trim_of_ends {s : List Char} (first : ∀ c ∈ s.head?, ¬ isBlank c = true)
    (last : ∀ c ∈ s.getLast?, ¬ isBlank c = true) : trim s = s := by
  have keep : ∀ {t : List Char}, (∀ c ∈ t.head?, ¬ isBlank c = true) → t.dropWhile isBlank = t := by
    intro t ht
    cases t with
    | nil => rfl
    | cons c t => exact List.dropWhile_cons_of_neg (ht c rfl)
  rw [trim, trimRight, trimLeft, keep first, keep (by rwa [List.head?_reverse]),
    List.reverse_reverse]

/-! ### Names -/

theorem isName_iff {s : List Char} : isName s = true ↔ s ≠ [] ∧ ∀ c ∈ s, isWord c = true := by
  simp [isName]

/-- A name is taken whole where words are looked for. -/
theorem takeWhile_isWord {s : List Char} (h : ∀ c ∈ s, isWord c = true) :
    s.takeWhile isWord = s ∧ s.dropWhile isWord = [] :=
  ⟨List.takeWhile_eq_self_iff.2 h, List.dropWhile_eq_nil_iff.2 h⟩

theorem dropWhile_isBlank_name {s : List Char} (h : isName s = true) : s.dropWhile isBlank = s := by
  obtain ⟨some', word⟩ := isName_iff.1 h
  cases s with
  | nil => exact absurd rfl some'
  | cons c s => exact List.dropWhile_cons_of_neg (not_isBlank_of_isWord (word c List.mem_cons_self))

theorem getLast?_name {s : List Char} (h : isName s = true) (t : List Char) :
    ∀ c ∈ (t ++ s).getLast?, ¬ isBlank c = true := by
  obtain ⟨some', word⟩ := isName_iff.1 h
  intro c hc
  rw [List.getLast?_append, List.getLast?_eq_some_getLast some'] at hc
  cases hc
  exact not_isBlank_of_isWord (word _ (List.getLast_mem some'))

/-! ### Reserved words -/

/-- The word that stands for a kind of block in its tags, where the kind has one. -/
def BlockKind.word? : BlockKind → Option (List Char)
  | .cond => some ['i', 'f']
  | .each => some ['e', 'a', 'c', 'h']
  | .section => none

theorem reserved?_eq_some_iff {word : List Char} {kind : BlockKind} :
    reserved? word = some kind ↔ kind.word? = some word := by
  unfold reserved?
  by_cases cond : word = ['i', 'f']
  · subst cond
    cases kind <;> decide
  · by_cases each : word = ['e', 'a', 'c', 'h']
    · subst each
      cases kind <;> decide
    · rw [if_neg cond, if_neg each]
      cases kind <;> simp [BlockKind.word?, Ne.symm cond, Ne.symm each]

theorem BlockKind.word?_eq_none_iff {kind : BlockKind} : kind.word? = none ↔ kind = .section := by
  cases kind <;> decide

/-- A reserved word with a blank opens a block, and alone it closes one. -/
theorem BlockKind.forms {kind : BlockKind} {word : List Char} (h : kind.word? = some word) :
    kind.opening = word ++ [' '] ∧ (∀ name, kind.closing name = word) ∧ isName word = true := by
  cases kind
  · cases h
    exact ⟨rfl, fun _ => rfl, by decide⟩
  · cases h
    exact ⟨rfl, fun _ => rfl, by decide⟩
  · cases h

/-! ### Tags -/

/-- What stands inside a tag in the form that the printer gives it. -/
def Tag.inner : Tag → List Char
  | .opens kind name => '#' :: (kind.opening ++ name.toList)
  | .closes kind name => '/' :: kind.closing name
  | .include name => '>' :: ' ' :: name.toList
  | .field name => name.toList
  | .unknown => []

/-- The names of a tag can be read. A section is not named like another kind of block, and only a section is
named where it closes. -/
def Tag.Proper : Tag → Prop
  | .opens kind name => isName name.toList = true ∧ (kind = .section → reserved? name.toList = none)
  | .closes kind name => if kind = .section then
      isName name.toList = true ∧ reserved? name.toList = none else name = ""
  | .include name | .field name => isName name.toList = true
  | .unknown => False

/-- What follows the mark of a tag stays, if it ends in a name. -/
theorem trim_mark {mark : Char} {s name : List Char} (h : isName name = true)
    (plain : isBlank mark = false) : trim (mark :: (s ++ name)) = mark :: (s ++ name) := by
  refine trim_of_ends ?_ (getLast?_name h (mark :: s))
  intro c hc
  cases hc
  simp [plain]

theorem openingTag_section {name : List Char} (h : isName name = true)
    (free : reserved? name = none) : openingTag name = .opens .section (String.ofList name) := by
  obtain ⟨some', word⟩ := isName_iff.1 h
  obtain ⟨take, drop⟩ := takeWhile_isWord word
  simp [openingTag, take, drop, some', free]

theorem openingTag_word {kind : BlockKind} {word name : List Char} (hw : kind.word? = some word)
    (h : isName name = true) :
    openingTag (word ++ ' ' :: name) = .opens kind (String.ofList name) := by
  obtain ⟨some', letters⟩ := isName_iff.1 (kind.forms hw).2.2
  have take : (word ++ ' ' :: name).takeWhile isWord = word := by
    rw [List.takeWhile_append_of_pos letters, List.takeWhile_cons_of_neg (by decide), List.append_nil]
  have drop : (word ++ ' ' :: name).dropWhile isWord = ' ' :: name := by
    rw [List.dropWhile_append_of_pos letters, List.dropWhile_cons_of_neg (by decide)]
  have blank : (' ' :: name).takeWhile isBlank ≠ [] := by
    rw [List.takeWhile_cons_of_pos (by decide)]
    exact List.cons_ne_nil _ _
  have rest : (' ' :: name).dropWhile isBlank = name := by
    rw [List.dropWhile_cons_of_pos (by decide), dropWhile_isBlank_name h]
  simp [openingTag, take, drop, some', reserved?_eq_some_iff.2 hw, blank, rest, h]

theorem closingTag_word {kind : BlockKind} {word : List Char} (hw : kind.word? = some word) :
    closingTag word = .closes kind "" := by
  simp [closingTag, (kind.forms hw).2.2, reserved?_eq_some_iff.2 hw]

theorem closingTag_section {name : List Char} (h : isName name = true)
    (free : reserved? name = none) : closingTag name = .closes .section (String.ofList name) := by
  simp [closingTag, h, free]

theorem ofToken_name {name : List Char} (h : isName name = true) :
    Tag.ofToken name = .field (String.ofList name) := by
  have apart : ∀ {c : Char} {r : List Char}, isWord c = false → name ≠ c :: r := by
    rintro c r hc rfl
    rw [(isName_iff.1 h).2 c List.mem_cons_self] at hc
    cases hc
  unfold Tag.ofToken
  split
  · exact absurd rfl (apart (by decide))
  · exact absurd rfl (apart (by decide))
  · exact absurd rfl (apart (by decide))
  · rw [if_pos h]

/-- A tag in the form of the printer is read as itself. -/
theorem Tag.ofInner_inner {t : Tag} (h : t.Proper) : Tag.ofInner t.inner = t := by
  cases t with
  | opens kind name =>
    obtain ⟨named, free⟩ := h
    have mark : trim ('#' :: (kind.opening ++ name.toList)) = '#' :: (kind.opening ++ name.toList) :=
      trim_mark named (by decide)
    rw [Tag.ofInner, Tag.inner, mark, Tag.ofToken]
    cases hw : kind.word? with
    | some word =>
      rw [(kind.forms hw).1, List.append_assoc]
      exact (openingTag_word hw named).trans (by rw [String.ofList_toList])
    | none =>
      obtain rfl := BlockKind.word?_eq_none_iff.1 hw
      exact (openingTag_section named (free rfl)).trans (by rw [String.ofList_toList])
  | closes kind name =>
    rw [Tag.Proper] at h
    have mark : ∀ {s : List Char}, isName s = true → trim ('/' :: s) = '/' :: s :=
      fun named => trim_mark (s := []) named (by decide)
    cases hw : kind.word? with
    | some word =>
      obtain ⟨-, closing, named⟩ := kind.forms hw
      have other : kind ≠ .section := by
        rintro rfl
        cases hw
      rw [if_neg other] at h
      rw [Tag.ofInner, Tag.inner, closing, mark named, h]
      exact closingTag_word hw
    | none =>
      obtain rfl := BlockKind.word?_eq_none_iff.1 hw
      obtain ⟨named, free⟩ := h
      rw [Tag.ofInner, Tag.inner, BlockKind.closing, mark named]
      exact (closingTag_section named free).trans (by rw [String.ofList_toList])
  | «include» name =>
    have named : isName name.toList = true := h
    have mark : trim ('>' :: ' ' :: name.toList) = '>' :: ' ' :: name.toList :=
      trim_mark (s := [' ']) named (by decide)
    have rest : (' ' :: name.toList).dropWhile isBlank = name.toList := by
      rw [List.dropWhile_cons_of_pos (by decide), dropWhile_isBlank_name named]
    rw [Tag.ofInner, Tag.inner, mark]
    simp only [Tag.ofToken, rest, named, if_true, String.ofList_toList]
  | field name =>
    have named : isName name.toList = true := h
    have ends : trim name.toList = name.toList := by
      refine trim_of_ends ?_ (getLast?_name named [])
      intro c hc
      exact not_isBlank_of_isWord ((isName_iff.1 named).2 c (List.mem_of_head? hc))
    rw [Tag.ofInner, Tag.inner, ends, ofToken_name named, String.ofList_toList]
  | unknown => exact h.elim

/-- The form of the printer has no braces. -/
theorem Tag.whole_inner {t : Tag} (h : t.Proper) : Whole t.inner := by
  have name : ∀ {s : List Char}, isName s = true → ∀ c ∈ s, isInner c = true :=
    fun named c hc => isInner_of_isWord ((isName_iff.1 named).2 c hc)
  have words : ∀ kind : BlockKind, ∀ c ∈ kind.opening, isInner c = true := by
    intro kind
    cases kind <;> exact forall_mem_of_all (by decide)
  intro c hc
  cases t with
  | opens kind n =>
    rcases List.mem_cons.1 hc with rfl | hc
    · decide
    · rcases List.mem_append.1 hc with hc | hc
      · exact words kind c hc
      · exact name h.1 c hc
  | closes kind n =>
    rw [Tag.Proper] at h
    rcases List.mem_cons.1 hc with rfl | hc
    · decide
    · cases kind with
      | cond => exact (forall_mem_of_all (by decide) : ∀ c ∈ "if".toList, isInner c = true) c hc
      | each => exact (forall_mem_of_all (by decide) : ∀ c ∈ "each".toList, isInner c = true) c hc
      | «section» => exact name (if_pos rfl ▸ h).1 c hc
  | «include» n =>
    rcases List.mem_cons.1 hc with rfl | hc
    · decide
    · rcases List.mem_cons.1 hc with rfl | hc
      · decide
      · exact name h c hc
  | field n => exact name h c hc
  | unknown => exact h.elim

/-! ### Other forms -/

/-- The tag is the reading of a token that differs from its form by blanks only, if it is known. -/
def Tag.Reads (t : Tag) (token : List Char) : Prop :=
  t ≠ .unknown → t.Proper ∧ solid t.inner = solid token

theorem Tag.reads_unknown (token : List Char) : Tag.Reads .unknown token := fun known => absurd rfl known

theorem solid_cons (c : Char) (s : List Char) : solid (c :: s) = solid [c] ++ solid s :=
  solid_append [c] s

theorem reads_openingTag (s : List Char) : (openingTag s).Reads ('#' :: s) := by
  have parts : s.takeWhile isWord ++ s.dropWhile isWord = s := List.takeWhile_append_dropWhile
  have letters : ∀ c ∈ s.takeWhile isWord, isWord c = true := fun c hc => List.mem_takeWhile_imp hc
  unfold openingTag
  generalize s.takeWhile isWord = word at parts letters
  generalize s.dropWhile isWord = rest at parts
  dsimp only
  split
  · exact Tag.reads_unknown _
  · rename_i some'
    have named : isName word = true := isName_iff.2 ⟨by simpa using some', letters⟩
    split
    · rename_i alone
      obtain rfl := List.isEmpty_iff.1 alone
      rw [List.append_nil] at parts
      split
      · exact Tag.reads_unknown _
      · rename_i free
        rw [Option.not_isSome_iff_eq_none] at free
        intro _
        simp only [Tag.Proper, Tag.inner, String.toList_ofList]
        exact ⟨⟨named, fun _ => free⟩, by rw [← parts]; rfl⟩
    · split
      · exact Tag.reads_unknown _
      · rename_i kind reserved
        split
        · rename_i shape
          have hw := reserved?_eq_some_iff.1 reserved
          intro _
          simp only [Tag.Proper, Tag.inner, String.toList_ofList]
          refine ⟨⟨(Bool.and_eq_true_iff.1 shape).2, ?_⟩, ?_⟩
          · rintro rfl
            cases hw
          · rw [(kind.forms hw).1, ← parts, solid_cons, solid_cons (s := word ++ rest), solid_append,
              solid_append, solid_append, solid_dropWhile]
            simp [solid, show isBlank ' ' = true by decide]
        · exact Tag.reads_unknown _

theorem reads_closingTag (s : List Char) : (closingTag s).Reads ('/' :: s) := by
  unfold closingTag
  split
  · exact Tag.reads_unknown _
  · rename_i named
    rw [Bool.not_eq_true', Bool.not_eq_false] at named
    split
    · rename_i kind reserved
      have hw := reserved?_eq_some_iff.1 reserved
      intro _
      refine ⟨?_, ?_⟩
      · have other : kind ≠ .section := by
          rintro rfl
          cases hw
        rw [Tag.Proper, if_neg other]
      · rw [Tag.inner, (kind.forms hw).2.1]
    · rename_i free
      intro _
      simp only [Tag.Proper, Tag.inner, BlockKind.closing, String.toList_ofList, if_true]
      exact ⟨⟨named, free⟩, trivial⟩

theorem reads_ofToken (token : List Char) : (Tag.ofToken token).Reads token := by
  unfold Tag.ofToken
  split
  · exact reads_openingTag _
  · exact reads_closingTag _
  · rename_i s
    dsimp only
    split
    · rename_i named
      intro _
      simp only [Tag.Proper, Tag.inner, String.toList_ofList]
      refine ⟨named, ?_⟩
      rw [solid_cons, solid_cons '>' s, ← solid_dropWhile s]
      simp [solid, show isBlank ' ' = true by decide]
    · exact Tag.reads_unknown _
  · split
    · rename_i named
      intro _
      simp only [Tag.Proper, Tag.inner, String.toList_ofList]
      exact ⟨named, trivial⟩
    · exact Tag.reads_unknown _

/-- A known tag has names that can be read, and it was written like its form, but for blanks. -/
theorem Tag.reads_ofInner (inner : List Char) : (Tag.ofInner inner).Reads inner := by
  intro known
  obtain ⟨proper, same⟩ := reads_ofToken (trim inner) known
  exact ⟨proper, same.trans (solid_trim inner)⟩

end PageSkins.Template
