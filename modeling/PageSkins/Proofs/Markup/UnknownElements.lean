import PageSkins.Proofs.Markup.EscapedText

/-!
# Elements that are not kept

The tags of an element that the policy does not know leave nothing behind, so
the text between them stands alone. The search for containers of raw text takes
a hyphen for the end of a name: an element whose name is that of a container,
a hyphen and more is removed with all that follows.
-/

namespace PageSkins

namespace Markup

open Text

/-! ### Names -/

def isElementChar (c : Char) : Bool := c.isAlphanum || c == '-'

/-- A name of an element that the policy does not keep, and of no container. -/
structure Unknown (p : Policy) (name : String) : Prop where
  letter : ∃ c ∈ name.toList.head?, isLetter c = true
  tight : ∀ c ∈ name.toList, isElementChar c = true
  foreign : p.keepsElement (smallName name) = false
  apart : (smallName name).toList ∉ rawContainers

/-- The name of a container and a hyphen stand at the start of the name. -/
def extendsContainer (name : String) : Bool :=
  rawContainers.any fun container => (container ++ ['-']).isPrefixOf (smallName name).toList

theorem lt_of_isElementChar {c : Char} (h : isElementChar c = true) : c.toNat < 128 := by
  rcases Bool.or_eq_true_iff.1 h with plain | hyphen
  · exact lt_of_isAlphanum plain
  · rw [eq_of_beq hyphen]
    decide

/-- Only the hyphen ends a word, and no character of a name has other variants than capitals. -/
theorem isElementChar_cases {c : Char} (h : isElementChar c = true) :
    continuesName c = true ∧ c ∉ ['<', '>', '\r'] ∧
      (c ≠ '-' → isWord c = true ∧ smallChar c ≠ '-') ∧
      smallChar c = c.toLower ∧ foldLetter c = c.toLower := by
  have known : ∀ d : Char, d.toNat < 128 → isElementChar d = true →
      continuesName d = true ∧ d ∉ ['<', '>', '\r'] ∧
        (d ≠ '-' → isWord d = true ∧ smallChar d ≠ '-') ∧
        smallChar d = d.toLower ∧ foldLetter d = d.toLower :=
    forall_char_of_lt (by decide +kernel)
  exact known c (lt_of_isElementChar h) h

namespace Unknown

variable {p : Policy} {name : String}

theorem word (h : Unknown p name) : TagWord name.toList := by
  obtain ⟨c, first, letter⟩ := h.letter
  obtain ⟨r, hn⟩ := List.head?_eq_some_iff.1 first
  refine ⟨c, r, hn, letter, ?_⟩
  rw [← hn]
  exact fun d hd => (isElementChar_cases (h.tight d hd)).1

theorem notMem (h : Unknown p name) {c : Char} (hc : c ∈ ['<', '>', '\r']) : c ∉ name.toList :=
  fun hm => (isElementChar_cases (h.tight c hm)).2.1 hc

/-- In whatever way it is put in small letters, the name is the same. -/
theorem map_smallChar (h : Unknown p name) {w : List Char} (hw : w ⊆ name.toList) :
    w.map smallChar = w.map Char.toLower ∧ w.map foldLetter = w.map Char.toLower := by
  constructor
  · exact List.map_congr_left fun c hc => (isElementChar_cases (h.tight c (hw hc))).2.2.2.1
  · exact List.map_congr_left fun c hc => (isElementChar_cases (h.tight c (hw hc))).2.2.2.2

/-- The only character of the name that ends a word is the hyphen. -/
theorem eq_hyphen (h : Unknown p name) {c : Char} (hc : c ∈ name.toList)
    (ends : isWord c = false ∨ smallChar c = '-') : c = '-' := by
  by_contra other
  obtain ⟨word, small⟩ := (isElementChar_cases (h.tight c hc)).2.2.1 other
  rcases ends with ends | ends
  · rw [word] at ends
    cases ends
  · exact small ends

/-! ### Containers of raw text -/

/-- The name of a container is found in the name only where a hyphen follows it. -/
theorem containerName?_some (h : Unknown p name) {t w rest : List Char}
    (found : containerName? (name.toList ++ '>' :: t) = some (w, rest)) :
    w.map smallChar ∈ rawContainers ∧ ∃ r, name.toList = w ++ '-' :: r ∧
      rest = '-' :: (r ++ '>' :: t) := by
  have bare : ∀ container ∈ rawContainers, '>' ∉ container := by decide
  obtain ⟨container, known, found⟩ := List.exists_of_findSome?_eq_some found
  dsimp only at found
  rw [List.splitAt_eq] at found
  split at found
  · rename_i matched
    obtain ⟨same, ends⟩ := matched
    obtain ⟨rfl, rfl⟩ := Prod.mk.inj (Option.some.inj found)
    have whole := List.take_append_drop container.length (name.toList ++ '>' :: t)
    generalize (name.toList ++ '>' :: t).take container.length = w at same whole ⊢
    generalize (name.toList ++ '>' :: t).drop container.length = rest at ends whole ⊢
    have off : '>' ∉ w := by
      intro hm
      apply bare container known
      rw [← same]
      exact List.mem_map.2 ⟨'>', hm, by decide⟩
    -- The name of the container ends inside the name, or right after it.
    obtain ⟨d, hd, hr⟩ := exists_append_of_notMem off whole
    have inside : w ⊆ name.toList := by
      rw [hd]
      exact List.subset_append_left w d
    have small : w.map smallChar = container := by
      rw [(h.map_smallChar inside).1, ← (h.map_smallChar inside).2, same]
    rw [small]
    refine ⟨known, ?_⟩
    cases d with
    | nil =>
      rw [List.append_nil] at hd
      rw [← hd, ← toList_smallName] at small
      exact absurd (small ▸ known) h.apart
    | cons e r =>
      rw [hr] at ends
      have last : e = '-' := h.eq_hyphen (by simp [hd]) (.inl (by simpa using ends))
      rw [last] at hd hr
      exact ⟨r, hd, hr⟩
  · cases found

theorem containerName?_eq_none (h : Unknown p name) (off : extendsContainer name = false)
    (t : List Char) : containerName? (name.toList ++ '>' :: t) = none := by
  cases found : containerName? (name.toList ++ '>' :: t) with
  | none => rfl
  | some wr =>
    obtain ⟨w, rest⟩ := wr
    obtain ⟨known, r, hn, -⟩ := h.containerName?_some found
    rw [extendsContainer, List.any_eq_false] at off
    refine absurd ?_ (off _ known)
    rw [List.isPrefixOf_iff_prefix, toList_smallName, hn]
    exact ⟨r.map smallChar, by simp [smallChar]⟩

theorem containerName?_isSome (h : Unknown p name) (on : extendsContainer name = true)
    (t : List Char) : (containerName? (name.toList ++ '>' :: t)).isSome = true := by
  obtain ⟨container, known, extends'⟩ := List.any_eq_true.1 on
  obtain ⟨u, hu⟩ := List.isPrefixOf_iff_prefix.1 extends'
  rw [toList_smallName, List.append_assoc] at hu
  obtain ⟨w, r, hn, hw, hr⟩ := List.map_eq_append_iff.1 hu.symm
  obtain ⟨e, r, rfl, he, -⟩ := List.map_eq_cons_iff.1 hr
  have inside : w ⊆ name.toList := by
    rw [hn]
    exact List.subset_append_left w _
  have length : container.length = w.length := by rw [← hw, List.length_map]
  have same : w.map foldLetter = container := by
    rw [(h.map_smallChar inside).2, ← (h.map_smallChar inside).1, hw]
  have hyphen : e = '-' := h.eq_hyphen (by simp [hn]) (.inr he)
  rw [containerName?, List.findSome?_isSome_iff]
  refine ⟨container, known, ?_⟩
  have ends : isWord '-' = false := by decide
  rw [hn, hyphen, length, List.splitAt_eq, List.append_assoc, List.take_left, List.drop_left]
  simp [same, ends]

/-- Where there is no such hyphen, nothing is removed. -/
theorem stripContainers_eq (h : Unknown p name) (off : extendsContainer name = false)
    {s : List Char} (plain : '<' ∉ s) :
    stripContainers (openingMarkup name [] (s ++ closingMarkup name [])) =
      openingMarkup name [] (s ++ closingMarkup name []) := by
  have bracket : '<' ∉ name.toList := h.notMem (by decide)
  have first : apartFromContainers ['/'] = true := by decide
  have tail : removeContainers ('/' :: (name.toList ++ ['>'])) = '/' :: (name.toList ++ ['>']) := by
    have none' : '<' ∉ '/' :: (name.toList ++ ['>']) := by simp [bracket]
    have same := removeContainers_append none' []
    rwa [List.append_nil, removeContainers, List.append_nil] at same
  have closing : removeContainers (closingMarkup name []) = closingMarkup name [] := by
    have start := removeContainers_bracket first (name.toList ++ ['>'])
    exact start.trans (congrArg ('<' :: ·) tail)
  have inner : '<' ∉ name.toList ++ '>' :: s := by simp [bracket, plain]
  have layout : name.toList ++ '>' :: (s ++ closingMarkup name []) =
      (name.toList ++ '>' :: s) ++ closingMarkup name [] := by simp
  have whole : removeContainers (openingMarkup name [] (s ++ closingMarkup name [])) =
      openingMarkup name [] (s ++ closingMarkup name []) := by
    have none' : afterContainer? (openingMarkup name [] (s ++ closingMarkup name [])) = none := by
      simp [openingMarkup, afterContainer?, h.containerName?_eq_none off]
    refine (removeContainers_cons none').trans (congrArg ('<' :: ·) ?_)
    rw [List.map_nil, List.flatMap_nil, List.nil_append, layout, removeContainers_append inner, closing]
  rw [stripContainers, whole]
  exact if_neg (Nat.lt_irrefl _)

/-- A name that goes on after a hyphen does not close the container before it. -/
theorem afterElement_eq_nil (h : Unknown p name) {w r s : List Char}
    (extended : name.toList = w ++ '-' :: r) (plain : '<' ∉ s) :
    afterElement w (s ++ closingMarkup name []) = [] := by
  have step : ∀ {c : Char} {t : List Char}, afterClosing? w (c :: t) = none →
      afterElement w (c :: t) = afterElement w t := by
    intro c t none'
    rw [afterElement, none']
  have pass : ∀ {u : List Char} (t : List Char), '<' ∉ u → afterElement w (u ++ t) = afterElement w t := by
    intro u t hu
    induction u with
    | nil => rfl
    | cons c u ih =>
      have apart : c ≠ '<' := fun e => hu (e ▸ List.mem_cons_self)
      have none' : afterClosing? w (c :: (u ++ t)) = none := by
        unfold afterClosing?
        split
        · rename_i heq
          exact absurd (List.cons.inj heq).1 apart
        · rfl
      rw [List.cons_append, step none', ih fun hm => hu (List.mem_cons_of_mem _ hm)]
  have bracket : '<' ∉ '/' :: (name.toList ++ ['>']) := by
    have := h.notMem (c := '<') (by decide)
    simp [this]
  have open' : afterClosing? w (closingMarkup name []) = none := by
    have blank : isBlank '-' = false := by decide
    simp [closingMarkup, afterClosing?, extended, blank]
  rw [pass _ plain, closingMarkup, step open']
  have rest := pass [] bracket
  rwa [List.append_nil] at rest

/-- Where there is such a hyphen, everything is removed. -/
theorem stripContainers_eq_nil (h : Unknown p name) (on : extendsContainer name = true)
    {s : List Char} (plain : '<' ∉ s) :
    stripContainers (openingMarkup name [] (s ++ closingMarkup name [])) = [] := by
  obtain ⟨⟨w, rest⟩, found⟩ :=
    Option.isSome_iff_exists.1 (h.containerName?_isSome on (s ++ closingMarkup name []))
  obtain ⟨-, r, hn, rfl⟩ := h.containerName?_some found
  have tail : '>' ∉ '-' :: r := by
    intro hm
    apply h.notMem (c := '>') (by decide)
    rw [hn]
    exact List.mem_append_right _ hm
  have after : afterContainer? (openingMarkup name [] (s ++ closingMarkup name [])) = some [] := by
    have closed : ('-' :: (r ++ '>' :: (s ++ closingMarkup name []))).dropWhile (· != '>') =
        '>' :: (s ++ closingMarkup name []) := by
      have before : ∀ c ∈ '-' :: r, (c != '>') = true := by
        intro c hc
        exact bne_iff_ne.2 fun e => tail (e ▸ hc)
      exact (List.dropWhile_append_of_pos before).trans (List.dropWhile_cons_of_neg (by decide))
    simp only [openingMarkup, afterContainer?, List.map_nil, List.flatMap_nil, List.nil_append,
      found, closed, h.afterElement_eq_nil hn plain]
  have whole : removeContainers (openingMarkup name [] (s ++ closingMarkup name [])) = [] := by
    rw [openingMarkup] at after ⊢
    rw [removeContainers, after]
    exact (dif_pos (Nat.zero_le _)).trans removeContainers_nil
  rw [stripContainers, whole]
  exact (if_pos (Nat.succ_pos _)).trans stripContainers_nil

/-! ### Reading -/

/-- Nothing stands for a tag of the element, but for an opening tag that is not the first. -/
theorem token (h : Unknown p name) (closing bad : Bool) {after : Bool}
    (first : closing = false → after = false) :
    Token.ofLexeme p.keepsElement after
      (.tag ⟨closing, String.ofList (name.toList.map Char.toLower), [], false⟩ bad) =
        some (.chars []) := by
  have foreign : p.keepsElement (smallName (String.ofList (name.toList.map Char.toLower))) = false := by
    rw [smallName_lower, String.ofList_toList, h.foreign]
  unfold Token.ofLexeme
  dsimp only
  rw [foreign, if_neg Bool.false_ne_true]
  cases closing with
  | false => rw [first rfl]; rfl
  | true => rfl

/-- The text between the tags is what is read. -/
theorem read_eq (h : Unknown p name) {s : List Char} (plain : ∀ c ∈ s, c ∉ ['<', '\r', '\x00']) :
    Tree.read p.keepsElement (openingMarkup name [] (s ++ closingMarkup name [])) = Tree.ofText s := by
  have bracket : '<' ∉ s := fun hm => plain _ hm (by decide)
  have zero : '\x00' ∉ s := fun hm => plain _ hm (by decide)
  have tag : ∀ c ∈ (closingMarkup name []).head?, c = '<' := fun c hc => (Option.some.inj hc).symm
  obtain ⟨d, moved, -⟩ := moves_text p.keepsElement tag _ s (Nat.le_refl _) bracket zero
    Builder.calm_start (fun on => by cases on)
  have grows := grows_text Builder.calm_start s rfl d
  have calm := grows.calm Builder.calm_start
  have breaks : normalizeBreaks (openingMarkup name [] (s ++ closingMarkup name [])) =
      openingMarkup name [] (s ++ closingMarkup name []) := by
    have none' : '\r' ∉ openingMarkup name [] (s ++ closingMarkup name []) := by
      have inName : '\r' ∉ name.toList := h.notMem (by decide)
      have inText : '\r' ∉ s := fun hm => plain _ hm (by decide)
      simp [openingMarkup, closingMarkup, inName, inText]
    have same := normalizeBreaks_append none' []
    rwa [normalizeBreaks, List.append_nil] at same
  refine Tree.read_of_grows breaks grows ?_
  have bare : ∀ a ∈ ([] : List Quoted), a.Readable := fun a ha => (List.not_mem_nil ha).elim
  obtain ⟨bad, opening⟩ := scan_openingTag h.word bare (s ++ closingMarkup name [])
  obtain ⟨bad', closing⟩ := scan_closingTag h.word []
  have untouched : Builder.start.placeInMode (.chars []) = Builder.finished Builder.start := by
    rw [Builder.calm_start.placeInMode_chars, Builder.calm_start.textInBody_nil]
  obtain ⟨after, start⟩ := Builder.calm_start.run_cons opening (h.token false bad fun _ => rfl)
    untouched rfl (openingMarkup name [] (s ++ closingMarkup name [])).length
  have finish : Moves p.keepsElement (closingMarkup name []) (Builder.start.withText s d) []
      (Builder.start.withText s d) :=
    calm.moves closing (fun _ => h.token true bad' fun e => by cases e)
      (by rw [calm.placeInMode_chars, calm.textInBody_nil]) calm.textOnly
  obtain ⟨after', fuel, enough, rest⟩ := (moved.trans finish) after
    (openingMarkup name [] (s ++ closingMarkup name [])).length (by simp [openingMarkup]; omega)
  exact ⟨after', fuel, enough, start.trans rest⟩

end Unknown

/-! ### Writing -/

namespace Writer

/-- Text with nothing to escape and no control characters is written as it stands. -/
theorem write_ofText {s : List Char} (plain : ∀ c ∈ s, escapeChar c = [c] ∧ isControl c = false) :
    write (Tree.ofText s) = .ok s := by
  have escaped : Escaped s := by
    induction s with
    | nil => exact .nil
    | cons c s ih =>
      obtain ⟨first, later⟩ := List.forall_mem_cons.1 plain
      exact .char first.1 (ih later)
  have written : (textPieces s).flatten = s :=
    writtenText_of_escaped escaped fun c hc => (plain c hc).2
  cases s with
  | nil => rfl
  | cons c s =>
    have joined : join false false (textPieces (c :: s) ++ []) = .ok ((textPieces (c :: s)).flatten ++ []) :=
      join_outside (bracket_notMem_textPieces _) rfl
    rw [written, List.append_nil (c :: s)] at joined
    exact joined

end Writer

/-- The tags of an unknown element go and its text stays, unless its name goes on after that of a container. -/
theorem sanitize_unknown {p : Policy} {name : String} (h : Unknown p name) {s : List Char}
    (plain : ∀ c ∈ s, c ∉ ['<', '>', '&', '\r'] ∧ Writer.isControl c = false) :
    sanitize p (openingMarkup name [] (s ++ closingMarkup name [])) =
      .ok (if extendsContainer name then [] else s) := by
  have bracket : '<' ∉ s := fun hm => (plain _ hm).1 (by decide)
  cases on : extendsContainer name with
  | true =>
    have nothing : sanitize p [] = .ok [] := sanitize_nil p
    rw [sanitize, h.stripContainers_eq_nil on bracket]
    rwa [sanitize, stripContainers_nil] at nothing
  | false =>
    have shown : ∀ c ∈ s, Writer.escapeChar c = [c] ∧ Writer.isControl c = false := by
      intro c hc
      obtain ⟨apart, control⟩ := plain c hc
      refine ⟨?_, control⟩
      rcases Writer.escapeChar_cases c with special | same
      · rcases special with rfl | rfl | rfl <;> exact absurd (by decide) apart
      · exact same
    have read := h.read_eq (s := s) fun c hc => by
      obtain ⟨apart, control⟩ := plain c hc
      intro hm
      have cases' : c = '<' ∨ c = '\r' ∨ c = '\x00' := by simpa using hm
      rcases cases' with rfl | rfl | rfl
      · exact apart (by decide)
      · exact apart (by decide)
      · cases control
    have stays : p.filter (Tree.ofText s) = .ok (Tree.ofText s) := by
      cases s with
      | nil => rfl
      | cons c s => rfl
    rw [sanitize, h.stripContainers_eq on bracket, read, stays]
    exact Writer.write_ofText shown

end Markup

namespace Resolver

open Markup

/-- An element that is not kept leaves its text, unless its name goes on after that of a container and a
hyphen: then nothing is left. -/
theorem clean_unknown (r : Resolver) {name : String} (h : Unknown r.policy name) {s : List Char}
    (plain : ∀ c ∈ s, c ∉ ['<', '>', '&', '\r'] ∧ Writer.isControl c = false) :
    r.clean (openingMarkup name [] (s ++ closingMarkup name [])) =
      ⟨if extendsContainer name then "" else String.ofList s, []⟩ := by
  rw [clean, sanitize_unknown h plain]
  cases extendsContainer name with
  | true => rfl
  | false => rfl

theorem clean_unknown_marquee :
    Unknown {} "Marquee" ∧
      (∀ c ∈ "it's 1 = \"1\"".toList, c ∉ ['<', '>', '&', '\r'] ∧ Writer.isControl c = false) ∧
      clean {} (openingMarkup "Marquee" [] ("it's 1 = \"1\"".toList ++ closingMarkup "Marquee" [])) =
        ⟨"it's 1 = \"1\"", []⟩ := by
  have unknown : Unknown {} "Marquee" :=
    ⟨⟨'M', rfl, by decide⟩, forall_mem_of_all (by decide), by decide, by decide⟩
  have plain : ∀ c ∈ "it's 1 = \"1\"".toList, c ∉ ['<', '>', '&', '\r'] ∧ Writer.isControl c = false :=
    forall_mem_of_all (by decide)
  exact ⟨unknown, plain, clean_unknown {} unknown plain⟩

/-- The search for containers takes a hyphen for the end of a name. -/
theorem not_clean_titleCard :
    Unknown {} "title-card" ∧
      (∀ c ∈ "hello".toList, c ∉ ['<', '>', '&', '\r'] ∧ Writer.isControl c = false) ∧
      (clean {} "<title-card>hello</title-card>".toList).value ≠ "hello" := by
  have unknown : Unknown {} "title-card" :=
    ⟨⟨'t', rfl, by decide⟩, forall_mem_of_all (by decide), by decide, by decide⟩
  have plain : ∀ c ∈ "hello".toList, c ∉ ['<', '>', '&', '\r'] ∧ Writer.isControl c = false :=
    forall_mem_of_all (by decide)
  have markup : "<title-card>hello</title-card>".toList =
      openingMarkup "title-card" [] ("hello".toList ++ closingMarkup "title-card" []) := by decide
  refine ⟨unknown, plain, ?_⟩
  rw [markup, clean, sanitize_unknown unknown plain]
  decide

end Resolver
end PageSkins
