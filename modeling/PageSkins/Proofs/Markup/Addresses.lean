import PageSkins.Proofs.Markup.DecodedValues
import PageSkins.Proofs.Markup.ExactAttributes

/-!
# Addresses of scripts

An address is judged with its references read and with all left out that a browser
passes over. What is written for it spells what was judged, so no address that is
kept runs a script when a browser reads it. Two things escape the judgement. An
attribute with a vocabulary in braces before its name is not taken for an address,
and it is written without its vocabulary. And after a value that is a lone closing
bracket the addresses of the tag are written with their ampersands escaped, so a
browser reads a reference where a character was judged.
-/

namespace PageSkins

namespace Markup

open Address (counts decode)

/-! ### What a browser makes of an address -/

def isControlCode (c : Char) : Bool := c.toNat < 32 || (127 ≤ c.toNat && c.toNat < 160)

/-- A value as a browser reads it, without blanks and control characters. -/
def shownAddress (value : List Char) : List Char :=
  ((Reference.glyphs value).map Glyph.char).filter fun c => !(Text.isBlank c || isControlCode c)

/-- The address has the scheme of scripts, in whatever case, and more than digits and grave accents of ASCII
after it. -/
def IsScript (value : List Char) : Prop :=
  ∃ scheme rest, shownAddress value = scheme ++ ':' :: rest ∧
    scheme.map Text.foldLetter = "javascript".toList ∧
    ∃ c ∈ rest, c.toNat < 128 ∧ c.isDigit = false ∧ c ≠ '\x60'

/-- No address in the markup runs a script. -/
def RunsNoScript (markup : List Char) : Prop :=
  ∀ t bad, Lexeme.tag t bad ∈ lexemes markup →
    ∀ a ∈ t.attributes, a.name = "href" ∨ a.name = "src" → ¬ IsScript a.value

/-- The text begins with letters as a scheme of scripts does, and after the colon there is more than digits. -/
def Scripted (s : List Char) : Prop :=
  ∃ c name rest, s = c :: (name ++ ':' :: rest) ∧ c.toLower = 'j' ∧
    (∀ d ∈ c :: name, d.isAlpha = true) ∧ ∃ d ∈ rest, d.isDigit = false

/-- All that is left out for the judgement is more than blanks and control characters. -/
theorem not_counts {c : Char} (h : (Text.isBlank c || isControlCode c) = true) : counts c = false := by
  apply Reference.counts_eq_false
  rcases Bool.or_eq_true_iff.1 h with blank | control
  · simp [Text.isBlank, Text.blankRanges, Text.Ranges.has] at blank
    omega
  · simp [isControlCode] at control
    omega

theorem filter_shownAddress (value : List Char) :
    (shownAddress value).filter counts = ((Reference.glyphs value).map Glyph.char).filter counts := by
  rw [shownAddress, List.filter_filter]
  refine List.filter_congr fun c _ => ?_
  cases left : Text.isBlank c || isControlCode c with
  | true => rw [not_counts left]; rfl
  | false => simp

theorem counts_of_ascii {c : Char} (h : c.toNat < 128) (shown : (Text.isBlank c || isControlCode c) = false)
    (accent : c ≠ '\x60') : counts c = true := by
  have each : ∀ n < 128, (Text.isBlank (Char.ofNat n) || isControlCode (Char.ofNat n)) = false →
      Char.ofNat n ≠ '\x60' → counts (Char.ofNat n) = true := by decide
  exact forall_char_of_lt (P := fun c => (Text.isBlank c || isControlCode c) = false → c ≠ '\x60' →
    counts c = true) each c h shown accent

theorem toLower_of_large {c : Char} (h : 128 ≤ c.toNat) : c.toLower = c := by
  unfold Char.toLower
  rw [dif_neg]
  rintro ⟨-, high⟩
  have high : c.toNat ≤ 90 := high
  omega

/-- A letter of the scheme is a letter of ASCII, unless it is left out. -/
theorem isAlpha_of_foldLetter {c : Char} (h : Text.foldLetter c ∈ "javascript".toList)
    (shown : counts c = true) : c.isAlpha = true := by
  have small : c.toNat < 128 := by
    by_contra large
    rw [Reference.counts_eq_false (by omega)] at shown
    cases shown
  have each : ∀ n < 128, Text.foldLetter (Char.ofNat n) ∈ "javascript".toList →
      (Char.ofNat n).isAlpha = true := by decide
  exact forall_char_of_lt (P := fun c => Text.foldLetter c ∈ "javascript".toList → c.isAlpha = true)
    each c small h

theorem counts_of_foldLetter {c : Char} (h : Text.foldLetter c = 'j') :
    counts c = true ∧ c.toLower = 'j' := by
  unfold Text.foldLetter at h
  split at h
  · cases h
  · split at h
    · cases h
    · split at h
      · cases h
      · refine ⟨?_, h⟩
        have small : c.toNat < 128 := by
          by_contra large
          rw [toLower_of_large (by omega)] at h
          rw [h] at large
          exact large (by decide)
        have each : ∀ n < 128, (Char.ofNat n).toLower = 'j' → counts (Char.ofNat n) = true := by decide
        exact forall_char_of_lt (P := fun c => c.toLower = 'j' → counts c = true) each c small h

theorem IsScript.scripted {value s : List Char} (h : IsScript value) (spells : Spells value s) :
    Scripted s := by
  obtain ⟨scheme, rest, shown, named, c, hc, ascii, digit, accent⟩ := h
  have whole := filter_shownAddress value
  rw [spells.glyphs, shown, List.filter_append, List.filter_cons_of_pos (by decide)] at whole
  cases scheme with
  | nil => cases named
  | cons j scheme =>
    obtain ⟨first, others⟩ := List.cons.inj named
    obtain ⟨on, small⟩ := counts_of_foldLetter first
    have on' : (j :: scheme).filter counts = j :: scheme.filter counts := List.filter_cons_of_pos on
    rw [on'] at whole
    refine ⟨j, scheme.filter counts, rest.filter counts, whole.symm, small, fun d hd => ?_, c, ?_, digit⟩
    · rw [← on'] at hd
      obtain ⟨hd, shown⟩ := List.mem_filter.1 hd
      refine isAlpha_of_foldLetter ?_ shown
      rw [← named]
      exact List.mem_map_of_mem hd
    · refine List.mem_filter.2 ⟨hc, counts_of_ascii ascii ?_ accent⟩
      have inside : c ∈ shownAddress value := by
        rw [shown]
        exact List.mem_append_right _ (List.mem_cons_of_mem _ hc)
      simpa using (List.mem_filter.1 inside).2

/-! ### What is judged -/

/-- Where what is written and what is judged part, they part after the scheme. -/
theorem Scripted.of_follows {s d : List Char} (h : Scripted s) (follows : Follows s d) : Scripted d := by
  rcases follows with rfl | ⟨common, more, more', split, rfl, left⟩
  · exact h
  · obtain ⟨c, name, rest, rfl, small, letters, -⟩ := h
    have apart : ∀ x, x.isAlpha = false → x ≠ ':' → x ∉ c :: (name ++ [':']) := by
      intro x off colon hm
      rw [← List.cons_append] at hm
      rcases List.mem_append.1 hm with hm | hm
      · rw [letters x hm] at off
        cases off
      · exact colon (List.mem_singleton.1 hm)
    have layout : ∀ u, c :: (name ++ ':' :: u) = c :: (name ++ [':']) ++ u := by simp
    rw [layout] at split
    obtain ⟨r, rfl, -⟩ := exists_append_of_notMem (apart '&' (by decide) (by decide)) split
    refine ⟨c, name, r ++ more', by simp, small, letters, ?_⟩
    have later : ∀ x, x.isAlpha = false → x ≠ ':' →
        x ∈ c :: (name ++ [':']) ++ r ++ more' → x ∈ r ++ more' := by
      intro x off colon hm
      rw [List.append_assoc] at hm
      exact (List.mem_append.1 hm).resolve_left (apart x off colon)
    rcases left with quote | semicolon
    · exact ⟨_, later _ (by decide) (by decide) quote, by decide⟩
    · exact ⟨_, later _ (by decide) (by decide) semicolon, by decide⟩

theorem isSchemeChar_toLower {c : Char} (h : c.isAlpha = true) :
    (c.toLower != ':') = true ∧ Address.isSchemeChar c.toLower = true := by
  have small : c.toNat < 128 := lt_of_isAlphanum (Bool.or_eq_true_iff.2 (.inl h))
  have each : ∀ n < 128, (Char.ofNat n).isAlpha = true → ((Char.ofNat n).toLower != ':') = true ∧
      Address.isSchemeChar (Char.ofNat n).toLower = true := by decide
  exact forall_char_of_lt (P := fun c => c.isAlpha = true →
    (c.toLower != ':') = true ∧ Address.isSchemeChar c.toLower = true) each c small h

theorem isDigit_toLower {c : Char} (h : c.isDigit = false) : c.toLower.isDigit = false := by
  by_cases small : c.toNat < 128
  · have each : ∀ n < 128, (Char.ofNat n).isDigit = false → (Char.ofNat n).toLower.isDigit = false := by
      decide
    exact forall_char_of_lt (P := fun c => c.isDigit = false → c.toLower.isDigit = false) each c small h
  · rw [toLower_of_large (by omega)]
    exact h

namespace Address

/-- The scheme that is found is that of scripts, or at least no safe one. -/
theorem splitScheme_scripted {s : List Char} (h : Scripted s) :
    ∃ name rest, splitScheme (s.map Char.toLower) = (some ('j' :: name), rest) := by
  obtain ⟨c, name, rest, rfl, small, letters, d, hd, digit⟩ := h
  have split : (c :: (name ++ ':' :: rest)).map Char.toLower =
      (c :: name).map Char.toLower ++ ':' :: rest.map Char.toLower := by
    simp only [List.map_cons, List.map_append, List.cons_append]
    rfl
  have plain : ∀ x ∈ (c :: name).map Char.toLower, (x != ':') = true ∧ isSchemeChar x = true := by
    intro x hx
    obtain ⟨y, hy, rfl⟩ := List.mem_map.1 hx
    exact isSchemeChar_toLower (letters y hy)
  have before : ((c :: name).map Char.toLower ++ ':' :: rest.map Char.toLower).takeWhile (· != ':') =
      (c :: name).map Char.toLower := by
    rw [List.takeWhile_append_of_pos fun x hx => (plain x hx).1]
    simp
  have after : ((c :: name).map Char.toLower ++ ':' :: rest.map Char.toLower).dropWhile (· != ':') =
      ':' :: rest.map Char.toLower := by
    rw [List.dropWhile_append_of_pos fun x hx => (plain x hx).1]
    simp
  have named : (c :: name).map Char.toLower = 'j' :: name.map Char.toLower := by
    rw [List.map_cons, small]
  have scheme : ((c :: name).map Char.toLower).all isSchemeChar = true :=
    List.all_eq_true.2 fun x hx => (plain x hx).2
  have more : (rest.map Char.toLower).all Char.isDigit = false :=
    List.all_eq_false.2 ⟨d.toLower, List.mem_map_of_mem hd, by rw [isDigit_toLower digit]; decide⟩
  refine ⟨name.map Char.toLower, rest.map Char.toLower, ?_⟩
  have apart : 'j' :: name.map Char.toLower ≠ "http".toList := fun e => by cases e
  rw [split, splitScheme, before, after, scheme, named]
  dsimp only
  rw [if_neg apart, more]
  simp

theorem isSafe_of_scripted {v d : List Char} (hd : decode v = .ok d) (h : Scripted (d.filter counts)) :
    isSafe v = .ok false := by
  obtain ⟨name, rest, split⟩ := splitScheme_scripted h
  have first : ∀ known ∈ safeSchemes, known.head? ≠ some 'j' := by decide
  have unknown : safeSchemes.contains ('j' :: name) = false := by
    rw [List.contains_eq_mem]
    exact decide_eq_false fun listed => first _ listed rfl
  have judged : isSafe v = .ok (hasWholeHost rest && safeSchemes.contains ('j' :: name)) := by
    unfold isSafe
    rw [hd]
    dsimp only [bind, Except.bind]
    rw [split]
    rfl
  rw [judged, unknown, Bool.and_false]

end Address

/-! ### Attributes -/

def NamesAddress (name : String) : Prop := smallName name = "href" ∨ smallName name = "src"

/-- The attribute is judged as an address, if it is written as one. -/
def Attribute.PlainAddress (a : Attribute) : Prop :=
  NamesAddress (QualifiedName.ofText a.name).name → isAddress (QualifiedName.ofText a.name) = true

/-- The policy does not keep a lone closing bracket for the value of the attribute. -/
def Attribute.Closed (p : Policy) (a : Attribute) : Prop :=
  p.value? (QualifiedName.ofText a.name) a.value ≠ .ok (some ['>'])

/-- The attribute is not a lone bracket, and it was judged if it is an address. -/
structure Attribute.Judged (a : Attribute) : Prop where
  closed : a.value ≠ ['>']
  judged : NamesAddress a.name → ∃ d, decode a.value = .ok d ∧ ¬ Scripted (d.filter counts)

/-- What is spelled between the quotes is no script, if the attribute is an address. -/
def Quoted.Harmless (a : Quoted) : Prop :=
  NamesAddress (String.ofList a.name) → ∃ s, Spells a.value s ∧ ¬ Scripted s

/-- An address that is kept is kept as it was, and it was judged. -/
theorem Policy.value?_address {p : Policy} {q : QualifiedName} (address : isAddress q = true)
    {value v : List Char} (h : p.value? q value = .ok (some v)) :
    v = value ∧ ∃ d, decode value = .ok d ∧ ¬ Scripted (d.filter counts) := by
  unfold Policy.value? at h
  rw [if_pos address] at h
  split at h
  · cases h
  · obtain ⟨safe, judged, h⟩ := ok_of_bind h
    cases safe with
    | false => cases h
    | true =>
      obtain rfl : value = v := by simpa using Except.ok.inj h
      obtain ⟨d, hd, -⟩ := ok_of_bind judged
      refine ⟨rfl, d, hd, fun script => ?_⟩
      rw [Address.isSafe_of_scripted hd script] at judged
      cases judged

theorem Policy.turns_judged (p : Policy) :
    p.Turns (fun a => a.LocallyTight ∧ a.PlainAddress ∧ a.Closed p) Attribute.Judged where
  tight _ h := h.1
  value a v h hv := by
    refine ⟨fun e => ?_, fun named => ?_⟩
    · have bracket : v = ['>'] := e
      rw [bracket] at hv
      exact h.2.2 hv
    · obtain ⟨rfl, judged⟩ := Policy.value?_address (h.2.1 named) hv
      exact judged

theorem Attribute.Judged.harmless {a : Attribute} (h : a.Judged) (settled : a.Settled) :
    a.quoted.Harmless := by
  intro named
  rw [Attribute.quoted, String.ofList_toList] at named
  obtain ⟨d, hd, judged⟩ := h.judged named
  have spelled : ∃ s, Spells a.written s ∧ Follows s (d.filter counts) := by
    cases single : a.single with
    | true =>
      rw [Attribute.written_of_single single]
      exact Writer.spells_single hd (List.contains_iff_mem.1 (Bool.and_eq_true_iff.1 single).1)
    | false => exact Writer.spells_double (settled single) hd
  obtain ⟨s, spells, follows⟩ := spelled
  exact ⟨s, spells, fun script => judged (script.of_follows follows)⟩

theorem Quoted.Harmless.uniform {a : Quoted} (h : a.Harmless) : a.uniform.Harmless := by
  intro named
  obtain ⟨s, spells, harmless⟩ := h named
  exact ⟨s, spells.normalizeBreaks, harmless⟩

/-- A browser reads no script from what is harmless. -/
theorem Quoted.Harmless.read {a : Quoted} (h : a.Harmless) (named : NamesAddress a.read.name) :
    ¬ IsScript a.read.value := by
  rw [Quoted.read, NamesAddress, smallName_lower] at named
  obtain ⟨s, spells, harmless⟩ := h named
  exact fun script => harmless (script.scripted spells.visible)

/-- What is written for a fragment runs no script, where every address is judged and no value is a lone
bracket. -/
theorem runsNoScript_sanitize {p : Policy} {s out : List Char}
    (plain : Tree.AllCarry Attribute.PlainAddress (Tree.read p.keepsElement (stripContainers s)))
    (closed : Tree.AllCarry (Attribute.Closed p) (Tree.read p.keepsElement (stripContainers s)))
    (h : sanitize p s = .ok out) : RunsNoScript out := by
  have read := Tree.allCarry_and _ (read_locallyTight p s) (Tree.allCarry_and _ plain closed)
  have markup : Reduced p Quoted.Harmless out :=
    reduced_of_sanitize p.turns_judged (Writer.writes_settled (fun _ judged => judged.closed)
      fun _ _ judged settled => judged.harmless settled) read h
  have stable : ∀ q : Quoted, q.Harmless → q.uniform.Harmless := fun _ harmless => harmless.uniform
  intro t bad ht a ha named
  obtain ⟨q, harmless, rfl⟩ := (lexemes_made stable markup _ ht).2 a ha
  refine harmless.read ?_
  rcases named with named | named
  · exact .inl (by rw [named]; decide)
  · exact .inr (by rw [named]; decide)

/-! ### Links -/

def referencedLink : List Char := "<a href=\"&#106;avascript:alert(1)\">x</a>".toList

def bracedLink : List Char := "<a {x}href=\"javascript:alert(1)\">x</a>".toList

def bracketLink : List Char := "<a title=\">\" href=\"javascript:&#49;\">x</a>".toList

theorem keepsElement_a (p : Policy) : p.keepsElement "a" = true := by
  have listed : contentElements.contains "a" = true := by decide
  rw [Policy.keepsElement, listed, Bool.true_or]

theorem read_referencedLink : Tree.read ({} : Policy).keepsElement (stripContainers referencedLink) =
    [.element "a" .page [⟨"href", "&#106;avascript:alert(1)".toList⟩] [.text ['x']]] := by
  have strip : stripContainers referencedLink = referencedLink := by decide +kernel
  rw [strip]
  rfl

theorem read_bracedLink : Tree.read ({} : Policy).keepsElement (stripContainers bracedLink) =
    [.element "a" .page [⟨"\x7bx\x7dhref", "javascript:alert(1)".toList⟩] [.text ['x']]] := by
  have strip : stripContainers bracedLink = bracedLink := by decide +kernel
  rw [strip]
  rfl

theorem read_bracketLink : Tree.read ({} : Policy).keepsElement (stripContainers bracketLink) =
    [.element "a" .page [⟨"title", ['>']⟩, ⟨"href", "javascript:&#49;".toList⟩] [.text ['x']]] := by
  have strip : stripContainers bracketLink = bracketLink := by decide +kernel
  rw [strip]
  rfl

/-- The address is not judged, and it is written as one. -/
theorem sanitize_bracedLink :
    sanitize {} bracedLink = .ok "<a href=\"javascript:alert(1)\">x</a>".toList := by
  have value : ({} : Policy).value? (QualifiedName.ofText "\x7bx\x7dhref") "javascript:alert(1)".toList =
      .ok (some "javascript:alert(1)".toList) := rfl
  have left : ({} : Policy).attributes [⟨"\x7bx\x7dhref", "javascript:alert(1)".toList⟩] =
      .ok [⟨"href", "javascript:alert(1)".toList⟩] := by
    rw [Policy.attributes, value]
    rfl
  rw [sanitize_element read_bracedLink (keepsElement_a _) left]
  rfl

/-- With the reference read, digits only follow the colon. -/
theorem isSafe_bracketLink : Address.isSafe "javascript:&#49;".toList = .ok true := by
  have decoded : decode "javascript:&#49;".toList = .ok "javascript:1".toList := rfl
  rw [Address.isSafe, decoded]
  rfl

/-- The address is kept, and its ampersand is escaped where it is written. -/
theorem sanitize_bracketLink : sanitize {} bracketLink =
    .ok "<a title=\">\" href=\"javascript:&amp;#49;\">x</a>".toList := by
  have kept : ({} : Policy).keepsAttribute (QualifiedName.ofText "href").name = true := by decide
  have address : isAddress (QualifiedName.ofText "href") = true := by decide
  have value : ({} : Policy).value? (QualifiedName.ofText "href") "javascript:&#49;".toList =
      .ok (some "javascript:&#49;".toList) := by
    rw [Policy.value?, kept, address, isSafe_bracketLink]
    rfl
  have left : ({} : Policy).attributes [⟨"title", ['>']⟩, ⟨"href", "javascript:&#49;".toList⟩] =
      .ok [⟨"title", ['>']⟩, ⟨"href", "javascript:&#49;".toList⟩] := by
    rw [Policy.attributes, Policy.attributes, value]
    rfl
  rw [sanitize_element read_bracketLink (keepsElement_a _) left]
  rfl

/-- A browser reads an ampersand and what is left of the reference. -/
theorem glyphs_bracketLink : (Reference.glyphs "javascript:&amp;#49;".toList).map Glyph.char =
    "javascript:&#49;".toList := by
  have listed := @Reference.lookup_bare_escape (['a', 'm', 'p'], ['2', '6']) (by decide)
  have amp : Reference.readAt? ('a' :: "mp;#49;".toList) = some (['&'], 4) :=
    (Reference.readAt?_name (by decide) _).trans
      (Reference.nameAt?_semicolon listed "#49;".toList)
  have start := @Spells.glyphsFrom_append "javascript:".toList (by decide) "&amp;#49;".toList
  have reference : Reference.glyphsFrom 0 "&amp;#49;".toList =
      ⟨'&', true⟩ :: "#49;".toList.map (⟨·, false⟩) := Spells.glyphsFrom_reference amp
  rw [reference] at start
  exact congrArg (List.map Glyph.char) start

end Markup

namespace Resolver

open Markup

/-- Where every address is judged and no value is a lone closing bracket, no address of a clean fragment runs
a script, whatever a browser reads for its references and whatever it passes over. -/
theorem addresses_clean (r : Resolver) (fragment : List Char)
    (plain : Tree.AllCarry Attribute.PlainAddress
      (Tree.read r.policy.keepsElement (stripContainers fragment)))
    (closed : Tree.AllCarry (Attribute.Closed r.policy)
      (Tree.read r.policy.keepsElement (stripContainers fragment))) :
    RunsNoScript (r.clean fragment).value.toList := by
  unfold clean
  split
  · rename_i out h
    rw [String.toList_ofList]
    exact runsNoScript_sanitize plain closed h
  · intro t bad ht
    have nothing : lexemes "".toList = [] := lexemes_nil
    rw [nothing] at ht
    cases ht

theorem addresses_clean_referencedLink :
    Tree.AllCarry Attribute.PlainAddress
        (Tree.read ({} : Policy).keepsElement (stripContainers referencedLink)) ∧
      Tree.AllCarry (Attribute.Closed {})
        (Tree.read ({} : Policy).keepsElement (stripContainers referencedLink)) ∧
      RunsNoScript (clean { policy := {} } referencedLink).value.toList := by
  have plain : Tree.AllCarry Attribute.PlainAddress
      (Tree.read ({} : Policy).keepsElement (stripContainers referencedLink)) := by
    rw [read_referencedLink]
    simp only [Tree.AllCarry, Tree.Carries, List.mem_singleton, forall_eq, and_true]
    exact fun _ => rfl
  have closed : Tree.AllCarry (Attribute.Closed {})
      (Tree.read ({} : Policy).keepsElement (stripContainers referencedLink)) := by
    rw [read_referencedLink]
    simp only [Tree.AllCarry, Tree.Carries, List.mem_singleton, forall_eq, and_true]
    intro h
    obtain ⟨same, -⟩ := Policy.value?_address rfl h
    cases same
  exact ⟨plain, closed, addresses_clean { policy := {} } referencedLink plain closed⟩

/-- A vocabulary before its name hides an address from the judgement. -/
theorem not_addresses_clean_bracedLink :
    ¬ RunsNoScript (clean { policy := {} } bracedLink).value.toList := by
  rw [toList_clean sanitize_bracedLink]
  intro none
  have ht : Lexeme.tag ⟨false, "a", [⟨"href", "javascript:alert(1)".toList⟩], false⟩ false ∈
      lexemes "<a href=\"javascript:alert(1)\">x</a>".toList := by
    rw [lexemes, lexemesFrom_some rfl]
    exact List.mem_cons_self
  refine none _ _ ht _ List.mem_cons_self (.inl rfl)
    ⟨"javascript".toList, "alert(1)".toList, ?_, ?_, 'a', ?_⟩
  · decide
  · decide
  · decide

/-- After a lone bracket a browser reads a reference where a digit was judged. -/
theorem not_addresses_clean_bracketLink :
    ¬ RunsNoScript (clean { policy := {} } bracketLink).value.toList := by
  rw [toList_clean sanitize_bracketLink]
  intro none
  have ht : Lexeme.tag
      ⟨false, "a", [⟨"title", ['>']⟩, ⟨"href", "javascript:&amp;#49;".toList⟩], false⟩ false ∈
      lexemes "<a title=\">\" href=\"javascript:&amp;#49;\">x</a>".toList := by
    rw [lexemes, lexemesFrom_some rfl]
    exact List.mem_cons_self
  refine none _ _ ht _ (List.mem_cons_of_mem _ List.mem_cons_self) (.inl rfl)
    ⟨"javascript".toList, "&#49;".toList, ?_, ?_, '#', ?_⟩
  · rw [shownAddress, glyphs_bracketLink]
    decide
  · decide
  · decide

end Resolver
end PageSkins
