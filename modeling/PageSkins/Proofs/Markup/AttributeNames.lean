import Mathlib.Tactic.SplitIfs
import PageSkins.Markup.Lexer

/-!
# Names of attributes as they are read

Past its first character, the name of an attribute that was read from markup
holds nothing that ends a name: no white space, no solidus, no closing bracket
and no equals sign. Nor does it hold a zero character. Such a name reads back
as itself wherever a tag is written again. The lexer's drafts carry the
property, with names held last character first.
-/

namespace PageSkins.Markup

/-- A character that goes on with the name of an attribute and stays as it is. -/
def isNameChar (c : Char) : Bool :=
  !isSpace c && c != '/' && c != '>' && c != '=' && c != '\x00'

/-- The first character is not restricted: a name may begin with an equals sign. -/
def TightName (name : List Char) : Prop := ∀ c ∈ name.tail, isNameChar c = true

def Attribute.Tight (a : Attribute) : Prop := TightName a.name.toList

def Lexeme.Tight : Lexeme → Prop
  | .tag t _ => ∀ a ∈ t.attributes, a.Tight
  | _ => True

theorem toLower_eq_or_isLower (c : Char) : c.toLower = c ∨ c.toLower.isLower = true := by
  by_cases h : 'A'.val ≤ c.val ∧ c.val ≤ 'Z'.val
  · right
    have hv : c.toLower.val = c.val + 32 := by
      unfold Char.toLower
      rw [dif_pos h]
      rfl
    have lower : 65 ≤ c.val.toNat := UInt32.le_iff_toNat_le.1 h.1
    have upper : c.val.toNat ≤ 90 := UInt32.le_iff_toNat_le.1 h.2
    have sum : (c.val + 32).toNat = c.val.toNat + 32 := by
      rw [UInt32.toNat_add]
      exact Nat.mod_eq_of_lt (by change c.val.toNat + 32 < 4294967296; omega)
    have low : 'a'.val ≤ c.val + 32 :=
      UInt32.le_iff_toNat_le.2 (by rw [sum]; change 97 ≤ _; omega)
    have high : c.val + 32 ≤ 'z'.val :=
      UInt32.le_iff_toNat_le.2 (by rw [sum]; change _ ≤ 122; omega)
    rw [← hv] at low high
    exact Bool.and_eq_true_iff.2 ⟨decide_eq_true low, decide_eq_true high⟩
  · left
    unfold Char.toLower
    rw [dif_neg h]

theorem toLower_toLower (c : Char) : c.toLower.toLower = c.toLower := by
  rcases toLower_eq_or_isLower c with same | lower
  · rw [same, same]
  · have notUpper : ¬ ('A'.val ≤ c.toLower.val ∧ c.toLower.val ≤ 'Z'.val) := by
      rintro ⟨-, upper⟩
      have first := of_decide_eq_true (Bool.and_eq_true_iff.1 lower).1
      have low : 97 ≤ c.toLower.val.toNat := UInt32.le_iff_toNat_le.1 first
      have high : c.toLower.val.toNat ≤ 90 := UInt32.le_iff_toNat_le.1 upper
      omega
    generalize c.toLower = e at notUpper
    unfold Char.toLower
    rw [dif_neg notUpper]

theorem isNameChar_of_isLower {c : Char} (h : c.isLower = true) : isNameChar c = true := by
  have apart : ∀ d : Char, d.isLower = false → c ≠ d := by
    rintro d hd rfl
    rw [h] at hd
    cases hd
  simp [isNameChar, isSpace, apart ' ' (by decide), apart '\t' (by decide), apart '\n' (by decide),
    apart '\x0c' (by decide), apart '\r' (by decide), apart '/' (by decide), apart '>' (by decide),
    apart '=' (by decide), apart '\x00' (by decide)]

theorem isNameChar_toLower {c : Char} (h : isNameChar c = true) :
    isNameChar c.toLower = true := by
  rcases toLower_eq_or_isLower c with same | lower
  · rw [same]
    exact h
  · exact isNameChar_of_isLower lower

/-- What ends a name has been looked for before a character is pushed, and a zero is replaced. -/
theorem isNameChar_visible {c : Char} (space : ¬ isSpace c = true) (solidus : c ≠ '/')
    (close : c ≠ '>') (eq : c ≠ '=') : isNameChar (visible c) = true := by
  unfold visible
  split
  · decide
  · rename_i zero
    simp [isNameChar, eq, close, space, solidus, zero]

namespace Draft

/-- Every name of a draft is tight. The first character of a name stands last. -/
def Tight (d : Draft) : Prop := ∀ x ∈ d.attributes, ∀ c ∈ x.1.dropLast, isNameChar c = true

theorem Tight.note {d : Draft} (h : d.Tight) (f : Fault) : (d.note f).Tight := h

theorem Tight.noteZero {d : Draft} (h : d.Tight) (c : Char) : (d.noteZero c).Tight := by
  unfold Draft.noteZero
  split
  · exact h
  · exact h

theorem Tight.addAttribute {d : Draft} (h : d.Tight) (c : Char) : (d.addAttribute c).Tight := by
  intro x hx
  rcases List.mem_cons.1 hx with rfl | hx
  · simp
  · exact h x hx

theorem Tight.pushName {d : Draft} (h : d.Tight) {c : Char} (hc : isNameChar (visible c) = true) :
    (d.pushName c).Tight := by
  unfold Draft.pushName
  split
  case h_1 n v rest hd =>
    intro x hx
    rcases List.mem_cons.1 hx with rfl | hx
    · have hn : ∀ e ∈ n.dropLast, isNameChar e = true := h (n, v) (by rw [hd]; exact List.mem_cons_self)
      intro e he
      cases n with
      | nil => simp at he
      | cons a n =>
        rcases List.mem_cons.1 he with rfl | he
        · exact hc
        · exact hn e he
    · exact h x (by rw [hd]; exact List.mem_cons_of_mem _ hx)
  case h_2 => exact h

theorem Tight.pushValue {d : Draft} (h : d.Tight) (c : Char) : (d.pushValue c).Tight := by
  unfold Draft.pushValue
  split
  case h_1 n v rest hd =>
    intro x hx
    rcases List.mem_cons.1 hx with rfl | hx
    · exact h (n, v) (by rw [hd]; exact List.mem_cons_self)
    · exact h x (by rw [hd]; exact List.mem_cons_of_mem _ hx)
  case h_2 => exact h

theorem Tight.endName {d : Draft} (h : d.Tight) : d.endName.Tight := by
  unfold Draft.endName
  split
  case h_1 n v rest hd =>
    have small : ({ d with attributes := (n.map Char.toLower, v) :: rest } : Draft).Tight := by
      intro x hx
      rcases List.mem_cons.1 hx with rfl | hx
      · intro c hc
        rw [← List.map_dropLast] at hc
        obtain ⟨e, he, rfl⟩ := List.mem_map.1 hc
        exact isNameChar_toLower (h (n, v) (by rw [hd]; exact List.mem_cons_self) e he)
      · exact h x (by rw [hd]; exact List.mem_cons_of_mem _ hx)
    dsimp only
    split
    · exact small
    · exact small
  case h_2 => exact h

theorem mem_distinct {a : Attribute} : ∀ {as : List Attribute} {seen : List String},
    a ∈ distinct as seen → a ∈ as
  | [], _, h => by simp [distinct] at h
  | b :: rest, seen, h => by
    unfold distinct at h
    split at h
    · exact List.mem_cons_of_mem _ (mem_distinct h)
    · rcases List.mem_cons.1 h with rfl | h
      · exact List.mem_cons_self
      · exact List.mem_cons_of_mem _ (mem_distinct h)

theorem Tight.finish {d : Draft} (h : d.Tight) (selfClosing : Bool) :
    (d.finish selfClosing).Tight := by
  intro a ha
  obtain ⟨x, hx, rfl⟩ := List.mem_map.1 (mem_distinct ha)
  intro c hc
  simp only [String.toList_ofList, List.tail_reverse, List.mem_reverse] at hc
  exact h x (List.mem_reverse.1 hx) c hc

end Draft

/-- What a character comes to keeps names tight, inside the tag and once it is done. -/
def Move.Tight : Move → Prop
  | .go _ d => d.Tight
  | .done l => l.Tight

theorem beforeName_tight {d : Draft} (h : d.Tight) (c : Char) : (beforeName d c).Tight := by
  unfold beforeName
  split_ifs
  · exact h
  · exact h.finish false
  · exact h
  · exact (h.note .badName).addAttribute c
  · exact (h.noteZero c).addAttribute c

theorem inName_tight {d : Draft} (h : d.Tight) (c : Char) : (inName d c).Tight := by
  unfold inName
  split_ifs with eq close space solidus quote
  · exact h.endName
  · exact h.endName.finish false
  · exact h.endName
  · exact h.endName
  all_goals have hc : isNameChar (visible c) = true := isNameChar_visible space solidus close eq
  · exact (h.note .badName).pushName hc
  · exact (h.noteZero c).pushName hc

theorem afterName_tight {d : Draft} (h : d.Tight) (c : Char) : (afterName d c).Tight := by
  unfold afterName
  split_ifs
  · exact h
  · exact h
  · exact h.finish false
  · exact h
  · exact (h.note .other).addAttribute c
  · exact (h.noteZero c).addAttribute c

theorem inUnquoted_tight {d : Draft} (h : d.Tight) (c : Char) : (inUnquoted d c).Tight := by
  unfold inUnquoted
  split_ifs
  · exact h
  · exact h.finish false
  · exact (h.note .other).pushValue c
  · exact (h.noteZero c).pushValue c

theorem beforeValue_tight {d : Draft} (h : d.Tight) (c : Char) : (beforeValue d c).Tight := by
  unfold beforeValue
  split_ifs
  · exact h
  · exact h
  · exact h
  · exact (h.note .other).finish false
  · exact inUnquoted_tight h c

theorem move_tight {d : Draft} (h : d.Tight) (place : Place) (c : Char) : (move place d c).Tight := by
  cases place with
  | tagName =>
    simp only [move]
    split_ifs
    · exact h
    · exact h.finish false
    · exact h
    · exact h.noteZero c
  | beforeName => exact beforeName_tight h c
  | name => exact inName_tight h c
  | afterName => exact afterName_tight h c
  | beforeValue => exact beforeValue_tight h c
  | doubleQuoted =>
    simp only [move]
    split_ifs
    · exact h
    · exact (h.noteZero c).pushValue c
  | singleQuoted =>
    simp only [move]
    split_ifs
    · exact h
    · exact (h.noteZero c).pushValue c
  | unquoted => exact inUnquoted_tight h c
  | afterValue =>
    simp only [move]
    split_ifs
    · exact h
    · exact h.finish false
    · exact h
    · exact beforeName_tight (h.note .other) c
  | solidus =>
    simp only [move]
    split_ifs
    · exact h.finish true
    · exact beforeName_tight (h.note .other) c

theorem scanTag_tight {s : List Char} : ∀ {place : Place} {d : Draft} {l : Lexeme} {rest : List Char},
    d.Tight → scanTag place d s = (.inl l, rest) → l.Tight := by
  induction s with
  | nil =>
    intro place d l rest _ h
    simp [scanTag] at h
  | cons c s ih =>
    intro place d l rest hd h
    have next := move_tight hd place c
    simp only [scanTag] at h
    split at h
    · rename_i place' d' hm
      rw [hm] at next
      exact ih next h
    · rename_i l' hm
      rw [hm] at next
      have same : l' = l := Sum.inl.inj (Prod.mk.inj h).1
      rw [← same]
      exact next

theorem scanFrom_tight (mark : List Char) (closing : Bool) (c : Char) (s : List Char) :
    (scanFrom mark closing c s).1.Tight := by
  unfold scanFrom
  split
  · rename_i l rest h
    exact scanTag_tight (d := ⟨closing, [c], [], none⟩) (by simp [Draft.Tight]) h
  · trivial

theorem scanDeclaration_tight (literal : Bool) (s : List Char) :
    (scanDeclaration literal s).1.Tight := by
  unfold scanDeclaration
  split
  · trivial
  · split
    · trivial
    · split
      · split
        · dsimp only
          split <;> trivial
        · trivial
      · trivial

theorem scanMarkup_tight (literal : Bool) (s : List Char) : (scanMarkup literal s).1.Tight := by
  unfold scanMarkup
  split
  · exact scanDeclaration_tight literal _
  · trivial
  · trivial
  · split
    · exact scanFrom_tight _ _ _ _
    · trivial
  · trivial
  · trivial
  · split
    · exact scanFrom_tight _ _ _ _
    · trivial
  · trivial

theorem scan_tight {literal : Bool} {s : List Char} {l : Lexeme} {rest : List Char}
    (h : scan literal s = some (l, rest)) : l.Tight := by
  unfold scan at h
  split at h
  · cases h
  · have := scanMarkup_tight literal
    obtain ⟨rfl, -⟩ := Prod.mk.inj (Option.some.inj h).symm
    exact this _
  · cases h; trivial
  · cases h; trivial
  · split at h
    · cases h; trivial
    · cases h; trivial

theorem scanText_tight {element : String} {written s : List Char} {l : Lexeme} {rest : List Char}
    (h : scanText element written s = some (l, rest)) : l.Tight := by
  unfold scanText at h
  split at h
  · cases h
  · cases h; trivial
  · cases h; trivial
  · dsimp only at h
    split at h
    · split at h
      · cases h
        intro a ha
        cases ha
      · split at h
        · split at h
          · rename_i l' r' hs
            cases h
            exact scanTag_tight (by simp [Draft.Tight]) hs
          · cases h; trivial
        · cases h; trivial
      · cases h; trivial
    · cases h; trivial
  · cases h; trivial
  · split at h
    · cases h; trivial
    · cases h; trivial

end PageSkins.Markup
