import Mathlib.Tactic.SplitIfs
import PageSkins.Markup.Tree

/-!
# The lexemes of a whole text

A text is cut into lexemes from its start to its end. Line breaks are made
uniform first, and no element changes how the text after it is read: every tag
is reported as a tag. Each lexeme takes something off the text, which is all
that is needed to reach the end.
-/

namespace PageSkins.Markup

theorem length_scanTag : ∀ (s : List Char) (place : Place) (d : Draft),
    (scanTag place d s).2.length ≤ s.length
  | [], _, _ => Nat.le_refl _
  | c :: s, place, d => by
    unfold scanTag
    split
    · exact Nat.le_succ_of_le (length_scanTag s _ _)
    · exact Nat.le_succ _

theorem length_afterComment (s : List Char) : (afterComment s).length ≤ s.length := by
  induction s using afterComment.induct with
  | case1 => exact Nat.le_refl _
  | case2 s =>
    simp only [afterComment, List.length_cons]
    omega
  | case3 s =>
    simp only [afterComment, List.length_cons]
    omega
  | case4 c s _ _ ih =>
    simp only [afterComment, List.length_cons]
    omega

theorem length_afterCommentDash (s : List Char) : (afterCommentDash s).length ≤ s.length + 1 := by
  induction s using afterCommentDash.induct with
  | case1 s => simp only [afterCommentDash, List.length_cons]; omega
  | case2 s ih => simp only [afterCommentDash, List.length_cons]; omega
  | case3 s =>
    have h := length_afterComment ('-' :: '-' :: s)
    simp only [afterCommentDash, List.length_cons] at h ⊢
    omega
  | case4 s =>
    have h := length_afterComment s
    simp only [afterCommentDash]
    omega

theorem length_afterCommentOpening (s : List Char) :
    (afterCommentOpening s).length ≤ s.length := by
  induction s using afterCommentOpening.induct with
  | case1 s => simp only [afterCommentOpening, List.length_cons]; omega
  | case2 s ih => simp only [afterCommentOpening, List.length_cons]; omega
  | case3 s =>
    have h := length_afterCommentDash s
    simp only [afterCommentOpening, List.length_cons]
    omega
  | case4 s =>
    simp only [afterCommentOpening]
    exact length_afterComment s

theorem length_afterBracket (s : List Char) : (afterBracket s).length ≤ s.length := by
  have h := (List.dropWhile_suffix (· != '>') (l := s)).length_le
  simp only [afterBracket, List.length_drop]
  omega

theorem length_afterWord? : ∀ {word s rest : List Char},
    afterWord? word s = some rest → rest.length ≤ s.length
  | [], _, _, h => by
    cases h
    exact Nat.le_refl _
  | _ :: _, [], _, h => by cases h
  | w :: ws, c :: s, rest, h => by
    unfold afterWord? at h
    split at h
    · exact Nat.le_succ_of_le (length_afterWord? h)
    · cases h

theorem length_scanDeclaration (s : List Char) : (scanDeclaration false s).2.length ≤ s.length := by
  unfold scanDeclaration
  split
  · rename_i r
    have h := length_afterCommentOpening r
    simp only [List.length_cons]
    omega
  · split
    · rename_i r hr
      exact Nat.le_trans (length_afterBracket r) (length_afterWord? hr)
    · split
      · exact length_afterBracket _
      · exact length_afterBracket _

theorem length_scanFrom (mark : List Char) (closing : Bool) (c : Char) (s : List Char) :
    (scanFrom mark closing c s).2.length ≤ s.length := by
  have h := length_scanTag s .tagName ⟨closing, [c], [], none⟩
  unfold scanFrom
  split
  · rename_i hs
    rw [hs] at h
    exact h
  · rename_i hs
    rw [hs] at h
    exact h

theorem length_scanMarkup (s : List Char) : (scanMarkup false s).2.length ≤ s.length := by
  unfold scanMarkup
  split
  · exact Nat.le_succ_of_le (length_scanDeclaration _)
  · exact Nat.zero_le _
  · simp only [List.length_cons]
    omega
  · rename_i c r _
    split
    · have h := length_scanFrom ['<', '/'] true c r
      simp only [List.length_cons]
      omega
    · have h := (List.dropWhile_suffix (· != '>') (l := c :: r)).length_le
      simp only [List.length_drop, List.length_cons] at h ⊢
      omega
  · exact Nat.le_succ _
  · rename_i r
    exact Nat.le_succ_of_le (length_afterBracket r)
  · rename_i c r _ _ _
    split
    · exact Nat.le_succ_of_le (length_scanFrom _ _ _ _)
    · exact Nat.le_refl _
  · exact Nat.le_refl _

theorem length_of_scan {s : List Char} {l : Lexeme} {rest : List Char}
    (h : scan false s = some (l, rest)) : rest.length < s.length := by
  unfold scan at h
  split at h
  · cases h
  · rename_i s
    have hs := length_scanMarkup s
    rw [(Option.some.inj h)] at hs
    exact Nat.lt_succ_of_le hs
  · cases h
    exact Nat.lt_succ_self _
  · cases h
    exact Nat.lt_succ_self _
  · rename_i c s _ _ _
    split at h
    · cases h
      exact Nat.lt_succ_of_le (List.dropWhile_suffix _).length_le
    · cases h
      exact Nat.lt_succ_of_le (List.dropWhile_suffix _).length_le

/-- The lexemes of a text whose line breaks are uniform. -/
def lexemesFrom (s : List Char) : List Lexeme :=
  match h : scan false s with
  | some (l, rest) =>
    have := length_of_scan h
    l :: lexemesFrom rest
  | none => []
termination_by s.length

def lexemes (s : List Char) : List Lexeme := lexemesFrom (normalizeBreaks s)

theorem lexemesFrom_none {s : List Char} (h : scan false s = none) : lexemesFrom s = [] := by
  rw [lexemesFrom]
  split
  · rename_i h'
    rw [h] at h'
    cases h'
  · rfl

theorem lexemes_nil : lexemes [] = [] := by
  rw [lexemes, lexemesFrom_none rfl]

theorem lexemesFrom_some {s : List Char} {l : Lexeme} {rest : List Char}
    (h : scan false s = some (l, rest)) : lexemesFrom s = l :: lexemesFrom rest := by
  rw [lexemesFrom]
  split
  · rename_i h'
    rw [h] at h'
    cases h'
    rfl
  · rename_i h'
    rw [h] at h'
    cases h'

/-- What holds of the lexeme at the start of every text of a kind, where the rest of the text is of that
kind again, holds of every lexeme. -/
theorem forall_lexemesFrom {Q : Lexeme → Prop} {K : List Char → Prop}
    (step : ∀ s l rest, K s → scan false s = some (l, rest) → Q l ∧ K rest) :
    ∀ {s : List Char}, K s → ∀ l ∈ lexemesFrom s, Q l := by
  intro s
  induction hn : s.length using Nat.strongRecOn generalizing s with
  | ind n ih =>
    intro hs l hl
    cases h : scan false s with
    | none =>
      rw [lexemesFrom_none h] at hl
      cases hl
    | some p =>
      obtain ⟨l', rest⟩ := p
      obtain ⟨first, others⟩ := step s l' rest hs h
      rw [lexemesFrom_some h] at hl
      rcases List.mem_cons.1 hl with rfl | hl
      · exact first
      · exact ih rest.length (by rw [← hn]; exact length_of_scan h) rfl others l hl

end PageSkins.Markup
