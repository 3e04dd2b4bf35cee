import PageSkins.Proofs.Text.Patterns
import PageSkins.Stylesheet

/-!
# Dangerous constructs

What is put in the place of a construct begins and ends with a solidus, which stands
in no construct. So a style sheet that was made safe holds none, and one that holds
none is left as it is.
-/

namespace PageSkins.Stylesheet

open Text

theorem framed_of_dangerous : ∀ p ∈ dangerous, p.framed false = true := by decide

/-- No construct goes past a solidus. -/
theorem avoids_solidus : ∀ p ∈ dangerous, p.avoids '/' = true := by decide

theorem occursIn_blocked {p : Pattern} (hp : p ∈ dangerous) (s : List Char) :
    p.occursIn (blocked ++ s) = p.occursIn s := by
  have comment : ∀ p ∈ dangerous, p.occursIn "/* blocked *".toList = false := by decide
  have cut : blocked ++ s = "/* blocked *".toList ++ '/' :: s := rfl
  rw [cut, Pattern.occursIn_append_cons (framed_of_dangerous p hp) (avoids_solidus p hp), comment p hp,
    Bool.false_or]

theorem isDangerous_eq_false_iff {s : List Char} :
    isDangerous s = false ↔ ∀ p ∈ dangerous, p.occursIn s = false := by
  rw [isDangerous, List.any_eq_false]
  simp only [Bool.not_eq_true]

/-- A style sheet is dangerous if and only if some of its text is a match of one of the constructs. -/
theorem isDangerous_iff {s : List Char} :
    isDangerous s = true ↔ ∃ p ∈ dangerous, ∃ mid, mid <:+: s ∧ p.Matches mid := by
  rw [isDangerous, List.any_eq_true]
  exact exists_congr fun p => and_congr_right fun hp =>
    Pattern.occursIn_iff (framed_of_dangerous p hp)

/-- The constructs that were taken out, and those that did not occur, do not occur in the end. -/
theorem occursIn_foldl_replace {ps : List Pattern} (known : ∀ p ∈ ps, p ∈ dangerous) {s : List Char}
    {q : Pattern} (hq : q ∈ dangerous) (h : q ∈ ps ∨ q.occursIn s = false) :
    q.occursIn (ps.foldl (fun s p => p.replace blocked s) s) = false := by
  induction ps generalizing s with
  | nil => exact h.resolve_left List.not_mem_nil
  | cons p ps ih =>
    rw [List.foldl_cons]
    -- the step that takes `q` out makes it clear, and every later one keeps it so
    refine ih (fun p hp => known p (List.mem_cons_of_mem _ hp)) ?_
    have hp := known p List.mem_cons_self
    rcases h with member | clear
    · rcases List.mem_cons.1 member with rfl | later
      · exact Or.inr (Pattern.occursIn_replace (framed_of_dangerous q hq) (avoids_solidus q hq)
          (occursIn_blocked hq) s)
      · exact Or.inl later
    · refine Or.inr ?_
      cases again : q.occursIn (p.replace blocked s) with
      | false => rfl
      | true =>
        have before := Pattern.occursIn_of_replace (framed_of_dangerous p hp) (avoids_solidus q hq)
          (occursIn_blocked hq) again
        rw [clear] at before
        cases before

theorem isDangerous_sanitize (css : List Char) : isDangerous (sanitize css) = false :=
  isDangerous_eq_false_iff.2 fun _ hq =>
    occursIn_foldl_replace (fun _ hp => hp) hq (Or.inl hq)

/-- A harmless style sheet stays as it is. -/
theorem sanitize_of_not_dangerous {css : List Char} (h : isDangerous css = false) :
    sanitize css = css := by
  have clear := isDangerous_eq_false_iff.1 h
  unfold sanitize
  generalize dangerous = ps at clear
  induction ps with
  | nil => rfl
  | cons p ps ih =>
    rw [List.foldl_cons, Pattern.replace_of_not_occursIn (clear p List.mem_cons_self)]
    exact ih fun q hq => clear q (List.mem_cons_of_mem _ hq)

/-- Some of the text, from a first character to a last, is a match of one of the constructs. -/
def HasMatch (css : List Char) : Prop :=
  ∃ p ∈ dangerous, ∃ mid, mid <:+: css ∧ p.Matches mid

theorem isDangerous_eq_false_iff_hasMatch {css : List Char} :
    isDangerous css = false ↔ ¬ HasMatch css := by
  rw [← Bool.not_eq_true, isDangerous_iff]
  exact Iff.rfl

/-- No style sheet that was made safe holds a match of a construct. So making it safe once more changes
nothing, and the style sheets that are left as they are are those without a match. -/
theorem sanitize_settled (css : List Char) :
    ¬ HasMatch (sanitize css) ∧ sanitize (sanitize css) = sanitize css ∧
      (sanitize css = css ↔ ¬ HasMatch css) := by
  have harmless := isDangerous_sanitize css
  refine ⟨isDangerous_eq_false_iff_hasMatch.1 harmless, sanitize_of_not_dangerous harmless, ?_, ?_⟩
  · intro same
    rw [same] at harmless
    exact isDangerous_eq_false_iff_hasMatch.1 harmless
  · intro clear
    exact sanitize_of_not_dangerous (isDangerous_eq_false_iff_hasMatch.2 clear)

end PageSkins.Stylesheet
