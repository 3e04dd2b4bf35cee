import PageSkins.Proofs.Markup.ReadReferences
import PageSkins.Proofs.Markup.Stability
import PageSkins.Resolver

/-!
# Escaped text

In escaped text every ampersand begins one of five references, and the writer
knows them all. So the text is read as one piece of text, none of its references
is taken apart, and it is written as it was.
-/

namespace PageSkins

namespace Text

/-- The bodies of the references that are written for characters. -/
def escapeBodies : List (List Char) := ["amp", "lt", "gt", "quot", "#x27"].map String.toList

/-- A reference stands for a character that has a meaning in markup; any other stands as it is. -/
theorem escapeChar_cases (c : Char) :
    (c ∈ ['&', '<', '>', '"', '\''] ∧ ∃ body ∈ escapeBodies, escapeChar c = '&' :: (body ++ [';'])) ∨
      escapeChar c = [c] ∧ Markup.Writer.escapeChar c = [c] := by
  by_cases special : c ∈ ['&', '<', '>', '"', '\'']
  · have written : ∀ d ∈ ['&', '<', '>', '"', '\''],
        (escapeBodies.any fun body => escapeChar d == '&' :: (body ++ [';'])) = true :=
      forall_mem_of_all (by decide)
    obtain ⟨body, known, same⟩ := List.any_eq_true.1 (written c special)
    exact .inl ⟨special, body, known, eq_of_beq same⟩
  · simp only [List.mem_cons, List.not_mem_nil, or_false, not_or] at special
    refine .inr ⟨?_, ?_⟩
    · simp [escapeChar, special]
    · simp [Markup.Writer.escapeChar, special]

theorem escape_cons (c : Char) (s : List Char) : escape (c :: s) = escapeChar c ++ escape s :=
  List.flatMap_cons

/-- Escaping brings in visible characters only. -/
theorem mem_escape {s : List Char} {c : Char} (h : c ∈ escape s) : c ∈ s ∨ 32 < c.toNat := by
  have visible : (escapeBodies.all fun body =>
      ('&' :: (body ++ [';'])).all fun d => decide (32 < d.toNat)) = true := by decide
  obtain ⟨d, hd, hc⟩ := List.mem_flatMap.1 h
  rcases escapeChar_cases d with ⟨-, body, known, written⟩ | ⟨plain, -⟩
  · rw [written] at hc
    exact .inr (of_decide_eq_true (List.all_eq_true.1 (List.all_eq_true.1 visible body known) c hc))
  · rw [plain, List.mem_singleton] at hc
    rw [hc]
    exact .inl hd

end Text

namespace Markup

namespace Reference

/-- The references that are written for characters are read again, and stand for something. -/
theorem reads_escapeBodies : ∀ body ∈ Text.escapeBodies,
    Reads body ∧ (∀ c ∈ body, isStop c = false) ∧ ∃ t, meaning body = .chars t := by
  have apostrophe : body? "#x27;".toList = some "#x27".toList := by decide
  intro body known
  have known : body = "amp".toList ∨ body = "lt".toList ∨ body = "gt".toList ∨
      body = "quot".toList ∨ body = "#x27".toList := by simpa [Text.escapeBodies] using known
  rcases known with rfl | rfl | rfl | rfl | rfl
  · exact ⟨reads_amp, stands_amp.stop, _, stands_amp.means⟩
  · exact ⟨reads_lt, stands_lt.stop, _, stands_lt.means⟩
  · exact ⟨reads_gt, stands_gt.stop, _, stands_gt.means⟩
  · exact ⟨reads_quot, stands_quot.stop, _, stands_quot.means⟩
  · exact ⟨reads_of_body? apostrophe, forall_mem_of_all (by decide), _, rfl⟩

end Reference

namespace Writer

open Reference
open Text (escape escapeBodies)

theorem escaped_escape (s : List Char) : Escaped (escape s) := by
  induction s with
  | nil => exact .nil
  | cons c s ih =>
    rw [Text.escape_cons]
    rcases Text.escapeChar_cases c with ⟨-, body, known, written⟩ | ⟨plain, plain'⟩
    · obtain ⟨reads, stop, -⟩ := reads_escapeBodies body known
      have reference := Escaped.reference reads stop ih
      rw [written]
      simpa using reference
    · rw [plain]
      exact .char plain' ih

/-- Every ampersand of escaped text begins one of the references that are written for characters. -/
theorem ampersand_escape (s : List Char) : ∀ {u r : List Char}, escape s = u ++ '&' :: r →
    ∃ body ∈ escapeBodies, ∃ t, r = body ++ ';' :: t := by
  induction s with
  | nil =>
    intro u r h
    cases u with
    | nil => cases h
    | cons c u => cases h
  | cons c s ih =>
    intro u r h
    rw [Text.escape_cons] at h
    rcases Text.escapeChar_cases c with ⟨-, body, known, written⟩ | ⟨plain, plain'⟩
    · rw [written] at h
      cases u with
      | nil =>
        refine ⟨body, known, escape s, ?_⟩
        have tails := (List.cons.inj h).2
        rw [← tails]
        simp
      | cons d u =>
        have tails : body ++ [';'] ++ escape s = u ++ '&' :: r := (List.cons.inj h).2
        have inside := ampersand_notMem_body (reads_escapeBodies body known).2.1
        -- The ampersand stands behind the whole reference, which holds none.
        obtain ⟨w, -, later⟩ := exists_append_of_notMem inside tails
        exact ih later
    · rw [plain] at h
      cases u with
      | nil =>
        have amp : c = '&' := (List.cons.inj h).1
        rw [amp] at plain'
        cases plain'
      | cons d u => exact ih (List.cons.inj h).2

theorem clear_escape (s : List Char) : Clear (escape s) := by
  intro u r body h hb
  obtain ⟨known, listed, t, rfl⟩ := ampersand_escape s (u := u ++ ['=']) (by simpa using h)
  obtain ⟨reads, -, stands⟩ := reads_escapeBodies known listed
  rw [reads t] at hb
  cases hb
  exact stands

theorem isControl_of_lt {c : Char} (h : 31 < c.toNat) : isControl c = false := by
  have apart : c ≠ '\x0b' ∧ c ≠ '\x0c' := by
    refine ⟨?_, ?_⟩ <;> rintro rfl <;> exact absurd h (by decide)
  simp [isControl, apart]
  omega

/-- Escaped text without control characters is written as it stands. -/
theorem writtenText_escape {s : List Char} (plain : ∀ c ∈ s, isControl c = false) :
    writtenText (escape s) = escape s := by
  apply writtenText_of_escaped (escaped_escape s)
  intro c hc
  rcases Text.mem_escape hc with old | visible
  · exact plain c old
  · exact isControl_of_lt (by omega)

end Writer

theorem sanitize_nil (p : Policy) : sanitize p [] = .ok [] := @sanitize_orderly p [] trivial trivial

/-- Escaped text without control characters passes as it stands. -/
theorem sanitize_escape {p : Policy} {s : List Char} (plain : ∀ c ∈ s, Writer.isControl c = false)
    (breaks : '\r' ∉ s) : sanitize p (Text.escape s) = .ok (Text.escape s) := by
  have written := Writer.writtenText_escape plain
  cases whole : Text.escape s with
  | nil => exact sanitize_nil p
  | cons c t =>
    have orderly : Tree.Orderly p [Builder.rootName] (.text (Text.escape s)) := by
      rw [Tree.Orderly, written]
      refine ⟨by simp [whole], fun hm => ?_, Writer.clear_escape s⟩
      rcases Text.mem_escape hm with old | visible
      · exact breaks old
      · exact absurd visible (by decide)
    have markup : ∀ u, Tree.allMarkup [.text u] [] = Writer.writtenText u := fun u => by
      simp [Tree.allMarkup, Tree.markup]
    have once := sanitize_orderly (Tree.allOrderly_singleton orderly) (by simp [Tree.AllKept, Tree.Kept])
    have reread : Tree.allReread [.text (Text.escape s)] = [.text (Text.escape s)] := by
      simp [Tree.allReread, Tree.reread, written]
    rwa [reread, markup, written, whole] at once

end Markup

namespace Resolver

/-- The text of a field is clean, whatever stands in the field. -/
theorem clean_fieldText (r : Resolver) {name : String} (escaped : name ≠ Template.rawField) {s : String}
    (plain : ∀ c ∈ s.toList, c.toNat < 32 → c = '\t' ∨ c = '\n') :
    ∃ shown, Template.fieldText name (.text s) = .ok shown ∧
      r.clean shown = ⟨String.ofList shown, []⟩ := by
  have shows : Template.fieldText name (.text s) = .ok (Text.escape s.toList) := by
    simp [Template.fieldText, Template.valueText, Value.plain, escaped, Except.map]
  have clear : ∀ c ∈ s.toList, Markup.Writer.isControl c = false := by
    intro c hc
    rcases Nat.lt_or_ge c.toNat 32 with low | high
    · rcases plain c hc low with rfl | rfl
      · decide
      · decide
    · exact Markup.Writer.isControl_of_lt high
  have breaks : '\r' ∉ s.toList := fun hm => by
    rcases plain _ hm (by decide) with tab | feed
    · cases tab
    · cases feed
  refine ⟨_, shows, ?_⟩
  rw [clean, Markup.sanitize_escape clear breaks]

theorem clean_fieldText_script :
    "post_title" ≠ Template.rawField ∧
      (∀ c ∈ "<script>'&amp;'</script>\t\n".toList, c.toNat < 32 → c = '\t' ∨ c = '\n') ∧
      ∃ shown, Template.fieldText "post_title" (.text "<script>'&amp;'</script>\t\n") = .ok shown ∧
        clean { policy := ⟨true, true⟩ } shown = ⟨String.ofList shown, []⟩ := by
  have escaped : "post_title" ≠ Template.rawField := by decide
  have plain : ∀ c ∈ "<script>'&amp;'</script>\t\n".toList, c.toNat < 32 → c = '\t' ∨ c = '\n' :=
    forall_mem_of_all (by decide)
  exact ⟨escaped, plain, clean_fieldText _ escaped plain⟩

end Resolver
end PageSkins
