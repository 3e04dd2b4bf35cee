import Mathlib.Data.List.Infix
import Mathlib.Data.List.TakeWhile
import Mathlib.Logic.Function.Iterate
import PageSkins.Markup.RawText
import PageSkins.Proofs.Lists

/-!
# Texts without containers

A pass takes containers out of a text and puts nothing in their place. What is left may run
together into a new opening tag, so passes are made until one changes nothing. That comes to an
end because a pass that changes a text makes it shorter, and a pass changes a text exactly if
there is an opening tag in it: from there the element reaches to its closing tag or to the end.
-/

namespace PageSkins.Markup

open PageSkins.Text

variable {c : Char} {s rest : List Char}

/-- The text is the opening tag of a container: one of the names in any case, which does not go
on after it, and all up to a closing bracket. -/
def IsOpeningTag (tag : List Char) : Prop :=
  ∃ written inside, tag = '<' :: (written ++ inside ++ ['>']) ∧
    written.map foldLetter ∈ rawContainers ∧ (∀ c ∈ inside.head?, isWord c = false) ∧ '>' ∉ inside

/-- No opening tag of a container stands anywhere in the text. -/
def HasNoOpeningTag (s : List Char) : Prop := ∀ tag, tag <:+: s → ¬IsOpeningTag tag

/-! ### What a container reaches over -/

theorem containerName?_eq_some {written : List Char} (h : containerName? s = some (written, rest)) :
    s = written ++ rest ∧ written.map foldLetter ∈ rawContainers ∧
      ∀ c ∈ rest.head?, isWord c = false := by
  obtain ⟨name, known, found⟩ := List.exists_of_findSome?_eq_some h
  dsimp only at found
  rw [List.splitAt_eq] at found
  split at found
  · rename_i fits
    obtain ⟨rfl, rfl⟩ := Prod.mk.inj (Option.some.inj found)
    obtain ⟨folded, ends⟩ := fits
    refine ⟨(List.take_append_drop ..).symm, folded.symm ▸ known, ?_⟩
    intro c hc
    rw [hc] at ends
    simpa using ends
  · cases found

theorem containerName?_isSome {written : List Char} (known : written.map foldLetter ∈ rawContainers)
    (ends : ∀ c ∈ rest.head?, isWord c = false) : (containerName? (written ++ rest)).isSome := by
  rw [containerName?, List.findSome?_isSome_iff]
  refine ⟨_, known, ?_⟩
  have closed : (rest.head?.all fun c => !isWord c) = true := by
    cases first : rest.head? with
    | none => rfl
    | some c =>
      rw [Option.all_some, ends c first]
      rfl
  simp [List.splitAt_eq, closed]

theorem afterClosing?_suffix {name : List Char} (h : afterClosing? name s = some rest) :
    rest <:+ s := by
  unfold afterClosing? at h
  split at h
  · rename_i u
    rw [List.splitAt_eq] at h
    dsimp only at h
    split at h
    · split at h
      · rename_i r closed
        obtain rfl := Option.some.inj h
        have bracket : r <:+ (u.drop name.length).dropWhile isBlank := closed ▸ List.suffix_cons _ _
        have blanks := bracket.trans (List.dropWhile_suffix _)
        exact (blanks.trans (List.drop_suffix _ _)).trans (List.suffix_append ['<', '/'] u)
      · cases h
    · cases h
  · cases h

theorem afterElement_suffix (name s : List Char) : afterElement name s <:+ s := by
  induction s with
  | nil => exact List.suffix_refl _
  | cons c s ih =>
    rw [afterElement]
    split
    · rename_i closed
      exact afterClosing?_suffix closed
    · exact ih.trans (List.suffix_cons c s)

/-- A container starts with an opening tag, and what follows it is found from there on. -/
theorem afterContainer?_eq_some (h : afterContainer? s = some rest) :
    ∃ tag body, s = tag ++ body ∧ IsOpeningTag tag ∧ rest <:+ body := by
  unfold afterContainer? at h
  split at h
  · split at h
    · rename_i written r found
      obtain ⟨rfl, known, ends⟩ := containerName?_eq_some found
      split at h
      · rename_i d body opened
        obtain rfl := Option.some.inj h
        rcases forall_or_break (· != '>') r with all | ⟨inside, e, after, rfl, before, stop⟩
        · rw [List.dropWhile_eq_nil_iff.2 all] at opened
          cases opened
        · obtain rfl : e = '>' := by simpa using stop
          have rest' : d :: body = '>' :: after := by
            rw [← opened, List.dropWhile_append_of_pos before]
            rfl
          obtain ⟨-, rfl⟩ := List.cons.inj rest'
          refine ⟨'<' :: (written ++ inside ++ ['>']), body, by simp, ?_, afterElement_suffix _ _⟩
          refine ⟨written, inside, rfl, known, ?_, ?_⟩
          · intro c hc
            apply ends
            rw [List.head?_append, hc]
            rfl
          · intro bracket
            exact absurd rfl (bne_iff_ne.1 (before _ bracket))
      · cases h
    · cases h
  · cases h

theorem bracket_notMem_container {written : List Char} (known : written.map foldLetter ∈ rawContainers) :
    '>' ∉ written := by
  have names : ∀ name ∈ rawContainers, foldLetter '>' ∉ name := by decide
  intro bracket
  exact names _ known (List.mem_map_of_mem bracket)

/-- Where an opening tag stands a container starts, whether or not it is ever closed. -/
theorem afterContainer?_isSome {tag : List Char} (h : IsOpeningTag tag) (body : List Char) :
    (afterContainer? (tag ++ body)).isSome := by
  obtain ⟨written, inside, rfl, known, ends, -⟩ := h
  have after : ∀ c ∈ (inside ++ '>' :: body).head?, isWord c = false := by
    intro c hc
    cases inside with
    | nil =>
      obtain rfl : '>' = c := Option.some.inj hc
      decide
    | cons d inside => exact ends c hc
  obtain ⟨⟨w, r⟩, found⟩ := Option.isSome_iff_exists.1 (containerName?_isSome known after)
  obtain ⟨split, known', -⟩ := containerName?_eq_some found
  have bracket : '>' ∈ r := by
    have whole : '>' ∈ w ++ r := by
      rw [← split]
      simp
    exact (List.mem_append.1 whole).resolve_left (bracket_notMem_container known')
  have layout : '<' :: (written ++ inside ++ ['>']) ++ body =
      '<' :: (written ++ (inside ++ '>' :: body)) := by simp
  rw [layout, afterContainer?, found]
  dsimp only
  cases opened : r.dropWhile (· != '>') with
  | nil => exact absurd (List.dropWhile_eq_nil_iff.1 opened _ bracket) (by decide)
  | cons d body => rfl

/-! ### One pass -/

theorem removeContainers_nil : removeContainers [] = [] := by rw [removeContainers]

theorem removeContainers_cons (h : afterContainer? (c :: s) = none) :
    removeContainers (c :: s) = c :: removeContainers s := by
  rw [removeContainers]
  simp [h]

theorem afterContainer?_suffix (h : afterContainer? (c :: s) = some rest) :
    rest <:+ s := by
  obtain ⟨tag, body, split, ⟨written, inside, rfl, -⟩, after⟩ := afterContainer?_eq_some h
  obtain ⟨-, rfl⟩ := List.cons.inj split
  exact after.trans (List.suffix_append _ _)

/-- The search goes on after a container. -/
theorem removeContainers_skip (h : afterContainer? (c :: s) = some rest) :
    removeContainers (c :: s) = removeContainers rest := by
  rw [removeContainers, h]
  exact dif_pos (afterContainer?_suffix h).length_le

theorem removeContainers_sublist (s : List Char) : (removeContainers s).Sublist s := by
  induction s using removeContainers.induct with
  | case1 => rw [removeContainers_nil]
  | case2 c s rest found _ ih =>
    rw [removeContainers_skip found]
    exact ih.trans ((afterContainer?_suffix found).sublist.cons c)
  | case3 c s rest found long _ => exact absurd (afterContainer?_suffix found).length_le long
  | case4 c s none' ih =>
    rw [removeContainers_cons none']
    exact ih.cons_cons c

/-- A pass that changes a text makes it shorter. -/
theorem length_removeContainers_lt (h : removeContainers s ≠ s) :
    (removeContainers s).length < s.length := by
  have shorter := (removeContainers_sublist s).length_le
  by_contra same
  exact h ((removeContainers_sublist s).eq_of_length (by omega))

theorem hasNoOpeningTag_cons : HasNoOpeningTag (c :: s) ↔
    (∀ tag, tag <+: c :: s → ¬IsOpeningTag tag) ∧ HasNoOpeningTag s := by
  constructor
  · intro h
    exact ⟨fun tag first => h tag first.isInfix, fun tag later => h tag (List.infix_cons later)⟩
  · rintro ⟨start, later⟩ tag there
    rcases List.infix_cons_iff.1 there with first | inside
    · exact start tag first
    · exact later tag inside

/-- A pass changes nothing exactly if there is no opening tag. -/
theorem removeContainers_eq_self_iff : removeContainers s = s ↔ HasNoOpeningTag s := by
  induction s with
  | nil =>
    refine ⟨fun _ tag there => ?_, fun _ => removeContainers_nil⟩
    obtain rfl := List.infix_nil.1 there
    rintro ⟨written, inside, empty, -⟩
    cases empty
  | cons c s ih =>
    rw [hasNoOpeningTag_cons, ← ih]
    cases found : afterContainer? (c :: s) with
    | none =>
      have start : ∀ tag, tag <+: c :: s → ¬IsOpeningTag tag := by
        rintro tag ⟨body, split⟩ opens
        have starts := afterContainer?_isSome opens body
        rw [split, found] at starts
        cases starts
      rw [removeContainers_cons found, List.cons.injEq]
      exact ⟨fun ⟨_, same⟩ => ⟨start, same⟩, fun ⟨_, same⟩ => ⟨rfl, same⟩⟩
    | some rest =>
      constructor
      · intro same
        have shorter : (removeContainers (c :: s)).length ≤ s.length := by
          rw [removeContainers_skip found]
          exact (removeContainers_sublist rest).length_le.trans (afterContainer?_suffix found).length_le
        rw [same, List.length_cons] at shorter
        omega
      · rintro ⟨start, -⟩
        obtain ⟨tag, body, split, opens, -⟩ := afterContainer?_eq_some found
        exact absurd opens (start tag ⟨body, split.symm⟩)

/-! ### All passes -/

theorem stripContainers_of_fixed (h : removeContainers s = s) : stripContainers s = s := by
  rw [stripContainers, h]
  exact if_neg (Nat.lt_irrefl _)

theorem stripContainers_of_changed (h : removeContainers s ≠ s) :
    stripContainers s = stripContainers (removeContainers s) := by
  rw [stripContainers]
  exact if_pos (length_removeContainers_lt h)

theorem stripContainers_nil : stripContainers [] = [] := stripContainers_of_fixed removeContainers_nil

/-- The passes that change something come first, and after them a pass changes nothing. -/
theorem stripContainers_eq_iterate (s : List Char) : ∃ n, stripContainers s = removeContainers^[n] s ∧
    (∀ k < n, removeContainers^[k + 1] s ≠ removeContainers^[k] s) ∧
      removeContainers (stripContainers s) = stripContainers s := by
  induction s using stripContainers.induct with
  | case1 s t shorter ih =>
    have changed : removeContainers s ≠ s := by
      intro same
      exact absurd (congrArg List.length same) (Nat.ne_of_lt shorter)
    obtain ⟨n, passes, changes, settled⟩ := ih
    rw [stripContainers_of_changed changed]
    refine ⟨n + 1, passes, ?_, settled⟩
    intro k hk
    cases k with
    | zero => exact changed
    | succ k => exact changes k (Nat.lt_of_succ_lt_succ hk)
  | case2 s t long =>
    have fixed : removeContainers s = s := by
      by_contra changed
      exact long (length_removeContainers_lt changed)
    rw [stripContainers_of_fixed fixed]
    exact ⟨0, rfl, fun k hk => absurd hk (Nat.not_lt_zero k), fixed⟩

theorem iterate_removeContainers_sublist (n : Nat) (s : List Char) :
    (removeContainers^[n] s).Sublist s := by
  induction n with
  | zero => exact List.Sublist.refl s
  | succ n ih =>
    rw [Function.iterate_succ_apply']
    exact (removeContainers_sublist _).trans ih

/-- Every pass makes the text shorter or changes nothing; they end, with a sublist of the text in
which no opening tag stands and in which nothing is found again. -/
theorem stripContainers_settled (s : List Char) :
    (∀ t, removeContainers t = t ∨ (removeContainers t).length < t.length) ∧
      (∃ n, stripContainers s = removeContainers^[n] s ∧
        (∀ k < n, removeContainers^[k + 1] s ≠ removeContainers^[k] s) ∧
        removeContainers (stripContainers s) = stripContainers s) ∧
      (stripContainers s).Sublist s ∧ HasNoOpeningTag (stripContainers s) ∧
      stripContainers (stripContainers s) = stripContainers s := by
  have passes := stripContainers_eq_iterate s
  refine ⟨?_, passes, ?_⟩
  · intro t
    by_cases same : removeContainers t = t
    · exact .inl same
    · exact .inr (length_removeContainers_lt same)
  · obtain ⟨n, eq, -, settled⟩ := passes
    refine ⟨?_, removeContainers_eq_self_iff.1 settled, stripContainers_of_fixed settled⟩
    rw [eq]
    exact iterate_removeContainers_sublist n s

end PageSkins.Markup
