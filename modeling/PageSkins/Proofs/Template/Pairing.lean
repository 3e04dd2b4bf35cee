import Mathlib.Data.List.Forall2
import PageSkins.Proofs.Template.Spelling

/-!
# Which tags make a block

The tags of a template are numbered from left to right. Whether an opening tag and a
closing tag make a block hangs on the blocks closed before and on nothing else: the opening
tag is the last one before the closing tag that fits it, among those that have made no block
yet and stand inside none. One set of pairs alone obeys this rule. The tree of a template has
a block for each of these pairs, with what stands between the two tags inside; every other
opening or closing tag is text where it stands.

The rule knows of no stack. The parser is followed piece by piece: the blocks that it holds
open are the opening tags that still wait, the last of them innermost.
-/

namespace PageSkins.Template

/-! ### The rule -/

def Piece.tag? : Piece → Option Tag
  | .text _ => none
  | .tag inner => some (Tag.ofInner inner)

/-- The tags among some pieces. The number of a tag is its place among them. -/
def tagsOf (ps : List Piece) : List Tag := ps.filterMap Piece.tag?

def tagCount (ps : List Piece) : Nat := (tagsOf ps).length

/-- Whether two tags open and close blocks of one kind, and of one name if they are sections. -/
def fits (tags : List Tag) (i j : Nat) : Bool :=
  match tags[i]?, tags[j]? with
  | some (.opens kind name), some (.closes kind' name') =>
    kind == kind' && (kind' != .section || name == name')
  | _, _ => false

/-- No block closed before tag `j` was opened by tag `i` or holds it inside. -/
def Waits (blocks : Nat → Nat → Prop) (i j : Nat) : Prop :=
  ∀ b < j, ¬ blocks i b ∧ ∀ a, blocks a b → ¬ (a < i ∧ i < b)

/-- Tag `i` is the last before tag `j` that fits it and still waits. -/
structure Innermost (tags : List Tag) (blocks : Nat → Nat → Prop) (i j : Nat) : Prop where
  before : i < j
  fitting : fits tags i j = true
  waits : Waits blocks i j
  last : ∀ k, i < k → k < j → fits tags k j = true → ¬ Waits blocks k j

/-- What becomes of pieces, of which the first tag has the number `i`, if these pairs of tags and no
others make blocks. -/
inductive Formed (blocks : Nat → Nat → Prop) : Nat → List Piece → List Node → Prop
  | nil {i : Nat} : Formed blocks i [] []
  | text {i : Nat} {s : List Char} {ps : List Piece} {ns : List Node} (rest : Formed blocks i ps ns) :
      Formed blocks i (.text s :: ps) (.text (String.ofList s) :: ns)
  | field {i : Nat} {inner : List Char} {name : String} {ps : List Piece} {ns : List Node}
      (tag : Tag.ofInner inner = .field name) (rest : Formed blocks (i + 1) ps ns) :
      Formed blocks i (.tag inner :: ps) (.field name :: ns)
  | include {i : Nat} {inner : List Char} {name : String} {ps : List Piece} {ns : List Node}
      (tag : Tag.ofInner inner = .include name) (rest : Formed blocks (i + 1) ps ns) :
      Formed blocks i (.tag inner :: ps) (.include name :: ns)
  | unknown {i : Nat} {inner : List Char} {ps : List Piece} {ns : List Node}
      (tag : Tag.ofInner inner = .unknown) (rest : Formed blocks (i + 1) ps ns) :
      Formed blocks i (.tag inner :: ps) (literalTag inner :: ns)
  | alone {i : Nat} {inner : List Char} {kind : BlockKind} {name : String} {ps : List Piece}
      {ns : List Node}
      (tag : Tag.ofInner inner = .opens kind name ∨ Tag.ofInner inner = .closes kind name)
      (unpaired : ∀ k, ¬ blocks i k ∧ ¬ blocks k i) (rest : Formed blocks (i + 1) ps ns) :
      Formed blocks i (.tag inner :: ps) (literalTag inner :: ns)
  | block {i j : Nat} {opening closing : List Char} {kind : BlockKind} {name : String}
      {inside ps : List Piece} {body ns : List Node}
      (tag : Tag.ofInner opening = .opens kind name) (number : j = i + 1 + tagCount inside)
      (paired : blocks i j) (between : Formed blocks (i + 1) inside body)
      (rest : Formed blocks (j + 1) ps ns) :
      Formed blocks i (.tag opening :: (inside ++ .tag closing :: ps)) (.block kind name body :: ns)

/-! ### The pairs of the rule -/

def lastBelow (p : Nat → Bool) : Nat → Option Nat
  | 0 => none
  | n + 1 => if p n then some n else lastBelow p n

theorem lastBelow_eq_some_iff {p : Nat → Bool} {n i : Nat} : lastBelow p n = some i ↔
    i < n ∧ p i = true ∧ ∀ k, i < k → k < n → ¬ p k = true := by
  induction n with
  | zero => simp [lastBelow]
  | succ n ih =>
    rw [lastBelow]
    by_cases here : p n = true
    · rw [if_pos here, Option.some.injEq]
      constructor
      · rintro rfl
        exact ⟨Nat.lt_succ_self _, here, fun k low high => by omega⟩
      · rintro ⟨below, -, last⟩
        by_contra other
        exact last n (by omega) (Nat.lt_succ_self n) here
    · rw [if_neg here, ih]
      constructor
      · rintro ⟨below, found, last⟩
        refine ⟨by omega, found, fun k low high => ?_⟩
        rcases Nat.lt_succ_iff_lt_or_eq.1 high with high | rfl
        · exact last k low high
        · exact here
      · rintro ⟨below, found, last⟩
        have apart : i ≠ n := by
          rintro rfl
          exact here found
        exact ⟨by omega, found, fun k low high => last k low (by omega)⟩

/-- Whether none of some blocks was opened by tag `i` or holds it inside. -/
def isFree (done : List (Nat × Nat)) (i : Nat) : Bool :=
  done.all fun (a, b) => i != a && !(decide (a < i) && decide (i < b))

/-- The blocks closed before a tag, the last closed first. -/
def closedBefore (tags : List Tag) : Nat → List (Nat × Nat)
  | 0 => []
  | j + 1 =>
    match lastBelow (fun i => fits tags i j && isFree (closedBefore tags j) i) j with
    | some i => (i, j) :: closedBefore tags j
    | none => closedBefore tags j

def Paired (tags : List Tag) (i j : Nat) : Prop := (i, j) ∈ closedBefore tags (j + 1)

instance (tags : List Tag) (i j : Nat) : Decidable (Paired tags i j) :=
  inferInstanceAs (Decidable ((i, j) ∈ closedBefore tags (j + 1)))

theorem mem_closedBefore_succ {tags : List Tag} {j a b : Nat} : (a, b) ∈ closedBefore tags (j + 1) ↔
    (b = j ∧ lastBelow (fun i => fits tags i j && isFree (closedBefore tags j) i) j = some a) ∨
      (a, b) ∈ closedBefore tags j := by
  rw [closedBefore]
  cases lastBelow (fun i => fits tags i j && isFree (closedBefore tags j) i) j with
  | none => simp
  | some i =>
    rw [List.mem_cons, Prod.mk.injEq, Option.some.injEq]
    exact or_congr_left ⟨fun ⟨opened, closed⟩ => ⟨closed, opened.symm⟩,
      fun ⟨closed, opened⟩ => ⟨opened.symm, closed⟩⟩

theorem lt_of_mem_closedBefore {tags : List Tag} {n a b : Nat} (h : (a, b) ∈ closedBefore tags n) :
    b < n := by
  induction n with
  | zero => cases h
  | succ n ih =>
    rcases mem_closedBefore_succ.1 h with ⟨rfl, -⟩ | earlier
    · exact Nat.lt_succ_self b
    · exact Nat.lt_succ_of_lt (ih earlier)

theorem mem_closedBefore_iff {tags : List Tag} {n a b : Nat} :
    (a, b) ∈ closedBefore tags n ↔ b < n ∧ Paired tags a b := by
  induction n with
  | zero => simp [closedBefore]
  | succ n ih =>
    by_cases last : b = n
    · subst last
      exact ⟨fun h => ⟨Nat.lt_succ_self b, h⟩, And.right⟩
    · rw [mem_closedBefore_succ, ih]
      constructor
      · rintro (⟨closed, -⟩ | ⟨earlier, paired⟩)
        · exact absurd closed last
        · exact ⟨Nat.lt_succ_of_lt earlier, paired⟩
      · rintro ⟨before, paired⟩
        exact Or.inr ⟨by omega, paired⟩

theorem isFree_closedBefore {tags : List Tag} {i j : Nat} :
    isFree (closedBefore tags j) i = true ↔ Waits (Paired tags) i j := by
  simp only [isFree, List.all_eq_true, Prod.forall, mem_closedBefore_iff, Bool.and_eq_true, bne_iff_ne,
    Bool.not_eq_true', Bool.and_eq_false_iff, decide_eq_false_iff_not, and_imp]
  constructor
  · intro free b hb
    refine ⟨fun paired => (free i b hb paired).1 rfl, ?_⟩
    rintro a paired ⟨low, high⟩
    rcases (free a b hb paired).2 with above | below
    · exact above low
    · exact below high
  · intro waits a b hb paired
    obtain ⟨opened, inside⟩ := waits b hb
    refine ⟨?_, ?_⟩
    · rintro rfl
      exact opened paired
    · exact not_and_or.1 (inside a paired)

/-- The pairs obey the rule. -/
theorem paired_iff {tags : List Tag} {i j : Nat} :
    Paired tags i j ↔ Innermost tags (Paired tags) i j := by
  have earlier : (i, j) ∉ closedBefore tags j := fun h => Nat.lt_irrefl j (lt_of_mem_closedBefore h)
  rw [Paired, mem_closedBefore_succ, lastBelow_eq_some_iff]
  simp only [Bool.and_eq_true, isFree_closedBefore, earlier, true_and, or_false, not_and]
  constructor
  · rintro ⟨before, ⟨fitting, waits⟩, last⟩
    exact ⟨before, fitting, waits, last⟩
  · rintro ⟨before, fitting, waits, last⟩
    exact ⟨before, ⟨fitting, waits⟩, last⟩

theorem waits_congr {blocks blocks' : Nat → Nat → Prop} {i j : Nat}
    (same : ∀ b < j, ∀ a, blocks a b ↔ blocks' a b) : Waits blocks i j ↔ Waits blocks' i j := by
  refine forall₂_congr fun b hb => and_congr (not_congr (same b hb i)) ?_
  exact forall_congr' fun a => imp_congr_left (same b hb a)

theorem innermost_congr {tags : List Tag} {blocks blocks' : Nat → Nat → Prop} {i j : Nat}
    (same : ∀ b < j, ∀ a, blocks a b ↔ blocks' a b) :
    Innermost tags blocks i j ↔ Innermost tags blocks' i j := by
  have waits (k : Nat) : Waits blocks k j ↔ Waits blocks' k j := waits_congr same
  constructor
  · rintro ⟨before, fitting, free, last⟩
    refine ⟨before, fitting, (waits i).1 free, fun k low high fit free => ?_⟩
    exact last k low high fit ((waits k).2 free)
  · rintro ⟨before, fitting, free, last⟩
    refine ⟨before, fitting, (waits i).2 free, fun k low high fit free => ?_⟩
    exact last k low high fit ((waits k).1 free)

/-- No other pairs obey it: which block a tag closes hangs on the blocks closed before it. -/
theorem eq_paired {tags : List Tag} {blocks : Nat → Nat → Prop}
    (rule : ∀ i j, blocks i j ↔ Innermost tags blocks i j) : blocks = Paired tags := by
  have same (j : Nat) : ∀ i, blocks i j ↔ Paired tags i j := by
    induction j using Nat.strongRecOn with
    | ind j ih =>
      intro i
      rw [rule, paired_iff]
      exact innermost_congr ih
  funext i j
  exact propext (same j i)

/-- A tag closes one block at most. -/
theorem Innermost.unique {tags : List Tag} {blocks : Nat → Nat → Prop} {a i j : Nat}
    (h : Innermost tags blocks a j) (h' : Innermost tags blocks i j) : a = i := by
  rcases Nat.lt_trichotomy a i with low | same | high
  · exact absurd h'.waits (h.last i low h'.before h'.fitting)
  · exact same
  · exact absurd h.waits (h'.last a high h.before h.fitting)

theorem waits_succ {blocks : Nat → Nat → Prop} {i n : Nat} : Waits blocks i (n + 1) ↔
    Waits blocks i n ∧ ¬ blocks i n ∧ ∀ a, blocks a n → ¬ (a < i ∧ i < n) := by
  constructor
  · intro waits
    exact ⟨fun b hb => waits b (Nat.lt_succ_of_lt hb), waits n (Nat.lt_succ_self n)⟩
  · rintro ⟨earlier, now⟩ b hb
    rcases Nat.lt_succ_iff_lt_or_eq.1 hb with hb | rfl
    · exact earlier b hb
    · exact now

/-! ### Pieces put together -/

theorem tagsOf_append (ps qs : List Piece) : tagsOf (ps ++ qs) = tagsOf ps ++ tagsOf qs :=
  List.filterMap_append

theorem tagCount_append (ps qs : List Piece) : tagCount (ps ++ qs) = tagCount ps + tagCount qs := by
  rw [tagCount, tagsOf_append, List.length_append, tagCount, tagCount]

theorem tagCount_tag (inner : List Char) (ps : List Piece) :
    tagCount (.tag inner :: ps) = 1 + tagCount ps := Nat.add_comm _ 1

theorem tagCount_concat (read : List Piece) (inner : List Char) :
    tagCount (read ++ [.tag inner]) = tagCount read + 1 := tagCount_append read [.tag inner]

theorem Formed.append {blocks : Nat → Nat → Prop} {i : Nat} {ps qs : List Piece} {ns ms : List Node}
    (h : Formed blocks i ps ns) (h' : Formed blocks (i + tagCount ps) qs ms) :
    Formed blocks i (ps ++ qs) (ns ++ ms) := by
  induction h with
  | nil => exact h'
  | text _ ih => exact .text (ih h')
  | field tag _ ih =>
    rw [tagCount_tag, ← Nat.add_assoc] at h'
    exact .field tag (ih h')
  | «include» tag _ ih =>
    rw [tagCount_tag, ← Nat.add_assoc] at h'
    exact .include tag (ih h')
  | unknown tag _ ih =>
    rw [tagCount_tag, ← Nat.add_assoc] at h'
    exact .unknown tag (ih h')
  | alone tag unpaired _ ih =>
    rw [tagCount_tag, ← Nat.add_assoc] at h'
    exact .alone tag unpaired (ih h')
  | @block i j opening closing kind name inside ps body ns tag number paired between _ _ ih =>
    have count : i + tagCount (.tag opening :: (inside ++ .tag closing :: ps)) = j + 1 + tagCount ps := by
      rw [tagCount_tag, tagCount_append, tagCount_tag]
      omega
    rw [count] at h'
    rw [List.cons_append, List.append_assoc, List.cons_append]
    exact .block tag number paired between (ih h')

/-! ### What the parser holds -/

/-- The parser after some pieces: outside and inside each of the blocks it holds open, the nodes are what the
pieces there become. The opening tags of these blocks have the given numbers. -/
inductive Stands (blocks : Nat → Nat → Prop) : List Piece → State → List Nat → Prop
  | root {read : List Piece} {nodes : List Node} (formed : Formed blocks 0 read nodes.reverse) :
      Stands blocks read ⟨nodes, []⟩ []
  | inside {outer inner : List Piece} {nodes : List Node} {f : Frame} {rest : List Frame} {is : List Nat}
      (around : Stands blocks outer ⟨f.before, rest⟩ is)
      (tag : Tag.ofInner f.inner = .opens f.kind f.name)
      (formed : Formed blocks (tagCount outer + 1) inner nodes.reverse) :
      Stands blocks (outer ++ .tag f.inner :: inner) ⟨nodes, f :: rest⟩ (tagCount outer :: is)

namespace Stands

variable {blocks : Nat → Nat → Prop} {read : List Piece} {st : State} {nodes : List Node}
  {opened : List Frame} {is : List Nat}

/-- More pieces inside the innermost block. -/
theorem push (h : Stands blocks read ⟨nodes, opened⟩ is) {ps : List Piece} {ns : List Node}
    (formed : Formed blocks (tagCount read) ps ns) :
    Stands blocks (read ++ ps) ⟨ns.reverse ++ nodes, opened⟩ is := by
  cases h with
  | root before =>
    refine .root ?_
    rw [List.reverse_append, List.reverse_reverse]
    exact before.append (by rwa [Nat.zero_add])
  | inside around tag before =>
    rw [tagCount_append, tagCount_tag, ← Nat.add_assoc] at formed
    rw [List.append_assoc, List.cons_append]
    refine .inside around tag ?_
    rw [List.reverse_append, List.reverse_reverse]
    exact before.append formed

/-- A block that is never closed is taken as text. -/
theorem unwind {f : Frame} {i : Nat} (h : Stands blocks read ⟨nodes, f :: opened⟩ (i :: is))
    (unpaired : ∀ k, ¬ blocks i k ∧ ¬ blocks k i) :
    Stands blocks read ⟨f.unwind nodes, opened⟩ is := by
  cases h with
  | inside around tag formed =>
    have outside := around.push (Formed.alone (.inl tag) unpaired formed)
    rw [List.reverse_cons, List.reverse_reverse, List.append_assoc] at outside
    exact outside

theorem unwindAll {passed : List Frame} {as : List Nat} (count : as.length = passed.length)
    (h : Stands blocks read ⟨nodes, passed ++ opened⟩ (as ++ is))
    (unpaired : ∀ i ∈ as, ∀ k, ¬ blocks i k ∧ ¬ blocks k i) :
    Stands blocks read ⟨Template.unwindAll nodes passed, opened⟩ is := by
  induction passed generalizing as nodes with
  | nil =>
    obtain rfl := List.length_eq_zero_iff.1 count
    exact h
  | cons f passed ih =>
    cases as with
    | nil => cases count
    | cons i as =>
      have first := h.unwind (unpaired i List.mem_cons_self)
      exact ih (Nat.succ.inj count) first fun k hk => unpaired k (List.mem_cons_of_mem i hk)

/-- The block that a tag closes. -/
theorem close {f : Frame} {i : Nat} (h : Stands blocks read ⟨nodes, f :: opened⟩ (i :: is))
    (closing : List Char) (paired : blocks i (tagCount read)) :
    Stands blocks (read ++ [.tag closing]) ⟨.block f.kind f.name nodes.reverse :: f.before, opened⟩
      is := by
  cases h with
  | @inside outer inner _ _ _ _ around tag formed =>
    have number : tagCount (outer ++ .tag f.inner :: inner) = tagCount outer + 1 + tagCount inner := by
      rw [tagCount_append, tagCount_tag, ← Nat.add_assoc]
    have block : Formed blocks (tagCount outer) (.tag f.inner :: (inner ++ [.tag closing]))
        [.block f.kind f.name nodes.reverse] := .block tag number paired formed .nil
    rw [List.append_assoc, List.cons_append]
    exact around.push block

/-- The numbers are those of the opening tags. -/
theorem opens (h : Stands blocks read st is) :
    List.Forall₂ (fun i f => (tagsOf read)[i]? = some (.opens f.kind f.name)) is st.opened := by
  induction h with
  | root => exact .nil
  | @inside outer inner nodes f rest is around tag formed ih =>
    refine .cons ?_ (ih.imp fun i g found => ?_)
    · rw [tagsOf_append, tagCount, List.getElem?_append_right (Nat.le_refl _), Nat.sub_self]
      exact congrArg some tag
    · obtain ⟨bound, -⟩ := List.getElem?_eq_some_iff.1 found
      rwa [tagsOf_append, List.getElem?_append_left bound]

theorem bounded (h : Stands blocks read st is) : ∀ i ∈ is, i < tagCount read := by
  induction h with
  | root => exact fun i hi => (List.not_mem_nil hi).elim
  | inside _ _ _ ih =>
    rw [tagCount_append, tagCount_tag]
    intro i hi
    rcases List.mem_cons.1 hi with rfl | hi
    · omega
    · have := ih i hi
      omega

/-- The blocks further in were opened later. -/
theorem descending (h : Stands blocks read st is) : is.Pairwise (· > ·) := by
  induction h with
  | root => exact .nil
  | inside around _ _ ih => exact .cons around.bounded ih

end Stands

/-! ### Tags that wait -/

/-- An opening tag before tag `n` still waits. -/
structure Pending (tags : List Tag) (i n : Nat) : Prop where
  before : i < n
  opens : ∃ kind name, tags[i]? = some (.opens kind name)
  waits : Waits (Paired tags) i n

variable {tags : List Tag} {i j n : Nat}

theorem opens_of_fits (h : fits tags i j = true) : ∃ kind name, tags[i]? = some (.opens kind name) := by
  unfold fits at h
  split at h
  · rename_i opening _
    exact ⟨_, _, opening⟩
  · cases h

theorem closes_of_fits (h : fits tags i j = true) : ∃ kind name, tags[j]? = some (.closes kind name) := by
  unfold fits at h
  split at h
  · rename_i closing
    exact ⟨_, _, closing⟩
  · cases h

theorem Paired.fitting (h : Paired tags i j) : fits tags i j = true := (paired_iff.1 h).fitting

/-- An opening tag closes no block. -/
theorem not_paired_of_opens {kind : BlockKind} {name : String} (opens : tags[j]? = some (.opens kind name)) :
    ¬ Paired tags i j := by
  intro paired
  obtain ⟨kind', name', closes⟩ := closes_of_fits paired.fitting
  rw [opens] at closes
  cases closes

theorem Pending.not_paired (h : Pending tags i n) : ¬ Paired tags j i := by
  obtain ⟨kind, name, opens⟩ := h.opens
  exact not_paired_of_opens opens

theorem Paired.pending (h : Paired tags i j) : Pending tags i j :=
  have rule := paired_iff.1 h
  ⟨rule.before, opens_of_fits rule.fitting, rule.waits⟩

/-- After one more tag: an opening tag waits itself, and a closing tag leaves those that stand before
the tag it is paired with. -/
theorem pending_succ_iff : Pending tags i (n + 1) ↔
    (i = n ∧ ∃ kind name, tags[n]? = some (.opens kind name)) ∨
      (Pending tags i n ∧ ∀ a, Paired tags a n → i < a) := by
  constructor
  · rintro ⟨before, opens, waits⟩
    rcases Nat.lt_succ_iff_lt_or_eq.1 before with before | rfl
    · obtain ⟨earlier, own, inside⟩ := waits_succ.1 waits
      refine .inr ⟨⟨before, opens, earlier⟩, fun a paired => ?_⟩
      have apart : a ≠ i := by
        rintro rfl
        exact own paired
      have := inside a paired
      omega
    · exact .inl ⟨rfl, opens⟩
  · rintro (⟨rfl, opens⟩ | ⟨⟨before, opens, earlier⟩, left⟩)
    · refine ⟨Nat.lt_succ_self i, opens, fun b hb => ⟨fun paired => ?_, ?_⟩⟩
      · have := paired.pending.before
        omega
      · rintro a - ⟨-, high⟩
        omega
    · refine ⟨Nat.lt_succ_of_lt before, opens, waits_succ.2 ⟨earlier, fun paired => ?_, ?_⟩⟩
      · exact Nat.lt_irrefl i (left i paired)
      · rintro a paired ⟨low, -⟩
        have := left a paired
        omega

/-- A tag that is not closing a block. -/
theorem pending_succ_of_not_paired (h : ∀ a, ¬ Paired tags a n) : Pending tags i (n + 1) ↔
    (i = n ∧ ∃ kind name, tags[n]? = some (.opens kind name)) ∨ Pending tags i n := by
  rw [pending_succ_iff]
  exact or_congr_right ⟨And.left, fun pending => ⟨pending, fun a paired => absurd paired (h a)⟩⟩

theorem pending_succ_of_paired (h : Paired tags j n) :
    Pending tags i (n + 1) ↔ Pending tags i n ∧ i < j := by
  rw [pending_succ_iff]
  constructor
  · rintro (⟨rfl, kind, name, opens⟩ | ⟨pending, left⟩)
    · exact absurd h (not_paired_of_opens opens)
    · exact ⟨pending, left j h⟩
  · rintro ⟨pending, low⟩
    refine .inr ⟨pending, fun a paired => ?_⟩
    rwa [(paired_iff.1 paired).unique (paired_iff.1 h)]

section Closing

variable {as bs : List Nat} (held : ∀ k, k ∈ as ++ i :: bs ↔ Pending tags k n)
  (order : (as ++ i :: bs).Pairwise (· > ·)) (unfit : ∀ k ∈ as, fits tags k n = false)
  (fit : fits tags i n = true)

include held order unfit fit

/-- Of the tags that wait, the last that fits is paired. -/
theorem paired_of_pending : Paired tags i n := by
  obtain ⟨-, below, -⟩ := List.pairwise_append.1 order
  have pending := (held i).1 (List.mem_append_right _ List.mem_cons_self)
  refine paired_iff.2 ⟨pending.before, fit, pending.waits, fun k low high fits waits => ?_⟩
  have among := (held k).2 ⟨high, opens_of_fits fits, waits⟩
  rcases List.mem_append.1 among with later | among
  · exact Bool.false_ne_true ((unfit k later).symm.trans fits)
  · rcases List.mem_cons.1 among with rfl | earlier
    · exact Nat.lt_irrefl k low
    · exact Nat.lt_asymm low ((List.pairwise_cons.1 below).1 k earlier)

/-- Those after it stand inside the block and are never paired. -/
theorem unpaired_of_inside : ∀ k ∈ as, ∀ m, ¬ Paired tags k m ∧ ¬ Paired tags m k := by
  have paired := paired_of_pending held order unfit fit
  intro k later m
  have pending := (held k).1 (List.mem_append_left _ later)
  have inside : i < k := (List.pairwise_append.1 order).2.2 k later i List.mem_cons_self
  refine ⟨fun other => ?_, pending.not_paired⟩
  rcases Nat.lt_trichotomy m n with past | rfl | future
  · exact (pending.waits m past).1 other
  · exact Bool.false_ne_true ((unfit k later).symm.trans other.fitting)
  · exact (other.pending.waits n future).2 i paired ⟨inside, pending.before⟩

/-- Those before it wait on. -/
theorem mem_iff_pending_succ (k : Nat) : k ∈ bs ↔ Pending tags k (n + 1) := by
  obtain ⟨-, below, above⟩ := List.pairwise_append.1 order
  rw [pending_succ_of_paired (paired_of_pending held order unfit fit), ← held, List.mem_append,
    List.mem_cons]
  constructor
  · exact fun earlier => ⟨.inr (.inr earlier), (List.pairwise_cons.1 below).1 k earlier⟩
  · rintro ⟨later | rfl | earlier, low⟩
    · exact absurd (above k later i List.mem_cons_self) (Nat.lt_asymm low)
    · exact absurd low (Nat.lt_irrefl k)
    · exact earlier

end Closing

/-- The parser has read some pieces of a template and holds open just the blocks whose opening tags wait. -/
structure Tracks (tags : List Tag) (read : List Piece) (st : State) (is : List Nat) : Prop where
  stands : Stands (Paired tags) read st is
  mem_iff : ∀ i, i ∈ is ↔ Pending tags i (tagCount read)

/-! ### One step -/

/-- A closing tag fits an opening tag if it closes the block that the parser holds open for it. -/
theorem fits_eq_closedBy {f : Frame} {kind : BlockKind} {name : String}
    (opens : tags[i]? = some (.opens f.kind f.name)) (closes : tags[n]? = some (.closes kind name)) :
    fits tags i n = f.closedBy kind name := by
  simp only [fits, opens, closes, Frame.closedBy]

theorem unfit_of_unclosed {is : List Nat} {opened : List Frame} {kind : BlockKind} {name : String}
    (opens : List.Forall₂ (fun i f => tags[i]? = some (.opens f.kind f.name)) is opened)
    (closes : tags[n]? = some (.closes kind name))
    (unclosed : ∀ f ∈ opened, f.closedBy kind name = false) :
    ∀ i ∈ is, fits tags i n = false := by
  induction opens with
  | nil => exact fun i hi => (List.not_mem_nil hi).elim
  | cons first _ ih =>
    rw [List.forall_mem_cons] at unclosed
    refine List.forall_mem_cons.2 ⟨?_, ih unclosed.2⟩
    rw [fits_eq_closedBy first closes, unclosed.1]

namespace Tracks

variable {read : List Piece} {st : State} {is : List Nat} {inner : List Char}

theorem opens (h : Tracks tags read st is) {later : List Piece} (known : tags = tagsOf (read ++ later)) :
    List.Forall₂ (fun i f => tags[i]? = some (.opens f.kind f.name)) is st.opened := by
  refine h.stands.opens.imp fun i f found => ?_
  obtain ⟨bound, -⟩ := List.getElem?_eq_some_iff.1 found
  rwa [known, tagsOf_append, List.getElem?_append_left bound]

/-- A tag that makes no block, as yet. -/
theorem stay (h : Tracks tags read st is) {node : Node}
    (formed : Formed (Paired tags) (tagCount read) [.tag inner] [node])
    (unopened : ∀ kind name, tags[tagCount read]? ≠ some (.opens kind name))
    (unpaired : ∀ a, ¬ Paired tags a (tagCount read)) :
    Tracks tags (read ++ [.tag inner]) ⟨node :: st.nodes, st.opened⟩ is := by
  refine ⟨h.stands.push formed, fun i => ?_⟩
  rw [tagCount_concat, pending_succ_of_not_paired unpaired, h.mem_iff]
  constructor
  · exact Or.inr
  · rintro (⟨-, kind, name, opens⟩ | pending)
    · exact absurd opens (unopened kind name)
    · exact pending

/-- A tag that opens a block. -/
theorem «open» (h : Tracks tags read st is) {kind : BlockKind} {name : String}
    (tag : Tag.ofInner inner = .opens kind name)
    (opens : tags[tagCount read]? = some (.opens kind name)) :
    Tracks tags (read ++ [.tag inner]) ⟨[], ⟨kind, name, inner, st.nodes⟩ :: st.opened⟩
      (tagCount read :: is) := by
  have nothing : Formed (Paired tags) (tagCount read + 1) [] ([] : List Node).reverse := .nil
  have stands := Stands.inside (f := ⟨kind, name, inner, st.nodes⟩) h.stands tag nothing
  refine ⟨stands, fun i => ?_⟩
  rw [tagCount_concat, pending_succ_of_not_paired fun a => not_paired_of_opens opens, List.mem_cons,
    h.mem_iff]
  exact or_congr_left ⟨fun same => ⟨same, kind, name, opens⟩, And.left⟩

/-- A tag that closes a block, passing over those inside it. -/
theorem close {nodes : List Node} {passed : List Frame} {f : Frame} {rest : List Frame}
    {later : List Piece} (h : Tracks tags read ⟨nodes, passed ++ f :: rest⟩ is)
    (known : tags = tagsOf (read ++ later)) {kind : BlockKind} {name : String}
    (closes : tags[tagCount read]? = some (.closes kind name))
    (apart : ∀ e ∈ passed, e.closedBy kind name = false) (fit : f.closedBy kind name = true) :
    ∃ is', Tracks tags (read ++ [.tag inner])
      ⟨.block f.kind f.name (unwindAll nodes passed).reverse :: f.before, rest⟩ is' := by
  have opens := h.opens known
  have first := List.forall₂_take_append is passed (f :: rest) opens
  have last := List.forall₂_drop_append is passed (f :: rest) opens
  have parts := List.take_append_drop passed.length is
  generalize is.take passed.length = as at first parts
  generalize is.drop passed.length = bs at last parts
  obtain ⟨i, bs, this, -, rfl⟩ := List.forall₂_cons_right_iff.1 last
  subst parts
  have unfit := unfit_of_unclosed first closes apart
  have fitting : fits tags i (tagCount read) = true := by rw [fits_eq_closedBy this closes, fit]
  have order := h.stands.descending
  have paired := paired_of_pending h.mem_iff order unfit fitting
  have alone := unpaired_of_inside h.mem_iff order unfit fitting
  refine ⟨bs, (h.stands.unwindAll first.length_eq alone).close inner paired, ?_⟩
  rw [tagCount_concat]
  exact mem_iff_pending_succ h.mem_iff order unfit fitting

/-- A tag that neither opens nor closes a block. -/
theorem plain (h : Tracks tags read st is) (here : tags[tagCount read]? = some (Tag.ofInner inner))
    {node : Node} (formed : Formed (Paired tags) (tagCount read) [.tag inner] [node])
    (other : ∀ kind name,
      Tag.ofInner inner ≠ .opens kind name ∧ Tag.ofInner inner ≠ .closes kind name) :
    Tracks tags (read ++ [.tag inner]) ⟨node :: st.nodes, st.opened⟩ is := by
  refine h.stay formed (fun kind name opens => ?_) fun a paired => ?_
  · exact (other kind name).1 (Option.some.inj (here.symm.trans opens))
  · obtain ⟨kind, name, closes⟩ := closes_of_fits paired.fitting
    exact (other kind name).2 (Option.some.inj (here.symm.trans closes))

/-- A closing tag that fits no block. -/
theorem stray (h : Tracks tags read st is) {later : List Piece} (known : tags = tagsOf (read ++ later))
    {kind : BlockKind} {name : String} (tag : Tag.ofInner inner = .closes kind name)
    (closes : tags[tagCount read]? = some (.closes kind name))
    (unclosed : ∀ f ∈ st.opened, f.closedBy kind name = false) :
    Tracks tags (read ++ [.tag inner]) ⟨literalTag inner :: st.nodes, st.opened⟩ is := by
  have unopened (kind' : BlockKind) (name' : String) :
      tags[tagCount read]? ≠ some (.opens kind' name') := by
    rw [closes]
    exact nofun
  have unpaired (a : Nat) : ¬ Paired tags a (tagCount read) := by
    intro paired
    have unfit := unfit_of_unclosed (h.opens known) closes unclosed a ((h.mem_iff a).2 paired.pending)
    exact Bool.false_ne_true (unfit.symm.trans paired.fitting)
  refine h.stay (.alone (.inr tag) (fun k => ⟨fun paired => ?_, unpaired k⟩) .nil) unopened unpaired
  obtain ⟨kind', name', opens⟩ := opens_of_fits paired.fitting
  exact unopened kind' name' opens

/-- The parser goes on holding open just the blocks that wait. -/
theorem step (h : Tracks tags read st is) {p : Piece} {later : List Piece}
    (known : tags = tagsOf (read ++ p :: later)) : ∃ is', Tracks tags (read ++ [p]) (st.step p) is' := by
  cases p with
  | text s =>
    have count : tagCount (read ++ [.text s]) = tagCount read := tagCount_append _ _
    refine ⟨is, h.stands.push (.text .nil), ?_⟩
    rw [count]
    exact h.mem_iff
  | tag inner =>
    have here : tags[tagCount read]? = some (Tag.ofInner inner) := by
      rw [known, tagsOf_append, tagCount, List.getElem?_append_right (Nat.le_refl _), Nat.sub_self]
      rfl
    cases tag : Tag.ofInner inner with
    | opens kind name =>
      rw [State.step_opens st tag]
      exact ⟨_, h.open tag (here.trans (congrArg some tag))⟩
    | closes kind name =>
      have closes := here.trans (congrArg some tag)
      by_cases unclosed : ∀ f ∈ st.opened, f.closedBy kind name = false
      · have none : closeBlock kind name st.nodes st.opened = none := closeBlock_eq_none_iff.2 unclosed
        rw [State.step_closes st tag, none]
        exact ⟨is, h.stray known tag closes unclosed⟩
      · obtain ⟨passed, f, rest, opened, apart, fit⟩ := exists_closedBy unclosed
        obtain ⟨nodes, _⟩ := st
        dsimp only at opened
        subst opened
        rw [State.step_closes _ tag, closeBlock_of_closedBy fit rest passed nodes apart]
        exact h.close known closes apart fit
    | «include» name =>
      rw [State.step_include st tag]
      exact ⟨is, h.plain here (.include tag .nil) fun _ _ => by simp [tag]⟩
    | field name =>
      rw [State.step_field st tag]
      exact ⟨is, h.plain here (.field tag .nil) fun _ _ => by simp [tag]⟩
    | unknown =>
      rw [State.step_unknown st tag]
      exact ⟨is, h.plain here (.unknown tag .nil) fun _ _ => by simp [tag]⟩

theorem run {ps : List Piece} (h : Tracks tags read st is) (known : tags = tagsOf (read ++ ps)) :
    ∃ is', Tracks tags (read ++ ps) (st.run ps) is' := by
  induction ps generalizing read st is with
  | nil => exact ⟨is, by rwa [List.append_nil]⟩
  | cons p ps ih =>
    obtain ⟨is', next⟩ := h.step known
    have done := ih next (by rwa [List.append_assoc])
    rwa [List.append_assoc] at done

end Tracks

/-! ### The whole template -/

theorem tracks_run (ps : List Piece) : ∃ is, Tracks (tagsOf ps) ps (State.run ⟨[], []⟩ ps) is := by
  have start : Tracks (tagsOf ps) [] ⟨[], []⟩ [] :=
    ⟨.root .nil, fun i =>
      ⟨fun h => (List.not_mem_nil h).elim, fun h => absurd h.before (Nat.not_lt_zero i)⟩⟩
  exact start.run rfl

/-- A tag that waits at the end makes no block. -/
theorem unpaired_of_pending_end (h : Pending tags i tags.length) (k : Nat) :
    ¬ Paired tags i k ∧ ¬ Paired tags k i := by
  refine ⟨fun paired => ?_, h.not_paired⟩
  obtain ⟨kind, name, closes⟩ := closes_of_fits paired.fitting
  obtain ⟨bound, -⟩ := List.getElem?_eq_some_iff.1 closes
  exact (h.waits k bound).1 paired

theorem formed_run (ps : List Piece) :
    Formed (Paired (tagsOf ps)) 0 ps (State.run ⟨[], []⟩ ps).finish := by
  obtain ⟨is, stands, held⟩ := tracks_run ps
  generalize State.run ⟨[], []⟩ ps = st at stands
  have whole : Stands (Paired (tagsOf ps)) ps ⟨st.nodes, st.opened ++ []⟩ (is ++ []) := by
    rwa [List.append_nil, List.append_nil]
  have done := whole.unwindAll stands.opens.length_eq fun i hi =>
    unpaired_of_pending_end ((held i).1 hi)
  cases done with
  | root formed => exact formed

/-- The tree of a template has a block for each opening tag and closing tag that the rule pairs, and for no
others; one set of pairs alone obeys the rule. -/
theorem parse_innermost (template : List Char) : ∃! blocks : Nat → Nat → Prop,
    (∀ i j, blocks i j ↔ Innermost (tagsOf (pieces template)) blocks i j) ∧
      Formed blocks 0 (pieces template) (parse template) :=
  ⟨Paired (tagsOf (pieces template)), ⟨fun _ _ => paired_iff, formed_run (pieces template)⟩,
    fun _ h => eq_paired h.1⟩

/-- The loop is closed over the condition inside it, whose closing tag then fits nothing. -/
example : closedBefore [.opens .each "a", .opens .cond "b", .closes .each "", .closes .cond ""] 4 =
    [(0, 2)] := by decide

end PageSkins.Template
