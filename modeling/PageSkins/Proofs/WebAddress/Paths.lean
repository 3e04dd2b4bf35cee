import Mathlib.Data.List.DropRight
import PageSkins.Proofs.Lists
import PageSkins.WebAddress

/-!
# What follows the host

A path, a query and a fragment in normal form stay what they are when they are read again.
This also holds when the slashes at the end of the address have been cut off, but for one
thing: a path that held nothing but slashes is read as a single one, which is cut off again.
-/

namespace PageSkins.WebAddress

/-! ### Percent signs -/

/-- The characters that stand for an encoded one. -/
def marks : List Char := "%0123456789ABCDEF".toList

theorem hexDigit_mem_marks : ∀ n < 16, (Nat.digitChar n).toUpper ∈ marks := by
  decide

theorem mem_percent {c d : Char} (h : c ∈ percent d) : c ∈ marks := by
  obtain ⟨b, -, hc⟩ := List.mem_flatMap.1 h
  have bound : b.toNat < 256 := b.toNat_lt
  rcases List.mem_cons.1 hc with rfl | hc
  · decide
  rcases List.mem_cons.1 hc with rfl | hc
  · exact hexDigit_mem_marks _ (by omega)
  · rw [List.mem_singleton.1 hc]
    exact hexDigit_mem_marks _ (by omega)

section
variable {which : Char → Bool} {s : List Char} {c : Char}

theorem mem_encode (h : c ∈ encode which s) : c ∈ marks ∨ (c ∈ s ∧ which c = false) := by
  obtain ⟨d, hd, hc⟩ := List.mem_flatMap.1 h
  split at hc
  · exact .inl (mem_percent hc)
  · rename_i plain
    obtain rfl := List.mem_singleton.1 hc
    exact .inr ⟨hd, Bool.eq_false_iff.2 plain⟩

theorem encode_of_plain (h : ∀ c ∈ s, which c = false) : encode which s = s := by
  induction s with
  | nil => rfl
  | cons c s ih =>
    have plain := h c List.mem_cons_self
    have rest := ih fun d hd => h d (List.mem_cons_of_mem c hd)
    unfold encode at rest ⊢
    rw [List.flatMap_cons, rest, plain]
    rfl

/-- Nothing is left to encode, as long as percent signs and digits are kept. -/
theorem plain_of_mem_encode (kept : ∀ c ∈ marks, which c = false) (h : c ∈ encode which s) :
    which c = false := by
  rcases mem_encode h with h | ⟨-, plain⟩
  · exact kept c h
  · exact plain

theorem encode_encode (kept : ∀ c ∈ marks, which c = false) :
    encode which (encode which s) = encode which s :=
  encode_of_plain fun _ hc => plain_of_mem_encode kept hc

end

theorem marks_inPath : ∀ c ∈ marks, encodedInPath c = false := forall_mem_of_all (by decide)
theorem marks_inUser : ∀ c ∈ marks, encodedInUser c = false := forall_mem_of_all (by decide)
theorem marks_inQuery : ∀ c ∈ marks, encodedInQuery c = false := forall_mem_of_all (by decide)
theorem marks_inFragment : ∀ c ∈ marks, encodedInFragment c = false := forall_mem_of_all (by decide)

/-! ### Slashes at the end -/

/-- A text without the slashes at its end. -/
def trimSlashes (s : List Char) : List Char := s.rdropWhile (· == '/')

theorem length_withoutSlashes (s : String) : (withoutSlashes s).length ≤ s.length := by
  rw [withoutSlashes, String.length_ofList, List.length_reverse, ← String.length_toList,
    ← s.toList.length_reverse]
  exact List.length_dropWhile_le _ _

theorem toList_withoutSlashes (s : String) : (withoutSlashes s).toList = trimSlashes s.toList :=
  String.toList_ofList

theorem trimSlashes_trimSlashes (s : List Char) : trimSlashes (trimSlashes s) = trimSlashes s :=
  List.rdropWhile_idempotent _ s

theorem trimSlashes_slash (s : List Char) : trimSlashes (s ++ ['/']) = trimSlashes s :=
  List.rdropWhile_concat_pos _ _ _ rfl

theorem trimSlashes_concat {c : Char} (h : c ≠ '/') (s : List Char) :
    trimSlashes (s ++ [c]) = s ++ [c] :=
  List.rdropWhile_concat_neg _ _ _ (mt eq_of_beq h)

/-- Nothing is cut off before a character that is no slash. -/
theorem trimSlashes_append_cons {c : Char} (h : c ≠ '/') (a b : List Char) :
    trimSlashes (a ++ c :: b) = a ++ c :: trimSlashes b := by
  induction b using List.reverseRecOn with
  | nil => exact trimSlashes_concat h a
  | append_singleton b d ih =>
    rw [← List.cons_append, ← List.append_assoc]
    by_cases slash : d = '/'
    · subst slash
      rw [trimSlashes_slash, trimSlashes_slash, ih]
    · rw [trimSlashes_concat slash, trimSlashes_concat slash, List.append_assoc, List.cons_append]

/-! ### Segments -/

namespace Host

variable {sep : Char}

theorem splitAt_of_notMem {s : List Char} (h : sep ∉ s) : splitAt sep s = [s] := by
  induction s with
  | nil => rfl
  | cons c s ih =>
    obtain ⟨ne, rest⟩ := not_or.1 (mt List.mem_cons.2 h)
    rw [splitAt, if_neg (Ne.symm ne), ih rest]

theorem splitAt_append_cons {a : List Char} (h : sep ∉ a) (b : List Char) :
    splitAt sep (a ++ sep :: b) = a :: splitAt sep b := by
  induction a with
  | nil => rw [List.nil_append, splitAt, if_pos rfl]
  | cons c a ih =>
    obtain ⟨ne, rest⟩ := not_or.1 (mt List.mem_cons.2 h)
    rw [List.cons_append, splitAt, if_neg (Ne.symm ne), ih rest]

theorem notMem_of_mem_splitAt {s part : List Char} (h : part ∈ splitAt sep s) : sep ∉ part := by
  induction s generalizing part with
  | nil =>
    rw [List.mem_singleton.1 h]
    exact List.not_mem_nil
  | cons c s ih =>
    rw [splitAt] at h
    split at h
    · rcases List.mem_cons.1 h with rfl | h
      · exact List.not_mem_nil
      · exact ih h
    · rename_i other
      split at h
      · rename_i first rest parts
        rcases List.mem_cons.1 h with rfl | h
        · rw [List.mem_cons, not_or]
          exact ⟨Ne.symm other, ih (parts ▸ List.mem_cons_self)⟩
        · exact ih (parts ▸ List.mem_cons_of_mem _ h)
      · rw [List.mem_singleton.1 h, List.mem_singleton]
        exact Ne.symm other

theorem mem_of_mem_splitAt {s part : List Char} {c : Char} (h : part ∈ splitAt sep s)
    (hc : c ∈ part) : c ∈ s := by
  induction s generalizing part with
  | nil => rwa [List.mem_singleton.1 h] at hc
  | cons d s ih =>
    rw [splitAt] at h
    split at h
    · rcases List.mem_cons.1 h with rfl | h
      · cases hc
      · exact List.mem_cons_of_mem d (ih h hc)
    · split at h
      · rename_i first rest parts
        rcases List.mem_cons.1 h with rfl | h
        · rcases List.mem_cons.1 hc with rfl | hc
          · exact List.mem_cons_self
          · exact List.mem_cons_of_mem d (ih (parts ▸ List.mem_cons_self) hc)
        · exact List.mem_cons_of_mem d (ih (parts ▸ List.mem_cons_of_mem _ h) hc)
      · rw [List.mem_singleton.1 h] at hc
        rw [List.mem_singleton.1 hc]
        exact List.mem_cons_self

theorem splitAt_ne_nil (sep : Char) (s : List Char) : splitAt sep s ≠ [] := by
  cases s with
  | nil => exact List.cons_ne_nil _ _
  | cons c s =>
    rw [splitAt]
    split
    · exact List.cons_ne_nil _ _
    · split
      · exact List.cons_ne_nil _ _
      · exact List.cons_ne_nil _ _

end Host

def pathOf (segments : List (List Char)) : List Char := segments.flatMap fun s => '/' :: s

theorem splitAt_pathOf {first : List Char} {rest : List (List Char)}
    (h : ∀ s ∈ first :: rest, '/' ∉ s) :
    Host.splitAt '/' (first ++ pathOf rest) = first :: rest := by
  induction rest generalizing first with
  | nil =>
    change Host.splitAt '/' (first ++ []) = [first]
    rw [List.append_nil, Host.splitAt_of_notMem (h first List.mem_cons_self)]
  | cons second rest ih =>
    have split := Host.splitAt_append_cons (h first List.mem_cons_self) (second ++ pathOf rest)
    rw [ih fun s hs => h s (List.mem_cons_of_mem first hs)] at split
    exact split

/-- What is left of a path without the slashes at its end is a path again. -/
theorem exists_trimSlashes_pathOf {segments : List (List Char)} (h : ∀ s ∈ segments, '/' ∉ s) :
    ∃ kept, kept ⊆ segments ∧ trimSlashes (pathOf segments) = pathOf kept := by
  induction segments using List.reverseRecOn with
  | nil => exact ⟨[], List.Subset.refl _, rfl⟩
  | append_singleton segments last ih =>
    have whole : pathOf (segments ++ [last]) = pathOf segments ++ '/' :: last := by
      simp [pathOf]
    rw [whole]
    cases last using List.reverseRecOn with
    | nil =>
      obtain ⟨kept, sub, same⟩ := ih fun s hs => h s (List.mem_append_left _ hs)
      exact ⟨kept, List.Subset.trans sub (List.subset_append_left _ _),
        (trimSlashes_slash _).trans same⟩
    | append_singleton last c =>
      have ne : c ≠ '/' := by
        rintro rfl
        exact h _ (List.mem_append_right _ List.mem_cons_self)
          (List.mem_append_right _ List.mem_cons_self)
      refine ⟨segments ++ [last ++ [c]], List.Subset.refl _, ?_⟩
      rw [whole, ← List.cons_append, ← List.append_assoc, trimSlashes_concat ne]

/-! ### Paths -/

/-- A segment that is kept as it is. -/
structure Settled (s : List Char) : Prop where
  slash : '/' ∉ s
  backslash : '\\' ∉ s
  plain : ∀ c ∈ s, encodedInPath c = false
  notDot : isDot s = false
  notDots : isDots s = false

theorem settled_nil : Settled [] := ⟨by simp, by simp, by simp, by decide, by decide⟩

/-- What is left of segments is one of them, or empty at the end of a path. -/
theorem mem_resolve {segments above : List (List Char)} {s : List Char}
    (h : s ∈ resolve above segments) :
    s = [] ∨ s ∈ above ∨ (s ∈ segments ∧ isDot s = false ∧ isDots s = false) := by
  fun_induction resolve above segments with
  | case1 above => exact .inr (.inl (List.mem_reverse.1 h))
  | case2 above last dots =>
    rcases List.mem_cons.1 (List.mem_reverse.1 h) with rfl | h
    · exact .inl rfl
    · exact .inr (.inl (List.mem_of_mem_drop h))
  | case3 above last notDots dot =>
    rcases List.mem_cons.1 (List.mem_reverse.1 h) with rfl | h
    · exact .inl rfl
    · exact .inr (.inl h)
  | case4 above last notDots notDot =>
    rcases List.mem_cons.1 (List.mem_reverse.1 h) with rfl | h
    · exact .inr (.inr ⟨List.mem_cons_self, Bool.eq_false_iff.2 notDot, Bool.eq_false_iff.2 notDots⟩)
    · exact .inr (.inl h)
  | case5 above first rest _ dots ih =>
    rcases ih h with rfl | h | ⟨h, plain⟩
    · exact .inl rfl
    · exact .inr (.inl (List.mem_of_mem_drop h))
    · exact .inr (.inr ⟨List.mem_cons_of_mem _ h, plain⟩)
  | case6 above first rest _ notDots dot ih =>
    rcases ih h with rfl | h | ⟨h, plain⟩
    · exact .inl rfl
    · exact .inr (.inl h)
    · exact .inr (.inr ⟨List.mem_cons_of_mem _ h, plain⟩)
  | case7 above first rest _ notDots notDot ih =>
    rcases ih h with rfl | h | ⟨h, plain⟩
    · exact .inl rfl
    · rcases List.mem_cons.1 h with rfl | h
      · exact .inr (.inr ⟨List.mem_cons_self, Bool.eq_false_iff.2 notDot, Bool.eq_false_iff.2 notDots⟩)
      · exact .inr (.inl h)
    · exact .inr (.inr ⟨List.mem_cons_of_mem _ h, plain⟩)

theorem resolve_ne_nil {segments : List (List Char)} (h : segments ≠ []) (above : List (List Char)) :
    resolve above segments ≠ [] := by
  fun_induction resolve above segments with
  | case1 above => exact absurd rfl h
  | case2 | case3 | case4 => simp
  | case5 above first rest more _ ih => exact ih more
  | case6 above first rest more _ _ ih => exact ih more
  | case7 above first rest more _ _ ih => exact ih more

theorem resolve_of_settled {segments : List (List Char)} (h : ∀ s ∈ segments, Settled s)
    (above : List (List Char)) : resolve above segments = above.reverse ++ segments := by
  fun_induction resolve above segments with
  | case1 above => rw [List.append_nil]
  | case2 above last dots => simp [(h last List.mem_cons_self).notDots] at dots
  | case3 above last _ dot => simp [(h last List.mem_cons_self).notDot] at dot
  | case4 above last _ _ => rw [List.reverse_cons]
  | case5 above first rest _ dots => simp [(h first List.mem_cons_self).notDots] at dots
  | case6 above first rest _ _ dot => simp [(h first List.mem_cons_self).notDot] at dot
  | case7 above first rest _ _ _ ih =>
    rw [ih fun s hs => h s (List.mem_cons_of_mem first hs), List.reverse_cons, List.append_assoc]
    rfl

def slashed (s : List Char) : List Char := s.map fun c => if c = '\\' then '/' else c

def unrooted : List Char → List Char
  | '/' :: r => r
  | r => r

theorem pathText_eq (s : List Char) : pathText s =
    pathOf (resolve [] ((Host.splitAt '/' (unrooted (slashed s))).map (encode encodedInPath))) :=
  rfl

theorem notMem_slashed (s : List Char) : '\\' ∉ slashed s := by
  unfold slashed
  rw [List.mem_map]
  rintro ⟨c, -, hc⟩
  split at hc
  · exact absurd hc (by decide)
  · rename_i ne
    exact ne hc

theorem slashed_of_notMem {s : List Char} (h : '\\' ∉ s) : slashed s = s := by
  unfold slashed
  rw [List.map_congr_left (g := id), List.map_id]
  intro c hc
  exact if_neg fun (same : c = '\\') => h (same ▸ hc)

theorem unrooted_subset (s : List Char) : unrooted s ⊆ s := by
  unfold unrooted
  split
  · exact List.subset_cons_self _ _
  · exact List.Subset.refl _

/-- What a path is read as: at least one segment, and only such as are kept. -/
theorem exists_pathText (s : List Char) :
    ∃ segments, segments ≠ [] ∧ (∀ seg ∈ segments, Settled seg) ∧ pathText s = pathOf segments := by
  refine ⟨_, resolve_ne_nil ?_ [], fun seg h => ?_, pathText_eq s⟩
  · exact mt List.map_eq_nil_iff.1 (Host.splitAt_ne_nil _ _)
  · rcases mem_resolve h with rfl | h | ⟨h, notDot, notDots⟩
    · exact settled_nil
    · cases h
    · obtain ⟨part, hp, rfl⟩ := List.mem_map.1 h
      refine ⟨fun hc => ?_, fun hc => ?_, fun c hc => plain_of_mem_encode marks_inPath hc,
        notDot, notDots⟩
      · rcases mem_encode hc with hc | ⟨hc, -⟩
        · exact absurd hc (by decide)
        · exact Host.notMem_of_mem_splitAt hp hc
      · rcases mem_encode hc with hc | ⟨hc, -⟩
        · exact absurd hc (by decide)
        · exact notMem_slashed s (unrooted_subset _ (Host.mem_of_mem_splitAt hp hc))

theorem mem_pathOf {segments : List (List Char)} {c : Char} (h : c ∈ pathOf segments) :
    c = '/' ∨ ∃ s ∈ segments, c ∈ s := by
  obtain ⟨s, hs, hc⟩ := List.mem_flatMap.1 h
  rcases List.mem_cons.1 hc with rfl | hc
  · exact .inl rfl
  · exact .inr ⟨s, hs, hc⟩

theorem pathText_pathOf {segments : List (List Char)} (ne : segments ≠ [])
    (h : ∀ s ∈ segments, Settled s) : pathText (pathOf segments) = pathOf segments := by
  obtain ⟨first, rest, rfl⟩ := List.exists_cons_of_ne_nil ne
  have forward : '\\' ∉ pathOf (first :: rest) := by
    intro hc
    rcases mem_pathOf hc with hc | ⟨s, hs, hc⟩
    · exact absurd hc (by decide)
    · exact (h s hs).backslash hc
  have whole : unrooted (pathOf (first :: rest)) = first ++ pathOf rest := rfl
  have encoded : (first :: rest).map (encode encodedInPath) = first :: rest := by
    rw [List.map_congr_left (g := id), List.map_id]
    intro s hs
    exact encode_of_plain (h s hs).plain
  rw [pathText_eq, slashed_of_notMem forward, whole, splitAt_pathOf fun s hs => (h s hs).slash,
    encoded, resolve_of_settled h]
  rfl

/-! ### Queries and fragments -/

/-- A path with a query and a fragment after it. -/
def restOf (path : List Char) (query fragment : Option (List Char)) : List Char :=
  path ++ (query.elim [] ('?' :: ·) ++ fragment.elim [] ('#' :: ·))

def inPath (c : Char) : Bool := c != '?' && c != '#'

section
variable {path : List Char} {query fragment : Option (List Char)}

theorem takeWhile_restOf (hp : ∀ c ∈ path, inPath c = true) (query fragment : Option (List Char)) :
    (restOf path query fragment).takeWhile inPath = path := by
  unfold restOf
  rw [List.takeWhile_append_of_pos hp]
  cases query with
  | none => cases fragment <;> simp [inPath]
  | some q => simp [inPath]

theorem dropWhile_restOf (hp : ∀ c ∈ path, inPath c = true) (query fragment : Option (List Char)) :
    (restOf path query fragment).dropWhile inPath =
      query.elim [] ('?' :: ·) ++ fragment.elim [] ('#' :: ·) := by
  unfold restOf
  rw [List.dropWhile_append_of_pos hp]
  cases query with
  | none => cases fragment <;> simp [inPath]
  | some q => simp [inPath]

theorem restText_restOf (hp : ∀ c ∈ path, inPath c = true) (hq : ∀ q ∈ query, '#' ∉ q)
    (fragment : Option (List Char)) :
    restText (restOf path query fragment) = restOf (pathText path)
      (query.map (encode encodedInQuery)) (fragment.map (encode encodedInFragment)) := by
  have path' := takeWhile_restOf hp query fragment
  have rest := dropWhile_restOf hp query fragment
  unfold inPath at path' rest
  unfold restText
  rw [path', rest]
  cases query with
  | none =>
    cases fragment with
    | none => simp [restOf]
    | some f => simp [restOf]
  | some q =>
    have all : ∀ c ∈ q, (c != '#') = true := fun c hc =>
      bne_iff_ne.2 fun same => hq q rfl (same ▸ hc)
    cases fragment with
    | none => simp [restOf, List.takeWhile_eq_self_iff.2 all, List.dropWhile_eq_nil_iff.2 all]
    | some f =>
      simp [restOf, List.takeWhile_append_of_pos all, List.dropWhile_append_of_pos all]

end

theorem exists_restOf (s : List Char) : ∃ path query fragment, s = restOf path query fragment ∧
    (∀ c ∈ path, inPath c = true) ∧ ∀ q ∈ query, '#' ∉ q := by
  rcases forall_or_break inPath s with all | ⟨path, c, b, rfl, before, stop⟩
  · exact ⟨s, none, none, by simp [restOf], all, nofun⟩
  · by_cases number : c = '#'
    · subst number
      exact ⟨path, none, some b, by simp [restOf], before, nofun⟩
    · obtain rfl : c = '?' := by simpa [inPath, number] using stop
      by_cases marked : '#' ∈ b
      · obtain ⟨q, f, rfl, plain⟩ := List.eq_append_cons_of_mem marked
        exact ⟨path, some q, some f, by simp [restOf], before, by simpa using plain⟩
      · exact ⟨path, some b, none, by simp [restOf], before, by simpa using marked⟩

/-- What follows the host, in normal form: each part holds only what is kept in it. -/
structure NormalRest (segments : List (List Char)) (query fragment : Option (List Char)) : Prop where
  settled : ∀ s ∈ segments, Settled s
  query : ∀ q ∈ query, ∀ c ∈ q, encodedInQuery c = false
  fragment : ∀ f ∈ fragment, ∀ c ∈ f, encodedInFragment c = false

theorem exists_restText (s : List Char) : ∃ segments query fragment, segments ≠ [] ∧
    NormalRest segments query fragment ∧ restText s = restOf (pathOf segments) query fragment := by
  obtain ⟨path, query, fragment, rfl, before, inner⟩ := exists_restOf s
  obtain ⟨segments, ne, settled, same⟩ := exists_pathText path
  have read := restText_restOf before inner fragment
  rw [same] at read
  refine ⟨segments, _, _, ne, ⟨settled, ?_, ?_⟩, read⟩
  · intro q hq c hc
    obtain ⟨q, -, rfl⟩ := Option.map_eq_some_iff.1 hq
    exact plain_of_mem_encode marks_inQuery hc
  · intro f hf c hc
    obtain ⟨f, -, rfl⟩ := Option.map_eq_some_iff.1 hf
    exact plain_of_mem_encode marks_inFragment hc

namespace NormalRest

variable {segments : List (List Char)} {query fragment : Option (List Char)} {c : Char}

theorem inPath (h : NormalRest segments query fragment) :
    ∀ c ∈ pathOf segments, WebAddress.inPath c = true := by
  intro c hc
  rcases mem_pathOf hc with rfl | ⟨s, hs, hc⟩
  · decide
  · have plain := (h.settled s hs).plain c hc
    rw [WebAddress.inPath, Bool.and_eq_true, bne_iff_ne, bne_iff_ne]
    exact ⟨by rintro rfl; exact absurd plain (by decide), by rintro rfl; exact absurd plain (by decide)⟩

theorem number (h : NormalRest segments query fragment) : ∀ q ∈ query, '#' ∉ q :=
  fun q hq hc => absurd (h.query q hq _ hc) (by decide)

/-- The query and the fragment stay what they are. -/
theorem restText (h : NormalRest segments query fragment) :
    WebAddress.restText (restOf (pathOf segments) query fragment) =
      restOf (pathText (pathOf segments)) query fragment := by
  have query' : query.map (encode encodedInQuery) = query := by
    cases query with
    | none => rfl
    | some q => exact congrArg some (encode_of_plain (h.query q rfl))
  have fragment' : fragment.map (encode encodedInFragment) = fragment := by
    cases fragment with
    | none => rfl
    | some f => exact congrArg some (encode_of_plain (h.fragment f rfl))
  rw [restText_restOf h.inPath h.number fragment, query', fragment']

end NormalRest

theorem trimSlashes_subset (s : List Char) : trimSlashes s ⊆ s :=
  (List.rdropWhile_prefix _ s).subset

/-- What follows the host, without the slashes at its end, is read as it was, up to those
slashes. -/
theorem trimSlashes_restText (s : List Char) :
    trimSlashes (restText (trimSlashes (restText s))) = trimSlashes (restText s) := by
  obtain ⟨segments, query, fragment, ne, h, same⟩ := exists_restText s
  have path := pathText_pathOf ne h.settled
  -- the slashes at the end belong to the last part that there is
  cases fragment with
  | some f =>
    have trimmed : trimSlashes (restOf (pathOf segments) query (some f)) =
        restOf (pathOf segments) query (some (trimSlashes f)) := by
      simp only [restOf, Option.elim_some, ← List.append_assoc]
      exact trimSlashes_append_cons (by decide) _ f
    have h' : NormalRest segments query (some (trimSlashes f)) :=
      ⟨h.settled, h.query, by
        rintro _ ⟨⟩ c hc
        exact h.fragment f rfl c (trimSlashes_subset f hc)⟩
    rw [same, trimmed, h'.restText, path, ← trimmed, trimSlashes_trimSlashes]
  | none =>
    cases query with
    | some q =>
      have trimmed : trimSlashes (restOf (pathOf segments) (some q) none) =
          restOf (pathOf segments) (some (trimSlashes q)) none := by
        simp only [restOf, Option.elim_some, Option.elim_none, List.append_nil]
        exact trimSlashes_append_cons (by decide) _ q
      have h' : NormalRest segments (some (trimSlashes q)) none :=
        ⟨h.settled, by
          rintro _ ⟨⟩ c hc
          exact h.query q rfl c (trimSlashes_subset q hc), nofun⟩
      rw [same, trimmed, h'.restText, path, ← trimmed, trimSlashes_trimSlashes]
    | none =>
      have bare (p : List Char) : restOf p none none = p := by simp [restOf]
      obtain ⟨kept, sub, trimmed⟩ := exists_trimSlashes_pathOf fun seg hs => (h.settled seg hs).slash
      have h' : NormalRest kept none none := ⟨fun seg hs => h.settled seg (sub hs), nofun, nofun⟩
      have read := h'.restText
      rw [bare, bare] at read
      rw [same, bare, trimmed, read]
      by_cases empty : kept = []
      · subst empty
        rfl
      · rw [pathText_pathOf empty h'.settled, ← trimmed, trimSlashes_trimSlashes]

def isPrinted (c : Char) : Bool := 0x20 < c.toNat && c.toNat < 0x7F

theorem isPrinted_of_plain {which : Char → Bool} {c : Char} (h : which c = false)
    (control : isControl c = true → which c = true) (blank : which ' ' = true) :
    isPrinted c = true := by
  have visible : ¬ isControl c = true := fun hc => by simp [control hc] at h
  have solid : c ≠ ' ' := fun same => by simp [same, blank] at h
  have ne : c.toNat ≠ 0x20 := fun same => solid (Char.toNat_inj.1 same)
  simp only [isControl, Bool.or_eq_true, decide_eq_true_eq, not_or] at visible
  simp only [isPrinted, Bool.and_eq_true, decide_eq_true_eq]
  omega

theorem isPrinted_of_mem_restText {s : List Char} {c : Char} (h : c ∈ restText s) :
    isPrinted c = true := by
  obtain ⟨segments, query, fragment, -, normal, same⟩ := exists_restText s
  rw [same] at h
  have path : c ∈ pathOf segments → isPrinted c = true := by
    intro hc
    rcases mem_pathOf hc with rfl | ⟨seg, hs, hc⟩
    · decide
    · exact isPrinted_of_plain ((normal.settled seg hs).plain c hc)
        (fun hc => by simp [encodedInPath, encodedInFragment, hc]) (by decide)
  have beyond : c ∈ query.elim [] ('?' :: ·) → isPrinted c = true := by
    cases query with
    | none => exact nofun
    | some q =>
      intro hc
      rcases List.mem_cons.1 hc with rfl | hc
      · decide
      · exact isPrinted_of_plain (normal.query q rfl c hc)
          (fun hc => by simp [encodedInQuery, hc]) (by decide)
  have last : c ∈ fragment.elim [] ('#' :: ·) → isPrinted c = true := by
    cases fragment with
    | none => exact nofun
    | some f =>
      intro hc
      rcases List.mem_cons.1 hc with rfl | hc
      · decide
      · exact isPrinted_of_plain (normal.fragment f rfl c hc)
          (fun hc => by simp [encodedInFragment, hc]) (by decide)
  unfold restOf at h
  rcases List.mem_append.1 h with h | h
  · exact path h
  · rcases List.mem_append.1 h with h | h
    · exact beyond h
    · exact last h

end PageSkins.WebAddress
