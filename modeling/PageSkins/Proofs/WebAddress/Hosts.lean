import PageSkins.Proofs.Markup.AttributeNames
import PageSkins.Proofs.Text.Utf8
import PageSkins.Proofs.WebAddress.Numbers

/-!
# Hosts

A host in normal form is read as itself. A name is in small letters of ASCII by then, so
that nothing is left to decode, to fold or to encode, and a numeric host is in its usual
notation.
-/

namespace PageSkins.WebAddress.Host

open PageSkins.Text

/-! ### Small letters -/

/-- A character that is no capital of ASCII. -/
def IsSmall (c : Char) : Prop := c.toLower = c

instance (c : Char) : Decidable (IsSmall c) := inferInstanceAs (Decidable (c.toLower = c))

theorem isSmall_toLower (c : Char) : IsSmall c.toLower := Markup.toLower_toLower c

theorem isSmall_of_le {c : Char} (h : 0x5B ≤ c.toNat) : IsSmall c := by
  unfold IsSmall Char.toLower
  rw [dif_neg]
  rintro ⟨-, upper⟩
  have bound : c.toNat ≤ 90 := upper
  omega

theorem isSmall_ofNat {n : Nat} (h : 0x5B ≤ n) : IsSmall (Char.ofNat n) := by
  by_cases valid : n.isValidChar
  · have number : (Char.ofNat n).toNat = n := by
      unfold Char.ofNat
      rw [dif_pos valid]
      rfl
    exact isSmall_of_le (by rw [number]; exact h)
  · have zero : Char.ofNat n = '\x00' := by
      unfold Char.ofNat
      rw [dif_neg valid]
      rfl
    rw [zero]
    decide

theorem target_le_image? {rs : List CaseRun} {n m : Nat} (h : CaseRun.image? rs n = some m) :
    ∃ r ∈ rs, r.target ≤ m := by
  induction rs with
  | nil => cases h
  | cons r rs ih =>
    unfold CaseRun.image? at h
    split at h
    · cases h
    split at h
    · exact ⟨r, List.mem_cons_self, by rw [← Option.some.inj h]; exact Nat.le_add_right _ _⟩
    · obtain ⟨r', hr, bound⟩ := ih h
      exact ⟨r', List.mem_cons_of_mem r hr, bound⟩

theorem lowerRuns_target : ∀ r ∈ lowerRuns, 0x5B ≤ r.target := by decide +kernel

theorem isSmall_of_mem_lowerChar {c d : Char} (wide : 0x80 ≤ c.toNat) (h : d ∈ lowerChar c) :
    IsSmall d := by
  unfold lowerChar at h
  split at h
  · rcases List.mem_cons.1 h with rfl | h
    · decide
    · rw [List.mem_singleton.1 h]
      decide
  · split at h
    · rename_i n image
      obtain ⟨r, hr, bound⟩ := target_le_image? image
      rw [List.mem_singleton.1 h]
      exact isSmall_ofNat ((lowerRuns_target r hr).trans bound)
    · rw [List.mem_singleton.1 h]
      exact isSmall_of_le (by omega)

theorem isSmall_of_mem_foldChar {c d : Char} (h : d ∈ foldChar c) : IsSmall d := by
  unfold foldChar at h
  dsimp only at h
  split at h
  · rw [List.mem_singleton.1 h]
    decide
  split at h
  · rw [List.mem_singleton.1 h]
    exact isSmall_toLower _
  split at h
  · cases h
  split at h
  · rw [List.mem_singleton.1 h]
    exact isSmall_toLower _
  · rename_i wide
    unfold lower lowerFrom lowerFrom lowerAt at h
    rw [List.append_nil] at h
    split at h
    · split at h
      · rw [List.mem_singleton.1 h]
        decide
      · rw [List.mem_singleton.1 h]
        decide
    · exact isSmall_of_mem_lowerChar (by omega) h

/-! ### Labels -/

structure IsPlain (c : Char) : Prop where
  ascii : c.toNat < 0x80
  small : IsSmall c

theorem isPlain_digit36 : ∀ n < 36, (digit36 n).toNat < 0x80 ∧ (digit36 n).toLower = digit36 n := by
  decide

theorem isPlain_of_mem_varint {bias fuel k q : Nat} {c : Char} (h : c ∈ varint bias fuel k q) :
    IsPlain c := by
  have digit {n : Nat} (hn : n < 36) : IsPlain (digit36 n) :=
    ⟨(isPlain_digit36 n hn).1, (isPlain_digit36 n hn).2⟩
  induction fuel generalizing k q with
  | zero => cases h
  | succ fuel ih =>
    unfold varint at h
    dsimp only at h
    generalize threshold : (if k ≤ bias then 1 else if k ≥ bias + 26 then 26 else k - bias) = t at h
    have bound : t ≤ 26 := by
      rw [← threshold]
      split
      · decide
      split
      · decide
      · omega
    split at h
    · rw [List.mem_singleton.1 h]
      exact digit (by omega)
    · rcases List.mem_cons.1 h with rfl | h
      · have rest : (q - t) % (36 - t) < 36 - t := Nat.mod_lt _ (by omega)
        exact digit (by omega)
      · exact ih h

def Encoder.Plain (e : Encoder) : Prop := ∀ c ∈ e.out, IsPlain c

theorem Encoder.Plain.encodeStep {e : Encoder} (h : e.Plain) (basic : Nat) (label : List Nat) :
    (encodeStep basic label e).Plain := by
  unfold Host.encodeStep
  split
  · exact h
  · rename_i m _
    refine List.foldlRecOn (motive := Encoder.Plain) label _ h fun e he c _ => ?_
    split
    · exact he
    split
    · intro d hd
      rcases List.mem_append.1 hd with hd | hd
      · exact he d hd
      · exact isPlain_of_mem_varint hd
    · exact he

/-- A label is encoded in characters of ASCII, without capitals if it had none. -/
theorem isPlain_of_mem_encodeLabel {label : List Char} (small : ∀ c ∈ label, IsSmall c) {c : Char}
    (h : c ∈ encodeLabel label) : IsPlain c := by
  unfold encodeLabel at h
  split at h
  · rename_i ascii
    exact ⟨of_decide_eq_true (List.all_eq_true.1 ascii c h), small c h⟩
  · have start : ({ done := (label.filter (·.toNat < 128)).length } : Encoder).Plain := nofun
    have done := List.foldlRecOn (motive := Encoder.Plain) (List.range label.length) _ start
      fun e he _ _ => he.encodeStep (label.filter (·.toNat < 128)).length (label.map Char.toNat)
    rcases List.mem_append.1 h with h | h
    · rcases List.mem_append.1 h with h | h
      · rcases List.mem_append.1 h with h | h
        · exact ⟨(forall_mem_of_all (by decide) : ∀ c ∈ "xn--".toList, c.toNat < 0x80) c h,
            (forall_mem_of_all (by decide) : ∀ c ∈ "xn--".toList, c.toLower = c) c h⟩
        · obtain ⟨hc, ascii⟩ := List.mem_filter.1 h
          exact ⟨of_decide_eq_true ascii, small c hc⟩
      · split at h
        · cases h
        · rw [List.mem_singleton.1 h]
          exact ⟨by decide, by decide⟩
    · exact done c h

theorem encodeLabel_of_ascii {label : List Char} (h : ∀ c ∈ label, c.toNat < 0x80) :
    encodeLabel label = label := by
  unfold encodeLabel
  rw [if_pos (List.all_eq_true.2 fun c hc => decide_eq_true (h c hc))]

theorem intercalate_splitAt (sep : Char) (s : List Char) :
    [sep].intercalate (splitAt sep s) = s := by
  induction s with
  | nil => rfl
  | cons c s ih =>
    obtain ⟨part, rest, parts⟩ := List.exists_cons_of_ne_nil (splitAt_ne_nil sep s)
    rw [parts] at ih
    rw [splitAt, parts]
    split
    · rename_i same
      rw [List.intercalate_cons_cons, ih, same]
      rfl
    · dsimp only
      rw [List.intercalate_cons_cons_left, ih]

/-! ### Reading a host -/

theorem percentDecode_of_notMem {s : List Char} (h : '%' ∉ s) : percentDecode s = encodeUtf8 s := by
  induction s with
  | nil => rfl
  | cons c s ih =>
    obtain ⟨ne, rest⟩ := not_or.1 (mt List.mem_cons.2 h)
    rw [percentDecode, ih rest]
    · rfl
    · rintro a b t same -
      exact ne same.symm

/-- A name that may be the host of a web address. -/
structure IsName (s : List Char) : Prop where
  ne : s ≠ []
  plain : ∀ c ∈ s, IsPlain c
  allowed : ∀ c ∈ s, isForbidden c = false

theorem flatMap_foldChar {s : List Char} (h : ∀ c ∈ s, IsPlain c) : s.flatMap foldChar = s := by
  induction s with
  | nil => rfl
  | cons c s ih =>
    have ascii := (h c List.mem_cons_self).ascii
    have one : foldChar c = [c.toLower] := by
      unfold foldChar
      dsimp only
      rw [if_neg (by omega), if_neg (by omega), if_neg (by omega), if_pos ascii]
    have rest := ih fun d hd => h d (List.mem_cons_of_mem c hd)
    rw [List.flatMap_cons, rest, one, (h c List.mem_cons_self).small]
    rfl

theorem IsName.notMem {s : List Char} (h : IsName s) {c : Char} (mark : isForbidden c = true) :
    c ∉ s := fun hc => by
  rw [h.allowed c hc] at mark
  cases mark

/-- A name is left alone, or taken as a number. -/
theorem IsName.read? {s : List Char} (h : IsName s) :
    Host.read? s = if isNumeric s then ofNumbers? s else some s := by
  have percent : '%' ∉ s := h.notMem (by decide)
  have bracket : '[' ∉ s := h.notMem (by decide)
  have labels : (splitAt '.' s).map encodeLabel = splitAt '.' s := by
    rw [List.map_congr_left (g := id), List.map_id]
    intro label hl
    exact encodeLabel_of_ascii fun c hc => (h.plain c (mem_of_mem_splitAt hl hc)).ascii
  have taken : ¬ (s.isEmpty = true ∨ s.any isForbidden = true) := by
    rw [not_or, List.isEmpty_iff, List.any_eq_true]
    refine ⟨h.ne, ?_⟩
    rintro ⟨c, hc, mark⟩
    exact h.notMem mark hc
  unfold Host.read?
  split
  · exact absurd List.mem_cons_self bracket
  · rw [percentDecode_of_notMem percent, decodeUtf8?_encodeUtf8]
    simp only [Option.bind_eq_bind, Option.bind_some]
    rw [flatMap_foldChar h.plain, labels, intercalate_splitAt, if_neg taken]

theorem mem_intercalate {sep c : Char} {parts : List (List Char)}
    (h : c ∈ [sep].intercalate parts) : c = sep ∨ ∃ part ∈ parts, c ∈ part := by
  match parts with
  | [] => cases h
  | [part] =>
    rw [List.intercalate_singleton] at h
    exact .inr ⟨part, List.mem_cons_self, h⟩
  | part :: next :: rest =>
    rw [List.intercalate_cons_cons] at h
    rcases List.mem_append.1 h with h | h
    · rcases List.mem_append.1 h with h | h
      · exact .inr ⟨part, List.mem_cons_self, h⟩
      · exact .inl (List.mem_singleton.1 h)
    · rcases mem_intercalate h with same | ⟨p, hp, hc⟩
      · exact .inl same
      · exact .inr ⟨p, List.mem_cons_of_mem part hp, hc⟩

/-- A host without brackets is a name of small letters, or four bytes. -/
theorem exists_isName {s t : List Char} (h : Host.read? s = some t)
    (bare : ∀ r, s ≠ '[' :: r) :
    (IsName t ∧ isNumeric t = false) ∨ ∃ name, ofNumbers? name = some t := by
  unfold Host.read? at h
  split at h
  · exact absurd rfl (bare _)
  obtain ⟨shown, -, h⟩ := Option.bind_eq_some_iff.1 h
  dsimp only at h
  have plain : ∀ c ∈ ['.'].intercalate ((splitAt '.' (shown.flatMap foldChar)).map encodeLabel),
      IsPlain c := by
    intro c hc
    rcases mem_intercalate hc with rfl | ⟨part, hp, hc⟩
    · exact ⟨by decide, by decide⟩
    · obtain ⟨label, hl, rfl⟩ := List.mem_map.1 hp
      refine isPlain_of_mem_encodeLabel (fun d hd => ?_) hc
      obtain ⟨e, -, he⟩ := List.mem_flatMap.1 (mem_of_mem_splitAt hl hd)
      exact isSmall_of_mem_foldChar he
  generalize ['.'].intercalate _ = name at h plain
  split at h
  · cases h
  rename_i taken
  rw [not_or, List.isEmpty_iff, List.any_eq_true] at taken
  have allowed : ∀ c ∈ name, isForbidden c = false := fun c hc =>
    Bool.eq_false_iff.2 fun mark => taken.2 ⟨c, hc, mark⟩
  split at h
  · exact .inr ⟨name, h⟩
  · rename_i worded
    obtain rfl := Option.some.inj h
    exact .inl ⟨⟨taken.1, plain, allowed⟩, Bool.eq_false_iff.2 worded⟩

/-! ### Hosts beside a user and a port -/

/-- Characters that end a host, or the user before it. -/
def hostEnds : List Char := ['/', '?', '#', '\\', '@']

/-- A host that is read as itself, also beside a user and a port. -/
structure IsNormal (h : List Char) : Prop where
  read? : Host.read? h = some h
  ne : h ≠ []
  printed : ∀ c ∈ h, isPrinted c = true
  inside : ∀ c ∈ h, c ∉ hostEnds
  splitPort : ∀ port : Option (List Char),
    splitPort false (h ++ port.elim [] (':' :: ·)) = (h, port)

theorem splitPort_of_notMem {h : List Char} (colon : ':' ∉ h) (opening : '[' ∉ h)
    (closing : ']' ∉ h) (port : Option (List Char)) :
    splitPort false (h ++ port.elim [] (':' :: ·)) = (h, port) := by
  induction h with
  | nil =>
    cases port with
    | none => rfl
    | some p => simp [WebAddress.splitPort]
  | cons c h ih =>
    rw [List.mem_cons, not_or] at colon opening closing
    rw [List.cons_append, WebAddress.splitPort, if_neg (fun same => colon.1 same.1.symm),
      if_neg (Ne.symm opening.1), if_neg (Ne.symm closing.1), ih colon.2 opening.2 closing.2]

theorem splitPort_brackets {inside : List Char} (closing : ']' ∉ inside) (rest : List Char) :
    splitPort true (inside ++ ']' :: rest) =
      (inside ++ ']' :: (splitPort false rest).1, (splitPort false rest).2) := by
  induction inside with
  | nil => simp [WebAddress.splitPort]
  | cons c inside ih =>
    rw [List.mem_cons, not_or] at closing
    rw [List.cons_append, WebAddress.splitPort, if_neg (by simp), if_neg (Ne.symm closing.1), ite_self,
      ih closing.2]
    rfl

theorem IsName.isNormal {s : List Char} (h : IsName s) (again : Host.read? s = some s) :
    IsNormal s where
  read? := again
  ne := h.ne
  printed c hc := by
    have ascii := (h.plain c hc).ascii
    have allowed := h.allowed c hc
    simp only [isForbidden, Bool.or_eq_false_iff, decide_eq_false_iff_not] at allowed
    simp only [isPrinted, Bool.and_eq_true, decide_eq_true_eq]
    omega
  inside c hc mark := by
    have all : ∀ d ∈ hostEnds, isForbidden d = true := forall_mem_of_all (by decide)
    exact h.notMem (all c mark) hc
  splitPort := splitPort_of_notMem (h.notMem (by decide)) (h.notMem (by decide))
    (h.notMem (by decide))

theorem isName_shortText (a b c d : Nat) : IsName (shortText a b c d) where
  ne := by simp [shortText]
  plain x hx := by
    have all : ∀ y ∈ ".0123456789".toList, y.toNat < 0x80 ∧ IsSmall y :=
      forall_mem_of_all (by decide)
    have known := all x (mem_shortText hx)
    exact ⟨known.1, known.2⟩
  allowed x hx := by
    have all : ∀ y ∈ ".0123456789".toList, isForbidden y = false := forall_mem_of_all (by decide)
    exact all x (mem_shortText hx)

theorem isNormal_shortText {a b c d : Nat} (ha : a < 256) (hb : b < 256) (hc : c < 256)
    (hd : d < 256) : IsNormal (shortText a b c d) := by
  have name := isName_shortText a b c d
  refine name.isNormal ?_
  rw [name.read?, if_pos (isNumeric_shortText a b c d), ofNumbers?_shortText ha hb hc hd]

theorem mem_ofGroups {gs : List Nat} {c : Char} (h : c ∈ ofGroups gs) :
    c ∈ "[]:0123456789abcdef".toList := by
  rw [ofGroups_eq] at h
  rcases List.mem_cons.1 h with rfl | h
  · exact List.mem_cons_self
  rcases List.mem_append.1 h with h | h
  · exact List.mem_cons_of_mem _ (List.mem_cons_of_mem _ (mem_insideText h))
  · rw [List.mem_singleton.1 h]
    exact List.mem_cons_of_mem _ List.mem_cons_self

theorem isNormal_ofGroups {gs : List Nat} (eight : gs.length = 8) (h : ∀ g ∈ gs, IsGroup g) :
    IsNormal (ofGroups gs) where
  read? := by
    rw [ofGroups_eq, List.cons_append, Host.read?]
    simp only [List.getLast?_concat, List.dropLast_concat]
    rw [eight?_insideText eight h, Option.map_some, ofGroups_eq, List.cons_append]
  ne := List.cons_ne_nil _ _
  printed c hc := by
    have all : ∀ x ∈ "[]:0123456789abcdef".toList, isPrinted x = true :=
      forall_mem_of_all (by decide)
    exact all c (mem_ofGroups hc)
  inside c hc := by
    have all : ∀ x ∈ "[]:0123456789abcdef".toList, x ∉ hostEnds := forall_mem_of_all (by decide)
    exact all c (mem_ofGroups hc)
  splitPort port := by
    have closing : ']' ∉ insideText gs := fun hc => absurd (mem_insideText hc) (by decide)
    have rest := splitPort_of_notMem (h := []) (by simp) (by simp) (by simp) port
    rw [List.nil_append] at rest
    rw [ofGroups_eq, List.cons_append, List.cons_append, List.append_assoc, WebAddress.splitPort,
      if_neg (by decide), if_pos rfl, List.singleton_append, splitPort_brackets closing, rest]

/-- Every host that is read is in normal form then. -/
theorem isNormal_of_read? {s h : List Char} (read : Host.read? s = some h) : IsNormal h := by
  by_cases bracket : ∃ r, s = '[' :: r
  · obtain ⟨r, rfl⟩ := bracket
    rw [Host.read?] at read
    split at read
    · obtain ⟨gs, eight, rfl⟩ := Option.map_eq_some_iff.1 read
      obtain ⟨length, groups⟩ := groups_of_eight? eight
      exact isNormal_ofGroups length groups
    · cases read
  · rcases exists_isName read (fun r same => bracket ⟨r, same⟩) with ⟨name, worded⟩ | ⟨name, number⟩
    · refine name.isNormal ?_
      rw [name.read?, worded]
      rfl
    · obtain ⟨a, b, c, d, ha, hb, hc, hd, rfl⟩ := exists_shortText number
      exact isNormal_shortText ha hb hc hd

end PageSkins.WebAddress.Host
