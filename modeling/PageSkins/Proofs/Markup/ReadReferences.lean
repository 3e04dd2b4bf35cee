import PageSkins.Markup.Address
import PageSkins.Proofs.Markup.BrowserReading
import PageSkins.Proofs.Markup.References

/-!
# References that a browser reads as they are meant

Where a reference with its semicolon stands for something, a browser takes it to
its semicolon too, and reads the same character as far as the characters of an
address go. For a name this is a property of the tables: no name holds a
semicolon, and the names that need none are names that may have one.
-/

namespace PageSkins.Markup.Reference

open Address (counts)

/-! ### The tables of names -/

theorem partsAt_eq (mark : Char) (s : List Char) :
    ∃ rest, partsAt mark s = s.takeWhile (· != mark) :: rest := by
  induction s with
  | nil => exact ⟨[], rfl⟩
  | cons c s ih =>
    obtain ⟨rest, hs⟩ := ih
    by_cases hc : c = mark
    · exact ⟨partsAt mark s, by simp [partsAt, hc]⟩
    · exact ⟨rest, by simp [partsAt, hc, hs]⟩

def words (lines : List (List Char)) : List (List Char) := lines.flatMap (partsAt ' ')

/-- The names that are written for characters, with the numbers of the characters. -/
def escapeNames : List (List Char × List Char) :=
  [(['a', 'm', 'p'], ['2', '6']), (['l', 't'], ['3', 'C']), (['g', 't'], ['3', 'E']),
    (['q', 'u', 'o', 't'], ['2', '2'])]

/-- Every word of the first lines gives a name of letters and digits its value. The words of the others are
among these names, in their order. The names that are written for characters are in both. -/
def tablesAgree (lines bareLines : List (List Char)) : Bool :=
  ((words lines).all fun w =>
    (partsAt '=' w).length == 2 && (w.takeWhile (· != '=')).all Char.isAlphanum) &&
  (words bareLines).isSublist ((words lines).map (·.takeWhile (· != '='))) &&
  escapeNames.all fun e => (words bareLines).contains e.1 &&
    (words lines).find? (fun w => w.takeWhile (· != '=') == e.1) == some (e.1 ++ '=' :: e.2)

theorem toLists_cons {s : String} {l : List Char} {table : List String} {lines : List (List Char)}
    (h : s.toList = l) (t : table.map String.toList = lines) :
    (s :: table).map String.toList = l :: lines := by
  rw [List.map_cons, h, t]

set_option maxRecDepth 20000 in
theorem tables_agree :
    tablesAgree (namedTable.map String.toList) (bareTable.map String.toList) = true := by
  -- The lines are taken apart into characters before anything is computed.
  obtain ⟨lines, bareLines, rfl, rfl, agree⟩ : ∃ lines bareLines,
      namedTable.map String.toList = lines ∧ bareTable.map String.toList = bareLines ∧
        tablesAgree lines bareLines = true := by
    apply Exists.intro
    apply Exists.intro
    apply And.intro
    · unfold namedTable
      repeat apply toLists_cons String.toList_ofList
      exact rfl
    · apply And.intro
      · unfold bareTable
        repeat apply toLists_cons String.toList_ofList
        exact rfl
      · decide +kernel
  exact agree

theorem named_eq : named = (words (namedTable.map String.toList)).map parseEntry := by
  simp [named, words, List.flatMap_map, List.map_flatMap]

theorem bare_eq : bare = (words (bareTable.map String.toList)).map fun n =>
    (String.ofList n, (named.lookup (String.ofList n)).getD []) := by
  simp [bare, words, List.flatMap_map, List.map_flatMap]

/-- A word of the table names what stands before its equals sign. -/
theorem parseEntry_word {w : List Char} (h : w ∈ words (namedTable.map String.toList)) :
    ∃ v, parseEntry w = (String.ofList (w.takeWhile (· != '=')), v) ∧ v ≠ [] ∧
      ∀ c ∈ w.takeWhile (· != '='), c.isAlphanum = true := by
  have agree := tables_agree
  rw [tablesAgree, Bool.and_eq_true, Bool.and_eq_true] at agree
  obtain ⟨two, plain⟩ := Bool.and_eq_true_iff.1 (List.all_eq_true.1 agree.1.1 w h)
  obtain ⟨rest, hw⟩ := partsAt_eq '=' w
  rw [hw] at two
  obtain ⟨codes, rfl⟩ : ∃ codes, rest = [codes] := List.length_eq_one_iff.1 (by simpa using two)
  refine ⟨(partsAt '+' codes).map fun h => Char.ofNat (hexNumber h), by rw [parseEntry, hw], ?_,
    List.all_eq_true.1 plain⟩
  obtain ⟨more, hc⟩ := partsAt_eq '+' codes
  rw [hc]
  exact List.cons_ne_nil _ _

/-- A name is spelled with letters and digits, and stands for something. -/
theorem plain_of_mem_named {e : String × List Char} (h : e ∈ named) :
    e.2 ≠ [] ∧ ∀ c ∈ e.1.toList, c.isAlphanum = true := by
  rw [named_eq] at h
  obtain ⟨w, hw, rfl⟩ := List.mem_map.1 h
  obtain ⟨v, parsed, some', plain⟩ := parseEntry_word hw
  rw [parsed]
  refine ⟨some', fun c hc => plain c ?_⟩
  rwa [String.toList_ofList] at hc

theorem semicolon_notMem_named {e : String × List Char} (h : e ∈ named) : ';' ∉ e.1.toList :=
  fun hm => absurd ((plain_of_mem_named h).2 _ hm) (by decide)

theorem mem_of_lookup {name : String} {table : List (String × List Char)} {value : List Char}
    (h : table.lookup name = some value) : (name, value) ∈ table := by
  obtain ⟨l, r, rfl, -⟩ := List.lookup_eq_some_iff.1 h
  exact List.mem_append_right _ List.mem_cons_self

/-- A name that needs no semicolon is a name that may have one, and stands for the same. -/
theorem lookup_named_of_bare {e : String × List Char} (h : e ∈ bare) :
    named.lookup e.1 = some e.2 := by
  rw [bare_eq] at h
  obtain ⟨n, hn, rfl⟩ := List.mem_map.1 h
  have agree := tables_agree
  rw [tablesAgree, Bool.and_eq_true, Bool.and_eq_true] at agree
  have sublist := List.isSublist_iff_sublist.1 agree.1.2
  obtain ⟨w, hw, rfl⟩ := List.mem_map.1 (sublist.subset hn)
  obtain ⟨v, parsed, -, -⟩ := parseEntry_word hw
  have listed : (String.ofList (w.takeWhile (· != '=')), v) ∈ named := by
    rw [named_eq, ← parsed]
    exact List.mem_map_of_mem hw
  dsimp only
  cases found : named.lookup (String.ofList (w.takeWhile (· != '='))) with
  | some u => rfl
  | none => simpa using List.lookup_eq_none_iff.1 found _ listed

/-- A name that is written for a character stands for it. -/
theorem lookup_bare_escape {e : List Char × List Char} (he : e ∈ escapeNames) :
    bare.lookup (String.ofList e.1) = some (parseEntry (e.1 ++ '=' :: e.2)).2 := by
  have agree := tables_agree
  rw [tablesAgree, Bool.and_eq_true] at agree
  obtain ⟨listed, found⟩ := Bool.and_eq_true_iff.1 (List.all_eq_true.1 agree.2 e he)
  have found := eq_of_beq found
  -- The table of all names gives the value that stands first for the name.
  have value : named.lookup (String.ofList e.1) = some (parseEntry (e.1 ++ '=' :: e.2)).2 := by
    obtain ⟨same, l₁, l₂, split, first⟩ := List.find?_eq_some_iff_append.1 found
    have parsed : ∀ w ∈ words (namedTable.map String.toList),
        (parseEntry w).1 = String.ofList (w.takeWhile (· != '=')) := by
      intro w hw
      obtain ⟨v, parsed, -⟩ := parseEntry_word hw
      rw [parsed]
    rw [named_eq, List.lookup_eq_some_iff]
    refine ⟨l₁.map parseEntry, l₂.map parseEntry, ?_, ?_⟩
    · have here := parsed _ (List.mem_of_find?_eq_some found)
      rw [eq_of_beq same] at here
      rw [split, List.map_append, List.map_cons, ← here]
    · intro x hx
      obtain ⟨w, hw, rfl⟩ := List.mem_map.1 hx
      rw [parsed w (by rw [split]; exact List.mem_append_left _ hw)]
      have other : w.takeWhile (· != '=') ≠ e.1 := by simpa using first w hw
      simpa [String.ofList_inj] using fun same => other same.symm
  have known : (String.ofList e.1, (parseEntry (e.1 ++ '=' :: e.2)).2) ∈ bare := by
    rw [bare_eq]
    refine List.mem_map.2 ⟨e.1, List.contains_iff_mem.1 listed, ?_⟩
    rw [value]
    rfl
  cases same : bare.lookup (String.ofList e.1) with
  | none => simpa using List.lookup_eq_none_iff.1 same _ known
  | some v =>
    have again := lookup_named_of_bare (mem_of_lookup same)
    rw [value] at again
    exact again.symm

/-! ### Names -/

theorem mem_named_of_bare {e : String × List Char} (h : e ∈ bare) : e ∈ named :=
  mem_of_lookup (lookup_named_of_bare h)

/-- A text without a semicolon at the start of another ends before the first semicolon there. -/
theorem length_le_of_start {n b s : List Char} (bare : ';' ∉ n) (h : n <+: b ++ ';' :: s) :
    n.length ≤ b.length := by
  obtain ⟨t, ht⟩ := h
  obtain ⟨d, cut, -⟩ := exists_append_of_notMem bare ht
  rw [cut, List.length_append]
  omega

theorem argmax_of_first {α : Type} {f : α → Nat} {s t : List α} {a : α}
    (before : ∀ x ∈ s, f x < f a) (after : ∀ x ∈ t, f x ≤ f a) :
    (s ++ a :: t).argmax f = some a := by
  classical
  have apart : a ∉ s := fun hm => Nat.lt_irrefl _ (before a hm)
  refine List.argmax_eq_some_iff.2 ⟨by simp, ?_, ?_⟩
  · intro x hx
    rcases List.mem_append.1 hx with hx | hx
    · exact Nat.le_of_lt (before x hx)
    · rcases List.mem_cons.1 hx with rfl | hx
      · exact Nat.le_refl _
      · exact after x hx
  · intro x _ most
    have outside : x ∉ s := fun hm => Nat.lt_irrefl _ (Nat.lt_of_lt_of_le (before x hm) most)
    rw [List.idxOf_append_of_notMem apart, List.idxOf_append_of_notMem outside, List.idxOf_cons_self]
    omega

/-- No spelling of a name goes on past the first semicolon. -/
theorem length_spelling_le {e : List Char × List Char} (he : e ∈ spellings) {name s : List Char}
    (start : e.1 <+: name ++ ';' :: s) : e.1.length ≤ name.length + 1 := by
  rcases List.mem_append.1 he with he | he
  · obtain ⟨x, hx, rfl⟩ := List.mem_map.1 he
    rw [List.length_append]
    exact Nat.add_le_add_right (length_le_of_start (semicolon_notMem_named hx)
      ((List.prefix_append _ _).trans start)) 1
  · obtain ⟨x, hx, rfl⟩ := List.mem_map.1 he
    exact Nat.le_succ_of_le
      (length_le_of_start (semicolon_notMem_named (mem_named_of_bare hx)) start)

/-- A known name with its semicolon is the longest one there. -/
theorem nameAt?_semicolon {name cs : List Char} (known : bare.lookup (String.ofList name) = some cs)
    (s : List Char) : nameAt? (name ++ ';' :: s) = some (cs, name.length + 1) := by
  obtain ⟨l₁, l₂, hnamed, first⟩ :=
    List.lookup_eq_some_iff.1 (lookup_named_of_bare (mem_of_lookup known))
  have spelled : spellings = l₁.map (fun e => (e.1.toList ++ [';'], e.2)) ++
      (name ++ [';'], cs) :: (l₂.map (fun e => (e.1.toList ++ [';'], e.2)) ++
        bare.map fun e => (e.1.toList, e.2)) := by
    rw [spellings, hnamed]
    simp
  have whole : name ++ [';'] <+: name ++ ';' :: s := ⟨s, by simp⟩
  have longest : (spellings.filter fun e => e.1.isPrefixOf (name ++ ';' :: s)).argmax
      (fun e => e.1.length) = some (name ++ [';'], cs) := by
    have here : (name ++ [';']).isPrefixOf (name ++ ';' :: s) = true :=
      List.isPrefixOf_iff_prefix.2 whole
    rw [spelled, List.filter_append, List.filter_cons, if_pos here]
    refine argmax_of_first (fun e he => ?_) fun e he => ?_
    · obtain ⟨he, start⟩ := List.mem_filter.1 he
      have start := List.isPrefixOf_iff_prefix.1 start
      have le := length_spelling_le (by rw [spelled]; exact List.mem_append_left _ he) start
      obtain ⟨x, hx, rfl⟩ := List.mem_map.1 he
      -- An equally long spelling before this one would be of the same name.
      refine Nat.lt_of_le_of_ne (by simpa using le) fun same => ?_
      have equal := (List.prefix_of_prefix_length_le start whole (Nat.le_of_eq same)).eq_of_length same
      have cut : x.1.toList = name := by simpa using equal
      have apart := first x hx
      rw [← cut, String.ofList_toList] at apart
      simp at apart
    · obtain ⟨he, start⟩ := List.mem_filter.1 he
      have le := length_spelling_le (by rw [spelled]; exact List.mem_append_right _ (List.mem_cons_of_mem _ he))
        (List.isPrefixOf_iff_prefix.1 start)
      simpa using le
  rw [nameAt?, longest]
  simp

/-! ### Numbers -/

theorem counts_eq_false {c : Char} (h : c.toNat ≤ 0x20 ∨ 0x7f ≤ c.toNat) : counts c = false := by
  refine Bool.eq_false_iff.2 fun on => ?_
  simp only [counts, Bool.and_eq_true, decide_eq_true_eq] at on
  have low : 0x21 ≤ c.toNat := on.1.1
  have high : c.toNat ≤ 0x7e := on.1.2
  omega

theorem toNat_ofNat_cases (n : Nat) : (Char.ofNat n).toNat = n ∨ (Char.ofNat n).toNat = 0 := by
  by_cases h : n.isValidChar
  · left
    rw [Char.ofNat, dif_pos h]
    rfl
  · right
    rw [Char.ofNat, dif_neg h]
    rfl

theorem counts_ofNat {n : Nat} (h : 0x7f ≤ n) : counts (Char.ofNat n) = false := by
  apply counts_eq_false
  rcases toNat_ofNat_cases n with same | zero <;> omega

/-- Where a number stands for a character of an address, a browser reads the same. -/
theorem filter_browserChar {n : Nat} {cs : List Char} (known : ofCode n = .chars cs) :
    [browserChar n].filter counts = cs.filter counts := by
  have legacy : ∀ m ∈ legacyCodes, 0x7f ≤ m := by decide
  unfold ofCode at known
  split at known
  · rename_i range
    cases known
    by_cases surrogate : 0xD800 ≤ n ∧ n < 0xE000
    · have both : browserChar n = '\ufffd' ∧ charOfCode n = '\ue000' := by
        simp [browserChar, charOfCode, surrogate]
      rw [both.1, both.2]
      decide
    · have char : charOfCode n = Char.ofNat n := if_neg surrogate
      have others : ¬ (n = 0 ∨ 0x110000 ≤ n ∨ 0xD800 ≤ n ∧ n < 0xE000) := by omega
      rw [char, browserChar, if_neg others]
      split
      · rfl
      · rename_i high
        have shown : 0x7f ≤ legacyCodes.getD (n - 0x80) n := by
          rw [List.getD_eq_getElem?_getD]
          cases old : legacyCodes[n - 0x80]? with
          | none => exact Nat.le_of_lt (by simp; omega)
          | some m => exact legacy m (List.mem_of_getElem? old)
        rw [List.filter_cons_of_neg (by simp only [counts_ofNat shown]; decide),
          List.filter_cons_of_neg (by simp only [counts_ofNat (show 0x7f ≤ n by omega)]; decide)]
  · cases known

theorem numberAt?_semicolon {isDigit : Char → Bool} {number : List Char → Nat} {ds : List Char}
    (some' : ds ≠ []) (digits : ∀ d ∈ ds, isDigit d = true) (apart : isDigit ';' = false)
    (s : List Char) :
    numberAt? isDigit number (ds ++ ';' :: s) = some ([browserChar (number ds)], ds.length + 1) := by
  have cut : (ds ++ ';' :: s).takeWhile isDigit = ds := by
    rw [List.takeWhile_append_of_pos digits, List.takeWhile_cons_of_neg (by simp [apart]), List.append_nil]
  have full : ds.isEmpty = false := by simpa using some'
  simp [numberAt?, cut, full]

/-! ### Whole references -/

structure Stands (body cs : List Char) : Prop where
  reads : ∃ r, body? r = some body
  means : meaning body = .chars cs

theorem meaning_hex {m : Char} (mark : m = 'x' ∨ m = 'X') {ds : List Char} (some' : ds ≠ []) :
    meaning ('#' :: m :: ds) = ofCode (hexNumber ds) := by
  obtain ⟨d, ds, rfl⟩ := List.exists_cons_of_ne_nil some'
  rcases mark with rfl | rfl
  · rfl
  · rfl

theorem meaning_decimal {d : Char} (digit : d.isDigit = true) (ds : List Char) :
    meaning ('#' :: d :: ds) = if (d :: ds).length > 4300 then .tooLong
      else ofCode (meaning.decimalNumber (d :: ds)) := by
  unfold meaning
  split
  case h_1 heq => cases heq
  case h_6 heq =>
    cases heq
    rfl
  case h_7 number => exact absurd rfl (number (d :: ds))
  -- a mark of base sixteen is no digit
  all_goals
    rename_i heq
    cases heq
    cases digit

theorem meaning_name {c : Char} (apart : c ≠ '#') (name : List Char) :
    meaning (c :: name) = match bare.lookup (String.ofList (c :: name)) with
      | some s => .chars s
      | none => .none := by
  unfold meaning
  split
  case h_7 => rfl
  all_goals
    rename_i heq
    exact absurd (List.cons.inj heq).1 apart

theorem meaning_of_lookup {c : Char} {name cs : List Char} (apart : c ≠ '#')
    (h : bare.lookup (String.ofList (c :: name)) = some cs) : meaning (c :: name) = .chars cs := by
  rw [meaning_name apart, h]

theorem stands_amp : Stands ['a', 'm', 'p'] ['&'] :=
  ⟨⟨_, reads_amp []⟩, meaning_of_lookup (by decide) (@lookup_bare_escape (_, ['2', '6']) (by decide))⟩

theorem stands_lt : Stands ['l', 't'] ['<'] :=
  ⟨⟨_, reads_lt []⟩, meaning_of_lookup (by decide) (@lookup_bare_escape (_, ['3', 'C']) (by decide))⟩

theorem stands_gt : Stands ['g', 't'] ['>'] :=
  ⟨⟨_, reads_gt []⟩, meaning_of_lookup (by decide) (@lookup_bare_escape (_, ['3', 'E']) (by decide))⟩

theorem stands_quot : Stands ['q', 'u', 'o', 't'] ['"'] :=
  ⟨⟨_, reads_quot []⟩, meaning_of_lookup (by decide) (@lookup_bare_escape (_, ['2', '2']) (by decide))⟩

/-- A reference that stands for something holds a number or a name. -/
inductive Spelled : List Char → List Char → Prop
  | hex {m : Char} {ds cs : List Char} (mark : m = 'x' ∨ m = 'X') (some' : ds ≠ [])
      (digits : ∀ d ∈ ds, isHexDigit d = true) (code : ofCode (hexNumber ds) = .chars cs) :
      Spelled ('#' :: m :: ds) cs
  | decimal {d : Char} {ds cs : List Char} (digits : ∀ e ∈ d :: ds, e.isDigit = true)
      (code : ofCode (meaning.decimalNumber (d :: ds)) = .chars cs) : Spelled ('#' :: d :: ds) cs
  | name {c : Char} {name cs : List Char} (apart : c ≠ '#')
      (listed : bare.lookup (String.ofList (c :: name)) = some cs) : Spelled (c :: name) cs

theorem Stands.spelled {body cs : List Char} (h : Stands body cs) : Spelled body cs := by
  obtain ⟨⟨r, reads⟩, known⟩ := h
  cases bodyAt_of_body? reads with
  | @hex m tail rest mark closed =>
    have some' : (digitsOf isHexDigit tail).1 ≠ [] := by
      intro none'
      rw [none'] at known
      rcases mark with rfl | rfl
      · cases known
      · cases known
    rw [meaning_hex mark some'] at known
    exact .hex mark some' (digitsOf_allowed tail) known
  | @decimal tail rest small large closed =>
    have digits := @digitsOf_allowed Char.isDigit tail
    generalize (digitsOf Char.isDigit tail).1 = ds at known digits
    cases ds with
    | nil => cases known
    | cons d ds =>
      rw [meaning_decimal (digits d List.mem_cons_self)] at known
      split at known
      · cases known
      · exact .decimal digits known
  | name named some' letters =>
    obtain ⟨c, name, rfl⟩ := List.exists_cons_of_ne_nil some'
    have apart : c ≠ '#' := by
      rintro rfl
      rw [(lettersOf_some letters).1] at named
      exact named rfl
    rw [meaning_name apart] at known
    split at known
    · rename_i found
      rw [Meaning.chars.inj known] at found
      exact .name apart found
    · cases known

theorem readAt?_hex {m : Char} (hm : m = 'x' ∨ m = 'X') (s : List Char) :
    readAt? ('#' :: m :: s) = (numberAt? isHexDigit hexNumber s).map fun r => (r.1, r.2 + 2) := by
  rcases hm with rfl | rfl
  · rfl
  · rfl

theorem readAt?_decimal {d : Char} (digit : d.isDigit = true) (s : List Char) :
    readAt? ('#' :: d :: s) =
      (numberAt? Char.isDigit meaning.decimalNumber (d :: s)).map fun r => (r.1, r.2 + 1) := by
  unfold readAt?
  split
  case h_3 heq =>
    cases heq
    rfl
  case h_4 other => exact absurd rfl (other _)
  all_goals
    rename_i heq
    cases heq
    cases digit

theorem readAt?_name {c : Char} (apart : c ≠ '#') (s : List Char) :
    readAt? (c :: s) = nameAt? (c :: s) := by
  unfold readAt?
  split
  case h_4 => rfl
  all_goals
    rename_i heq
    exact absurd (List.cons.inj heq).1 apart

/-- A browser takes a reference that stands for something to its semicolon. -/
theorem Stands.readAt? {body cs : List Char} (h : Stands body cs) (s : List Char) :
    ∃ d ds, Reference.readAt? (body ++ ';' :: s) = some (d :: ds, body.length + 1) ∧
      (d :: ds).filter counts = cs.filter counts := by
  cases h.spelled with
  | @hex m ds _ mark some' digits code =>
    have number := @numberAt?_semicolon isHexDigit hexNumber ds some' digits (by decide) s
    refine ⟨browserChar (hexNumber ds), [], ?_, filter_browserChar code⟩
    rw [List.cons_append, List.cons_append, readAt?_hex mark, number]
    simp
  | @decimal d ds _ digits code =>
    have number := @numberAt?_semicolon Char.isDigit meaning.decimalNumber (d :: ds)
      (List.cons_ne_nil d ds) digits (by decide) s
    refine ⟨browserChar (meaning.decimalNumber (d :: ds)), [], ?_, filter_browserChar code⟩
    rw [List.cons_append, List.cons_append, readAt?_decimal (digits d List.mem_cons_self),
      ← List.cons_append, number]
    simp
  | @name c name _ apart listed =>
    have value : cs ≠ [] := (plain_of_mem_named (mem_named_of_bare (mem_of_lookup listed))).1
    obtain ⟨d, ds, rfl⟩ := List.exists_cons_of_ne_nil value
    refine ⟨d, ds, ?_, rfl⟩
    rw [List.cons_append, readAt?_name apart, ← List.cons_append, nameAt?_semicolon listed]

theorem Stands.stop {body cs : List Char} (h : Stands body cs) : ∀ c ∈ body, isStop c = false := by
  obtain ⟨r, reads⟩ := h.reads
  exact (body?_some reads).2

/-- The characters of a reference are letters and digits, but for its first. -/
theorem Stands.plain {body cs : List Char} (h : Stands body cs) :
    ∀ c ∈ body, c = '#' ∨ c.isAlphanum = true := by
  have hex : ∀ d, isHexDigit d = true → d.isAlphanum = true := by
    intro d hd
    simp only [isHexDigit, Bool.or_eq_true, Bool.and_eq_true, decide_eq_true_eq] at hd
    rcases hd with (digit | ⟨low, high⟩) | ⟨low, high⟩
    · exact Bool.or_eq_true_iff.2 (.inr digit)
    · have lower : d.isLower = true :=
        Bool.and_eq_true_iff.2 ⟨decide_eq_true low, decide_eq_true (Char.le_trans high (by decide))⟩
      exact Bool.or_eq_true_iff.2 (.inl (Bool.or_eq_true_iff.2 (.inr lower)))
    · have upper : d.isUpper = true :=
        decide_eq_true ⟨low, Char.le_trans high (by decide)⟩
      exact Bool.or_eq_true_iff.2 (.inl (Bool.or_eq_true_iff.2 (.inl upper)))
  cases h.spelled with
  | hex mark some' digits code =>
    intro c hc
    rcases List.mem_cons.1 hc with rfl | hc
    · exact .inl rfl
    · rcases List.mem_cons.1 hc with rfl | hc
      · rcases mark with rfl | rfl
        · exact .inr rfl
        · exact .inr rfl
      · exact .inr (hex c (digits c hc))
  | decimal digits code =>
    intro c hc
    rcases List.mem_cons.1 hc with rfl | hc
    · exact .inl rfl
    · exact .inr (Bool.or_eq_true_iff.2 (.inr (digits c hc)))
  | name apart listed =>
    intro d hd
    refine .inr ((plain_of_mem_named (mem_named_of_bare (mem_of_lookup listed))).2 d ?_)
    rwa [String.toList_ofList]

end PageSkins.Markup.Reference
