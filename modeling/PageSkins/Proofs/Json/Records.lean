import PageSkins.Proofs.Json.Texts
import PageSkins.Proofs.Lists

/-!
# Records read back

A record of simple values (texts, integers, flags and nulls) that is written as JSON, on one
line or with an entry to a line, is read as that record.
-/

namespace PageSkins

namespace Fields

/-- Pairs with distinct names are kept as they are. -/
theorem ofPairs_of_nodup {ps : Fields} (distinct : ps.names.Nodup) : ofPairs ps = ps :=
  foldl_put distinct

end Fields

namespace Json

open PageSkins.Decimal

/-! ### Integers -/

/-- Whether a number ends before this text. -/
def Ends (rest : List Char) : Prop :=
  ∀ c ∈ rest.head?, c.isDigit = false ∧ c ≠ '.' ∧ c ≠ 'e' ∧ c ≠ 'E'

variable {limit : Option Nat} {fuel : Nat} {rest : List Char}

theorem asciiDigits_append {ds : List Char} (digits : ∀ c ∈ ds, c.isDigit = true)
    (ends : Ends rest) : asciiDigits (ds ++ rest) = (ds.map fun c => c.toNat - 48, rest) := by
  unfold asciiDigits
  rw [List.takeWhile_append_of_pos digits, List.dropWhile_append_of_pos digits]
  cases rest with
  | nil => simp
  | cons c rest =>
    have stop := (ends c rfl).1
    simp [stop]

/-- The digits of a number: a zero alone, or others after one that is no zero. -/
theorem values_natDigits (n : Nat) :
    (natDigits n = ['0'] ∧ n = 0) ∨
      ∃ k ks, ((natDigits n).map fun c => c.toNat - 48) = (k + 1) :: ks := by
  cases n with
  | zero => exact .inl ⟨rfl, rfl⟩
  | succ n =>
    right
    have first := head_toDigits (by decide : 1 < 10) (Nat.succ_pos n)
    obtain ⟨c, ds, digits⟩ := List.exists_cons_of_ne_nil (natDigits_ne_nil (n + 1))
    have digit : c.isDigit = true := isDigit_of_mem_natDigits (digits ▸ List.mem_cons_self)
    have positive : c.toNat - 48 ≠ 0 := by
      have range : 48 ≤ c.toNat ∧ c.toNat ≤ 57 := Char.isDigit_iff_toNat.1 digit
      have other : c ≠ '0' := fun same => first (by rw [← natDigits, digits, same]; rfl)
      have number : c.toNat ≠ 48 := fun same => other (Char.toNat_inj.1 same)
      omega
    obtain ⟨k, hk⟩ := Nat.exists_eq_succ_of_ne_zero positive
    exact ⟨k, ds.map fun c => c.toNat - 48, by rw [digits, List.map_cons, hk]⟩

theorem number_natDigits (neg : Bool) (n : Nat) (short : ∀ k ∈ limit, (natDigits n).length ≤ k)
    (ends : Ends rest) : number limit neg (natDigits n ++ rest) =
      .ok (.int (if neg then -(n : Int) else n), rest) := by
  have value : ofDigits 10 ((natDigits n).map fun c => c.toNat - 48) = n := by
    rw [ofDigits, List.foldl_map]
    exact foldl_natDigits n
  have frac : fraction? rest = none := by
    cases rest with
    | nil => rfl
    | cons c rest =>
      have point := (ends c rfl).2.1
      rw [fraction?]
      rintro r same
      exact point (List.cons.inj same).1
  have exp : exponent? rest = none := by
    cases rest with
    | nil => rfl
    | cons c rest =>
      have marks := (ends c rfl).2.2
      rw [exponent?, if_neg (by simpa using marks)]
  have room : limit.any (· < (natDigits n).length) = false := by
    cases limit with
    | none => rfl
    | some k => simpa using short k rfl
  unfold number
  rw [asciiDigits_append (fun c hc => isDigit_of_mem_natDigits hc) ends]
  rcases values_natDigits n with ⟨zero, rfl⟩ | ⟨k, ks, digits⟩
  · rw [zero] at room ⊢
    simp [frac, exp, ofDigits] at room ⊢
    simp [room]
  · have length : (natDigits n).length = ((k + 1) :: ks).length := by rw [← digits, List.length_map]
    rw [length, List.length_cons] at room
    rw [digits] at value ⊢
    simp only [frac, exp, value, Option.elim_none, List.isEmpty_cons, Option.isNone_none,
      Bool.and_self, Bool.false_eq_true, if_false, if_true, List.length_cons, room]

/-! ### Simple values -/

/-- A value that holds no other, and no number that is too long to be read. -/
inductive Simple (limit : Option Nat) : Value → Prop where
  | null : Simple limit .null
  | bool (b : Bool) : Simple limit (.bool b)
  | int (n : Int) (short : ∀ k ∈ limit, (natDigits n.natAbs).length ≤ k) : Simple limit (.int n)
  | text (s : String) : Simple limit (.text s)

theorem value_digit {c : Char} (digit : c.isDigit = true) (s : List Char) :
    value limit (fuel + 1) (c :: s) = number limit false (c :: s) := by
  have apart (d : Char) (other : d.isDigit = false) : c ≠ d := by
    rintro rfl
    rw [digit] at other
    cases other
  rw [value]
  all_goals
    intro r same
    exact apart _ (by decide) (List.cons.inj same).1

theorem value_minus {c : Char} (digit : c.isDigit = true) (s : List Char) :
    value limit (fuel + 1) ('-' :: c :: s) = number limit true (c :: s) := by
  rw [value]
  intro r same
  rw [(List.cons.inj same).1] at digit
  exact absurd digit (by decide)

variable {st : Style} {level : Nat} {v : Value}

/-- A simple value is read as itself before a text at which numbers end. -/
theorem value_writeAt (fuel : Nat) (st : Style) (level : Nat) (simple : Simple limit v)
    (ends : Ends rest) :
    value limit (fuel + 1) (writeAt st level v ++ rest) = .ok (v, rest) := by
  cases simple with
  | null => rw [writeAt]; rfl
  | bool b => cases b <;> (rw [writeAt]; rfl)
  | int n short =>
    have read := number_natDigits (decide (n < 0)) n.natAbs short ends
    obtain ⟨c, ds, digits⟩ := List.exists_cons_of_ne_nil (natDigits_ne_nil n.natAbs)
    have digit : c.isDigit = true := isDigit_of_mem_natDigits (digits ▸ List.mem_cons_self)
    rw [writeAt, intText]
    rw [digits, List.cons_append] at read
    rw [digits]
    by_cases neg : n < 0
    · rw [if_pos neg, List.cons_append, List.cons_append, value_minus digit]
      rw [decide_eq_true neg, if_pos rfl] at read
      rw [read]
      congr 3
      omega
    · rw [if_neg neg, List.cons_append, value_digit digit]
      rw [decide_eq_false neg, if_neg Bool.false_ne_true] at read
      rw [read]
      congr 3
      omega
  | text s =>
    obtain ⟨body, quoted', read⟩ := stringBody_quoted st.ascii s rest
    rw [writeAt, quoted', List.cons_append, value, read]
    rfl

/-! ### Entries -/

def Blank (ws : List Char) : Prop := ∀ c ∈ ws, isSpace c = true

theorem skipSpace_append {ws : List Char} (blank : Blank ws) {c : Char} (solid : isSpace c = false)
    (s : List Char) : skipSpace (ws ++ c :: s) = c :: s := by
  unfold skipSpace
  rw [List.dropWhile_append_of_pos blank, List.dropWhile_cons_of_neg (by simp [solid])]

/-- A simple value does not start with a blank, nor with what ends a record. -/
theorem exists_writeAt (st : Style) (level : Nat) (simple : Simple limit v) :
    ∃ c s, writeAt st level v = c :: s ∧ isSpace c = false := by
  cases simple with
  | null => exact ⟨_, _, by rw [writeAt]; rfl, by decide⟩
  | bool b => cases b <;> exact ⟨_, _, by rw [writeAt]; rfl, by decide⟩
  | int n short =>
    obtain ⟨c, ds, digits⟩ := List.exists_cons_of_ne_nil (natDigits_ne_nil n.natAbs)
    have digit : c.isDigit = true := isDigit_of_mem_natDigits (digits ▸ List.mem_cons_self)
    rw [writeAt, intText, digits]
    split
    · exact ⟨_, _, rfl, by decide⟩
    · refine ⟨_, _, rfl, ?_⟩
      rw [Bool.eq_false_iff]
      intro blank
      simp only [isSpace, Bool.or_eq_true, decide_eq_true_eq] at blank
      rcases blank with ((rfl | rfl) | rfl) | rfl <;> exact absurd digit (by decide)
  | text s => exact ⟨_, _, by rw [writeAt]; rfl, by decide⟩

def fieldText (st : Style) (level : Nat) (f : String × Value) : List Char :=
  quoted st.ascii f.1.toList ++ ':' :: ' ' :: writeAt st level f.2

theorem writeFields_eq (st : Style) (level : Nat) (fs : Fields) :
    writeFields st level fs = fs.map (fieldText st level) := by
  induction fs with
  | nil => rw [writeFields, List.map_nil]
  | cons f fs ih =>
    obtain ⟨k, v⟩ := f
    rw [writeFields, ih, List.map_cons]
    rfl

/-- What is read where the entry `f` ends. -/
def afterEntry (limit : Option Nat) (fuel : Nat) (f : String × Value) (tail : List Char) :
    Except Fault (Fields × List Char) :=
  match skipSpace tail with
  | ',' :: r => do
    let (es, rest) ← entries limit fuel (skipSpace r)
    return (f :: es, rest)
  | '\x7d' :: rest => return ([f], rest)
  | _ => .error .malformed

theorem entries_fieldText {k : String} (simple : Simple limit v) {tail : List Char}
    (ends : Ends tail) : entries limit (fuel + 2) (fieldText st level (k, v) ++ tail) =
      afterEntry limit (fuel + 1) (k, v) tail := by
  obtain ⟨body, quoted', read⟩ :=
    stringBody_quoted st.ascii k (':' :: ' ' :: (writeAt st level v ++ tail))
  obtain ⟨c, s, front, solid⟩ := exists_writeAt st level simple
  have afterKey : skipSpace (':' :: ' ' :: (writeAt st level v ++ tail)) =
      ':' :: ' ' :: (writeAt st level v ++ tail) := rfl
  have afterColon : skipSpace (' ' :: (writeAt st level v ++ tail)) = writeAt st level v ++ tail := by
    rw [front, List.cons_append]
    have one : Blank [' '] := by
      intro d hd
      rw [List.mem_singleton.1 hd]
      rfl
    exact skipSpace_append one solid (s ++ tail)
  have given := value_writeAt fuel st level simple ends
  unfold fieldText
  rw [quoted', List.cons_append, List.cons_append, List.append_assoc, List.cons_append,
    List.cons_append, entries, read]
  simp only [bind, Except.bind, afterKey, afterColon, given]
  rfl

theorem ends_append {ws : List Char} (blank : Blank ws) {c : Char}
    (stop : c.isDigit = false ∧ c ≠ '.' ∧ c ≠ 'e' ∧ c ≠ 'E') (s : List Char) :
    Ends (ws ++ c :: s) := by
  intro d hd
  cases ws with
  | nil =>
    obtain rfl := Option.some.inj hd
    exact stop
  | cons w ws =>
    obtain rfl := Option.some.inj hd
    have space := blank w List.mem_cons_self
    simp only [isSpace, Bool.or_eq_true, decide_eq_true_eq] at space
    rcases space with ((rfl | rfl) | rfl) | rfl <;> decide

/-- Entries start with the quote of a name, whatever stands between them. -/
theorem exists_intercalate (st : Style) (level : Nat) (sep : List Char) {fs : Fields}
    (some' : fs ≠ []) : ∃ t, sep.intercalate (fs.map (fieldText st level)) = '"' :: t := by
  cases fs with
  | nil => exact absurd rfl some'
  | cons f fs =>
    cases fs with
    | nil => exact ⟨_, List.intercalate_singleton⟩
    | cons g fs => exact ⟨_, List.intercalate_cons_cons⟩

/-- Entries with commas and blanks between them are read up to the brace that closes them. -/
theorem entries_intercalate {between closing : List Char} (open' : Blank between)
    (close : Blank closing) {fs : Fields} (some' : fs ≠ []) (simple : ∀ f ∈ fs, Simple limit f.2)
    (enough : fs.length ≤ fuel) :
    entries limit (fuel + 1) ((',' :: between).intercalate (fs.map (fieldText st level)) ++
      (closing ++ '\x7d' :: rest)) = .ok (fs, rest) := by
  induction fs generalizing fuel with
  | nil => exact absurd rfl some'
  | cons f fs ih =>
    obtain ⟨k, v⟩ := f
    obtain ⟨fuel, rfl⟩ := Nat.exists_eq_succ_of_ne_zero (Nat.ne_of_gt (Nat.lt_of_lt_of_le
      (Nat.succ_pos _) enough))
    have first : Simple limit v := simple (k, v) List.mem_cons_self
    cases fs with
    | nil =>
      rw [List.map_singleton, List.intercalate_singleton,
        entries_fieldText first (ends_append close (by decide) rest), afterEntry,
        skipSpace_append close (by decide)]
      rfl
    | cons g fs =>
      have others := ih (List.cons_ne_nil _ _) (fun f hf => simple f (List.mem_cons_of_mem _ hf))
        (Nat.le_of_succ_le_succ enough)
      obtain ⟨front, joined⟩ := exists_intercalate st level (',' :: between) (List.cons_ne_nil g fs)
      have comma (s : List Char) : Ends (',' :: s) :=
        ends_append (List.forall_mem_nil _) (by decide) s
      rw [joined] at others
      rw [List.map_cons, List.map_cons, List.intercalate_cons_cons, ← List.map_cons, joined,
        List.append_assoc, List.append_assoc, List.cons_append, entries_fieldText first (comma _)]
      change (do
        let (es, rest) ← entries limit (fuel + 1)
          (skipSpace (between ++ '"' :: (front ++ (closing ++ '\x7d' :: rest))))
        return ((k, v) :: es, rest) : Except Fault _) = _
      rw [skipSpace_append open' (by decide), ← List.cons_append, others]
      rfl

/-! ### Whole records -/

theorem isSpace_of_indent (st : Style) (level : Nat) : Blank (st.opening level) := by
  intro c hc
  unfold Style.opening at hc
  split at hc
  · cases hc
  · rcases List.mem_cons.1 hc with rfl | hc
    · rfl
    · rw [List.eq_of_mem_replicate hc]
      rfl

/-- After a comma comes a blank, or what stands before the first entry. -/
theorem exists_separator (st : Style) (level : Nat) :
    ∃ between, st.separator level = ',' :: between ∧ Blank between := by
  unfold Style.separator
  cases line : st.indent with
  | none => exact ⟨[' '], rfl, by simp [Blank, isSpace]⟩
  | some n =>
    refine ⟨st.opening level, ?_, isSpace_of_indent st level⟩
    rw [Style.opening, line]

theorem length_le_intercalate (sep : List Char) {parts : List (List Char)}
    (given : ∀ part ∈ parts, part ≠ []) : parts.length ≤ (sep.intercalate parts).length := by
  induction parts with
  | nil => exact Nat.zero_le _
  | cons part parts ih =>
    have others := ih fun p hp => given p (List.mem_cons_of_mem _ hp)
    have one := List.length_pos_iff.2 (given part List.mem_cons_self)
    cases parts with
    | nil =>
      rw [List.intercalate_singleton]
      exact one
    | cons p ps =>
      rw [List.intercalate_cons_cons, List.length_append, List.length_append, List.length_cons]
      omega

theorem write_map (st : Style) {fs : Fields} (some' : fs ≠ []) : write st (.map fs) =
    '\x7b' :: (st.opening 1 ++ ((st.separator 1).intercalate (fs.map (fieldText st 1)) ++
      (st.opening 0 ++ ['\x7d']))) := by
  unfold write
  rw [writeAt, writeFields_eq]
  · simp only [List.append_assoc, List.cons_append]
  · exact some'

theorem length_le_write (st : Style) {fs : Fields} (some' : fs ≠ []) :
    fs.length ≤ (write st (.map fs)).length := by
  have parts : (fs.map (fieldText st 1)).length ≤
      ((st.separator 1).intercalate (fs.map (fieldText st 1))).length := by
    refine length_le_intercalate _ fun part h => ?_
    obtain ⟨f, -, rfl⟩ := List.mem_map.1 h
    exact List.cons_ne_nil _ _
  rw [List.length_map] at parts
  rw [write_map st some', List.length_cons, List.length_append, List.length_append]
  omega

theorem value_write (st : Style) {fs : Fields} (some' : fs ≠ []) (distinct : fs.names.Nodup)
    (simple : ∀ f ∈ fs, Simple limit f.2) (enough : fs.length ≤ fuel) :
    value limit (fuel + 2) (write st (.map fs)) = .ok (.map fs, []) := by
  obtain ⟨between, comma, open'⟩ := exists_separator st 1
  obtain ⟨front, joined⟩ := exists_intercalate st 1 (',' :: between) some'
  have read : entries limit (fuel + 1) ((',' :: between).intercalate (fs.map (fieldText st 1)) ++
      (st.opening 0 ++ ['\x7d'])) = .ok (fs, []) :=
    entries_intercalate open' (isSpace_of_indent st 0) some' simple enough
  rw [joined, List.cons_append] at read
  rw [write_map st some', comma, joined, List.cons_append, value,
    skipSpace_append (isSpace_of_indent st 1) (by decide)]
  change (entries limit (fuel + 1) ('"' :: (front ++ (st.opening 0 ++ ['\x7d']))) >>= fun x =>
    pure (Value.map (Fields.ofPairs x.1), x.2)) = _
  rw [read]
  change Except.ok (Value.map (Fields.ofPairs fs), []) = _
  rw [Fields.ofPairs_of_nodup distinct]

/-- A record of simple values with distinct names is read as it was written. -/
theorem readWith_write (st : Style) {fs : Fields} (some' : fs ≠ []) (distinct : fs.names.Nodup)
    (simple : ∀ f ∈ fs, Simple limit f.2) : readWith limit (write st (.map fs)) = .ok (.map fs) := by
  have enough : fs.length ≤ 2 * (write st (.map fs)).length :=
    Nat.le_trans (length_le_write st some') (Nat.le_mul_of_pos_left _ (by decide))
  have start : skipSpace (write st (.map fs)) = write st (.map fs) := by
    rw [write_map st some']
    rfl
  unfold readWith
  rw [start, value_write st some' distinct simple enough]
  rfl

end Json
end PageSkins
