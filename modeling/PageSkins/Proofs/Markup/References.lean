import PageSkins.Markup.Reference
import PageSkins.Proofs.Lists

/-!
# Bodies of references

A body is read up to its semicolon, and reads again whatever follows that. It is
a prefix of what follows its ampersand, and nothing that stops a reference
stands in it. The three references that markup cannot do without are known.
-/

namespace PageSkins.Markup

namespace Trie

/-- What goes on after a whole word. -/
def follow? (t : Trie) : List Char → Option Trie
  | [] => some t
  | c :: s => (t.next? c).bind fun u => u.follow? s

theorem follow?_single (s : List Char) : ((single s).follow? s).isSome = true := by
  induction s with
  | nil => rfl
  | cons c s ih =>
    have next : (single (c :: s)).next? c = some (single s) := by
      simp [single, next?]
    rw [follow?, next]
    exact ih

theorem next?_insert (c : Char) (s : List Char) (t : Trie) (d : Char) :
    (insert (c :: s) t).next? d =
      if d = c then some (match t.next? c with
        | some u => insert s u
        | none => single s)
      else t.next? d := by
  obtain ⟨children⟩ := t
  cases hu : children.lookup c with
  | none =>
    simp only [insert, next?, hu]
    exact lookup_cons_if c (single s) children d
  | some u =>
    have replaced : insert (c :: s) (.node children) =
        .node (children.map fun x => (x.1, if x.1 = c then insert s u else x.2)) := by
      rw [insert, hu]
      congr 1
      refine List.map_congr_left fun x _ => ?_
      obtain ⟨e, v⟩ := x
      dsimp only
      split
      · rfl
      · rfl
    rw [replaced]
    simp only [next?, hu]
    rw [lookup_map_values (fun e v => if e = c then insert s u else v)]
    by_cases same : d = c
    · subst same
      simp [hu]
    · simp [same]

theorem follow?_insert (s : List Char) : ∀ t : Trie, ((insert s t).follow? s).isSome = true := by
  induction s with
  | nil => exact fun _ => rfl
  | cons c s ih =>
    intro t
    rw [follow?, next?_insert, if_pos rfl]
    cases t.next? c with
    | none => exact follow?_single s
    | some u => exact ih u

/-- A word that is known stays known. -/
theorem follow?_insert_of_follow? : ∀ {w : List Char} (s : List Char) {t : Trie},
    (t.follow? w).isSome = true → ((insert s t).follow? w).isSome = true
  | [], _, _, _ => rfl
  | d :: w, [], t, h => h
  | d :: w, c :: s, t, h => by
    rw [follow?] at h ⊢
    rw [next?_insert]
    by_cases same : d = c
    · rw [if_pos same]
      subst same
      cases hu : t.next? d with
      | none =>
        rw [hu] at h
        cases h
      | some u =>
        rw [hu] at h
        exact follow?_insert_of_follow? s h
    · rw [if_neg same]
      exact h

theorem follow?_foldl {α : Type} (word : α → List Char) {es : List α} {e : α} (he : e ∈ es)
    (t : Trie) : ((es.foldl (fun t e => t.insert (word e)) t).follow? (word e)).isSome = true := by
  have stays : ∀ (fs : List α) (t : Trie) {w : List Char}, (t.follow? w).isSome = true →
      ((fs.foldl (fun t e => t.insert (word e)) t).follow? w).isSome = true := by
    intro fs
    induction fs with
    | nil => exact fun _ _ h => h
    | cons f fs ih => exact fun t w h => ih _ (follow?_insert_of_follow? (word f) h)
  induction es generalizing t with
  | nil => cases he
  | cons f es ih =>
    rw [List.foldl_cons]
    rcases List.mem_cons.1 he with rfl | he
    · exact stays es _ (follow?_insert _ _)
    · exact ih he _

end Trie

namespace Reference

theorem digitsOf_append {allowed : Char → Bool} (s : List Char) :
    (digitsOf allowed s).1 <+: s := by
  induction s with
  | nil => exact List.prefix_rfl
  | cons c s ih =>
    unfold digitsOf
    split
    · exact List.nil_prefix
    · split
      · exact (List.cons_prefix_cons).2 ⟨rfl, ih⟩
      · exact List.nil_prefix

theorem mem_digitsOf {allowed : Char → Bool} {s : List Char} :
    ∀ c ∈ (digitsOf allowed s).1, isStop c = false ∧ allowed c = true := by
  induction s with
  | nil =>
    intro c hc
    cases hc
  | cons c s ih =>
    intro d hd
    unfold digitsOf at hd
    split at hd
    · cases hd
    · rename_i stop
      split at hd
      · rename_i digit
        rcases List.mem_cons.1 hd with rfl | hd
        · exact ⟨Bool.eq_false_iff.2 stop, digit⟩
        · exact ih d hd
      · cases hd

theorem notStop_digitsOf {allowed : Char → Bool} (s : List Char) :
    ∀ c ∈ (digitsOf allowed s).1, isStop c = false := fun c hc => (mem_digitsOf c hc).1

theorem digitsOf_allowed {allowed : Char → Bool} (s : List Char) :
    ∀ c ∈ (digitsOf allowed s).1, allowed c = true := fun c hc => (mem_digitsOf c hc).2

theorem lettersOf_some : ∀ {t : Trie} {s name rest : List Char},
    lettersOf t s = some (name, rest) → s = name ++ rest ∧ ∀ c ∈ name, isStop c = false
  | t, [], name, rest, h => by
    cases h
    exact ⟨rfl, fun c hc => by cases hc⟩
  | t, c :: s, name, rest, h => by
    unfold lettersOf at h
    split at h
    · cases h
      exact ⟨rfl, fun c hc => by cases hc⟩
    · rename_i stop
      simp only [Option.bind_eq_bind, Option.bind_eq_some_iff, Option.pure_def, Option.some.injEq,
        Prod.exists, Prod.mk.injEq] at h
      obtain ⟨t', -, name', rest', later, rfl, rfl⟩ := h
      obtain ⟨split, letters⟩ := lettersOf_some later
      refine ⟨by rw [split]; rfl, ?_⟩
      intro d hd
      rcases List.mem_cons.1 hd with rfl | hd
      · exact Bool.eq_false_iff.2 stop
      · exact letters d hd

theorem digitsOf_semicolon {allowed : Char → Bool} {ds : List Char}
    (stop : ∀ c ∈ ds, isStop c = false) (digits : ∀ c ∈ ds, allowed c = true) (s : List Char) :
    digitsOf allowed (ds ++ ';' :: s) = (ds, ';' :: s) := by
  induction ds with
  | nil => simp [digitsOf, isStop]
  | cons c ds ih =>
    have others := ih (fun d hd => stop d (List.mem_cons_of_mem _ hd))
      (fun d hd => digits d (List.mem_cons_of_mem _ hd))
    rw [List.cons_append, digitsOf, if_neg (by rw [stop c List.mem_cons_self]; exact Bool.false_ne_true),
      if_pos (digits c List.mem_cons_self), others]

theorem lettersOf_semicolon : ∀ {name : List Char} {t : Trie},
    (t.follow? name).isSome = true → (∀ c ∈ name, isStop c = false) → ∀ s : List Char,
      lettersOf t (name ++ ';' :: s) = some (name, ';' :: s)
  | [], t, _, _, s => by simp [lettersOf, isStop]
  | c :: name, t, known, stop, s => by
    rw [Trie.follow?] at known
    cases hu : t.next? c with
    | none =>
      rw [hu] at known
      cases known
    | some u =>
      rw [hu] at known
      have later := lettersOf_semicolon known (fun d hd => stop d (List.mem_cons_of_mem _ hd)) s
      rw [List.cons_append, lettersOf,
        if_neg (by rw [stop c List.mem_cons_self]; exact Bool.false_ne_true), hu]
      simp [later]

theorem follow?_lettersOf : ∀ {s name rest : List Char} {t : Trie},
    lettersOf t s = some (name, rest) → (t.follow? name).isSome = true
  | [], name, rest, t, h => by
    cases h
    rfl
  | c :: s, name, rest, t, h => by
    unfold lettersOf at h
    split at h
    · cases h
      rfl
    · simp only [Option.bind_eq_bind, Option.bind_eq_some_iff, Option.pure_def, Option.some.injEq,
        Prod.exists, Prod.mk.injEq] at h
      obtain ⟨t', next, name', rest', later, rfl, rfl⟩ := h
      rw [Trie.follow?, next]
      exact follow?_lettersOf later

theorem body?_hex {m : Char} (hm : m = 'x' ∨ m = 'X') (s : List Char) :
    body? ('#' :: m :: s) = match (digitsOf isHexDigit s).2 with
      | ';' :: _ => some ('#' :: m :: (digitsOf isHexDigit s).1)
      | _ => none := by
  rcases hm with rfl | rfl
  · rfl
  · rfl

theorem body?_decimal {s : List Char} (small : s.head? ≠ some 'x') (large : s.head? ≠ some 'X') :
    body? ('#' :: s) = match (digitsOf Char.isDigit s).2 with
      | ';' :: _ => some ('#' :: (digitsOf Char.isDigit s).1)
      | _ => none := by
  rw [body?]
  · rfl
  · intro r e
    exact small (by rw [e]; rfl)
  · intro r e
    exact large (by rw [e]; rfl)

theorem body?_name {s : List Char} (named : s.head? ≠ some '#') :
    body? s = (lettersOf names s).bind fun (name, rest) => match name, rest with
      | [], _ => none
      | _, ';' :: _ => some name
      | _, _ => none := by
  cases s with
  | nil => rfl
  | cons c r =>
    have apart : c ≠ '#' := fun e => named (by rw [e]; rfl)
    rw [body?]
    · rfl
    · intro s' same
      exact apart (List.cons.inj same).1

/-- The three forms of a body at the start of a text. Each is read up to a semicolon. -/
inductive BodyAt : List Char → List Char → Prop
  | hex {m : Char} {tail rest : List Char} (mark : m = 'x' ∨ m = 'X')
      (closed : (digitsOf isHexDigit tail).2 = ';' :: rest) :
      BodyAt ('#' :: m :: tail) ('#' :: m :: (digitsOf isHexDigit tail).1)
  | decimal {tail rest : List Char} (small : tail.head? ≠ some 'x') (large : tail.head? ≠ some 'X')
      (closed : (digitsOf Char.isDigit tail).2 = ';' :: rest) :
      BodyAt ('#' :: tail) ('#' :: (digitsOf Char.isDigit tail).1)
  | name {s body rest : List Char} (named : s.head? ≠ some '#') (some' : body ≠ [])
      (letters : lettersOf names s = some (body, ';' :: rest)) : BodyAt s body

theorem bodyAt_of_body? {s body : List Char} (h : body? s = some body) : BodyAt s body := by
  by_cases number : s.head? = some '#'
  · obtain ⟨tail, rfl⟩ := List.head?_eq_some_iff.1 number
    by_cases hex : tail.head? = some 'x' ∨ tail.head? = some 'X'
    · obtain ⟨m, tail', mark, rfl⟩ : ∃ m tail', (m = 'x' ∨ m = 'X') ∧ tail = m :: tail' := by
        cases tail with
        | nil => simp at hex
        | cons m tail' => exact ⟨m, tail', by simpa using hex, rfl⟩
      rw [body?_hex mark] at h
      split at h
      · rename_i closed
        exact Option.some.inj h ▸ .hex mark closed
      · cases h
    · have small : tail.head? ≠ some 'x' := fun e => hex (Or.inl e)
      have large : tail.head? ≠ some 'X' := fun e => hex (Or.inr e)
      rw [body?_decimal small large] at h
      split at h
      · rename_i closed
        exact Option.some.inj h ▸ .decimal small large closed
      · cases h
  · rw [body?_name number] at h
    obtain ⟨⟨name, rest⟩, letters, h⟩ := Option.bind_eq_some_iff.1 h
    dsimp only at h
    split at h
    · cases h
    · rename_i named
      cases h
      exact .name number (fun e => named e) letters
    · cases h

theorem isStop_mark {m : Char} (mark : m = 'x' ∨ m = 'X') : isStop m = false := by
  rcases mark with rfl | rfl
  · decide
  · decide

/-- A body is a prefix of the text it is read from, and it holds nothing that stops a reference. -/
theorem body?_some {s body : List Char} (h : body? s = some body) :
    body <+: s ∧ ∀ c ∈ body, isStop c = false := by
  cases bodyAt_of_body? h with
  | @hex m tail rest mark closed =>
    refine ⟨?_, ?_⟩
    · rw [List.cons_prefix_cons, List.cons_prefix_cons]
      exact ⟨rfl, rfl, digitsOf_append tail⟩
    · intro c hc
      rcases List.mem_cons.1 hc with rfl | hc
      · decide
      · rcases List.mem_cons.1 hc with rfl | hc
        · exact isStop_mark mark
        · exact notStop_digitsOf tail c hc
  | @decimal tail rest small large closed =>
    refine ⟨?_, ?_⟩
    · rw [List.cons_prefix_cons]
      exact ⟨rfl, digitsOf_append tail⟩
    · intro c hc
      rcases List.mem_cons.1 hc with rfl | hc
      · decide
      · exact notStop_digitsOf tail c hc
  | name named some' letters =>
    obtain ⟨split, stop⟩ := lettersOf_some letters
    exact ⟨⟨_, split.symm⟩, stop⟩

/-- A body that is read from every text that begins with it and a semicolon. -/
def Reads (body : List Char) : Prop := ∀ s : List Char, body? (body ++ ';' :: s) = some body

theorem reads_of_follow? {name : List Char} (named : name.head? ≠ some '#') (some' : name ≠ [])
    (known : (names.follow? name).isSome = true) (stop : ∀ c ∈ name, isStop c = false) :
    Reads name := by
  intro s
  have head : (name ++ ';' :: s).head? ≠ some '#' := by
    cases name with
    | nil => exact absurd rfl some'
    | cons c r => exact named
  rw [body?_name head, lettersOf_semicolon known stop]
  cases name with
  | nil => exact absurd rfl some'
  | cons c r => rfl

/-- Digits up to a semicolon begin with none but an allowed character. -/
theorem head_digitsOf {allowed : Char → Bool} {c : Char} (other : allowed c = false)
    (semicolon : c ≠ ';') (s u : List Char) :
    ((digitsOf allowed s).1 ++ ';' :: u).head? ≠ some c := by
  intro head
  cases ds : (digitsOf allowed s).1 with
  | nil =>
    rw [ds] at head
    exact semicolon (Option.some.inj head).symm
  | cons d r =>
    rw [ds] at head
    have digit := @digitsOf_allowed allowed s d (by rw [ds]; exact List.mem_cons_self)
    rw [Option.some.inj head, other] at digit
    cases digit

theorem reads_of_body? {s body : List Char} (h : body? s = some body) : Reads body := by
  have stop := (body?_some h).2
  cases bodyAt_of_body? h with
  | @hex m tail rest mark closed =>
    intro u
    rw [List.cons_append, List.cons_append, body?_hex mark,
      digitsOf_semicolon (notStop_digitsOf tail) (digitsOf_allowed tail) u]
    rfl
  | @decimal tail rest small large closed =>
    intro u
    rw [List.cons_append, body?_decimal (head_digitsOf (by decide) (by decide) tail u)
      (head_digitsOf (by decide) (by decide) tail u),
      digitsOf_semicolon (notStop_digitsOf tail) (digitsOf_allowed tail) u]
    rfl
  | name named some' letters =>
    obtain ⟨split, -⟩ := lettersOf_some letters
    have head : body.head? ≠ some '#' := by
      cases body with
      | nil => exact absurd rfl some'
      | cons c r =>
        rw [split] at named
        exact named
    exact reads_of_follow? head some' (follow?_lettersOf letters) stop

theorem follow?_names {line : String} (hl : line ∈ namedTable) (name code : List Char)
    (hw : name ++ '=' :: code ∈ partsAt ' ' line.toList)
    (parts : partsAt '=' (name ++ '=' :: code) = [name, code]) :
    (names.follow? name).isSome = true := by
  have entry : (parseEntry (name ++ '=' :: code)).1.toList = name := by
    rw [parseEntry, parts]
    exact String.toList_ofList
  have listed : parseEntry (name ++ '=' :: code) ∈ named :=
    List.mem_flatMap.2 ⟨line, hl, List.mem_map_of_mem hw⟩
  have known := Trie.follow?_foldl (fun e : String × List Char => e.1.toList) listed .empty
  rw [entry] at known
  exact known

theorem reads_amp : Reads ['a', 'm', 'p'] := by
  have line : namedTable[99]? = some _ := rfl
  refine reads_of_follow? (by decide) (by decide) ?_ (forall_mem_of_all (by decide))
  refine follow?_names (List.mem_of_getElem? line) _ ['2', '6'] ?_ (by decide)
  rw [String.toList_ofList]
  decide

theorem reads_lt : Reads ['l', 't'] := by
  have line : namedTable[190]? = some _ := rfl
  refine reads_of_follow? (by decide) (by decide) ?_ (forall_mem_of_all (by decide))
  refine follow?_names (List.mem_of_getElem? line) _ ['3', 'C'] ?_ (by decide)
  rw [String.toList_ofList]
  decide

theorem reads_gt : Reads ['g', 't'] := by
  have line : namedTable[157]? = some _ := rfl
  refine reads_of_follow? (by decide) (by decide) ?_ (forall_mem_of_all (by decide))
  refine follow?_names (List.mem_of_getElem? line) _ ['3', 'E'] ?_ (by decide)
  rw [String.toList_ofList]
  decide

theorem reads_quot : Reads ['q', 'u', 'o', 't'] := by
  have line : namedTable[235]? = some _ := rfl
  refine reads_of_follow? (by decide) (by decide) ?_ (forall_mem_of_all (by decide))
  refine follow?_names (List.mem_of_getElem? line) _ ['2', '2'] ?_ (by decide)
  rw [String.toList_ofList]
  decide

theorem splitAmpersands_append {s : List Char} (h : '&' ∉ s) (t : List Char) :
    splitAmpersands (s ++ t) = (s ++ (splitAmpersands t).1, (splitAmpersands t).2) := by
  induction s with
  | nil => rfl
  | cons c s ih =>
    have hc : c ≠ '&' := fun e => h (e ▸ List.mem_cons_self)
    rw [List.cons_append, splitAmpersands, ih (fun hm => h (List.mem_cons_of_mem _ hm))]
    simp [hc]

theorem splitAmpersands_of_notMem {s : List Char} (h : '&' ∉ s) : splitAmpersands s = (s, []) := by
  have split := splitAmpersands_append h []
  simpa [splitAmpersands] using split

/-- Cutting takes nothing away. -/
theorem splitAmpersands_flatten (s : List Char) :
    (splitAmpersands s).1 ++ (splitAmpersands s).2.flatten = s := by
  induction s with
  | nil => rfl
  | cons c s ih =>
    by_cases hc : c = '&'
    · simp [splitAmpersands, hc, ih]
    · simp [splitAmpersands, hc, ih]

end Reference
end PageSkins.Markup
