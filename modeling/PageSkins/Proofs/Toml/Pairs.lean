import PageSkins.Toml.Document

/-!
# Lines of a document

A document may be made of comments and of pairs, a line each, where a pair is a bare key and a
text in double quotes. It is read as these pairs if each text can be read, and not at all if one
cannot.
-/

namespace PageSkins.Toml

/-! ### Texts in double quotes -/

/-- Inside double quotes on one line, some characters are written as others. -/
def Spells (w s : List Char) : Prop :=
  ∀ out rest, quotedBody false .text out (w ++ rest) = quotedBody false .text (s.reverse ++ out) rest

/-- Whether a character stands for itself in a text of one line. -/
def Literal (c : Char) : Prop := c ≠ '"' ∧ c ≠ '\\' ∧ isControl c = false

instance : DecidablePred Literal := fun c =>
  inferInstanceAs (Decidable (c ≠ '"' ∧ c ≠ '\\' ∧ isControl c = false))

variable {fuel : Nat} {s t w name body rest : List Char} {f : Fault}

theorem quotedBody_quote (out rest : List Char) :
    quotedBody false .text out ('"' :: rest) = .ok (out.reverse, rest) := by
  rw [quotedBody.eq_def]
  dsimp only
  rw [if_neg nofun, if_neg (fun h => absurd h.1 nofun)]
  split
  all_goals simp_all

theorem Spells.nil : Spells [] [] := fun _ _ => rfl

theorem Spells.append {v : List Char} (first : Spells v s) (second : Spells w t) :
    Spells (v ++ w) (s ++ t) := by
  intro out rest
  rw [List.append_assoc, first, second, List.reverse_append, List.append_assoc]

/-- A text is spelled character by character. -/
theorem Spells.flatMap {g : Char → List Char} (h : ∀ c ∈ s, Spells (g c) [c]) :
    Spells (s.flatMap g) s := by
  induction s with
  | nil => exact .nil
  | cons c s ih =>
    rw [List.flatMap_cons]
    exact (h c List.mem_cons_self).append (ih fun d hd => h d (List.mem_cons_of_mem _ hd))

theorem spells_literal {c : Char} (literal : Literal c) : Spells [c] [c] := by
  intro out rest
  obtain ⟨quote, escape, visible⟩ := literal
  rw [List.singleton_append, quotedBody.eq_def]
  dsimp only
  rw [if_neg nofun, if_neg (fun h => absurd h.1 nofun)]
  split
  all_goals simp_all

theorem Spells.of_literal (literal : ∀ c ∈ s, Literal c) : Spells s s := by
  have all := Spells.flatMap (g := fun c => [c]) fun c hc => spells_literal (literal c hc)
  rwa [List.flatMap_singleton'] at all

/-- Up to the quote that ends it, what is written is read as what it spells. -/
theorem Spells.read (h : Spells w s) (rest : List Char) :
    quotedBody false .text [] (w ++ '"' :: rest) = .ok (s, rest) := by
  rw [h, quotedBody_quote, List.append_nil, List.reverse_reverse]

/-! ### Pairs -/

def pairLine (name w : List Char) : List Char := name ++ ' ' :: '=' :: ' ' :: '"' :: (w ++ ['"', '\n'])

/-- A text that starts with some other character than a quote does not start with two. -/
theorem ne_quotes (some' : w ≠ []) (first : w.head? ≠ some '"') (rest r : List Char) :
    w ++ rest ≠ '"' :: '"' :: r := by
  obtain ⟨c, w, rfl⟩ := List.exists_cons_of_ne_nil some'
  intro same
  exact first (congrArg some (List.cons.inj same).1)

/-- A text in double quotes, where no third quote follows the first two. -/
theorem value_quoted (single : ∀ r, body ≠ '"' :: '"' :: r) : value (fuel + 1) ('"' :: body) =
    (do
      let (t, rest) ← quotedBody false .text [] body
      return (.text (String.ofList t), rest)) := by
  rw [value]
  exact single

theorem keyPart_bare (bare : ∀ c ∈ name, isBareKeyChar c = true) (named : name ≠ [])
    (rest : List Char) : keyPart (name ++ ' ' :: rest) = .ok (String.ofList name, ' ' :: rest) := by
  have run : (name ++ ' ' :: rest).takeWhile isBareKeyChar = name := by
    rw [List.takeWhile_append_of_pos bare, List.takeWhile_cons_of_neg (by decide), List.append_nil]
  obtain ⟨c, cs, rfl⟩ := List.exists_cons_of_ne_nil named
  have first := bare c List.mem_cons_self
  unfold keyPart
  split
  · rename_i same
    rw [(List.cons.inj same).1] at first
    exact absurd first (by decide)
  · rename_i same
    rw [(List.cons.inj same).1] at first
    exact absurd first (by decide)
  · dsimp only
    rw [run, List.drop_left]
    rfl

theorem key_bare (bare : ∀ c ∈ name, isBareKeyChar c = true) (named : name ≠ []) (rest : List Char) :
    key (fuel + 1) (name ++ ' ' :: '=' :: rest) = .ok ([String.ofList name], '=' :: rest) := by
  rw [key, keyPart_bare bare named]
  rfl

/-- A pair up to the end of its text. -/
theorem pair_quoted (bare : ∀ c ∈ name, isBareKeyChar c = true) (named : name ≠ [])
    (single : ∀ r, body ≠ '"' :: '"' :: r) :
    pair (fuel + 2) (name ++ ' ' :: '=' :: ' ' :: '"' :: body) = (do
      let (t, rest) ← quotedBody false .text [] body
      return ([String.ofList name], .text (String.ofList t), rest)) := by
  rw [pair]
  cases length : (name ++ ' ' :: '=' :: ' ' :: '"' :: body).length with
  | zero => simp at length
  | succ n =>
    rw [key_bare bare named]
    change (value (fuel + 1) ('"' :: body) >>= fun x => pure ([String.ofList name], x.1, x.2)) = _
    rw [value_quoted single]
    cases quotedBody false .text [] body with
    | error e => rfl
    | ok x => rfl

namespace Document

variable {d : Document}

theorem add_plain {k : String} {v : Value} {es : Entries} (new : es.lookup k = none) :
    add ⟨es, [], []⟩ [k] v = .ok ⟨es.put k (.value v), [], []⟩ := by
  unfold add
  rw [Entries.change, Entries.add, new]
  rfl

theorem statements_nil (fuel : Nat) (d : Document) : statements fuel d [] = .ok d := by
  cases fuel with
  | zero => rfl
  | succ fuel => rfl

/-- A line with a comment is passed over. -/
theorem statements_comment (visible : ∀ c ∈ s, isControl c = false ∧ c ≠ '\n') :
    statements (fuel + 1) d ('#' :: (s ++ '\n' :: rest)) = statements fuel d rest := by
  have line : ∀ c ∈ s, (c != '\n') = true := fun c hc => bne_iff_ne.2 (visible c hc).2
  have shown : s.any isControl = false :=
    List.any_eq_false.2 fun c hc => Bool.eq_false_iff.1 (visible c hc).1
  have comment : skipComment ('#' :: (s ++ '\n' :: rest)) = .ok ('\n' :: rest) := by
    rw [skipComment, List.takeWhile_append_of_pos line, List.dropWhile_append_of_pos line,
      List.takeWhile_cons_of_neg (by decide), List.append_nil, shown,
      List.dropWhile_cons_of_neg (by decide)]
    rfl
  rw [statements]
  change (skipComment ('#' :: (s ++ '\n' :: rest)) >>= fun x => _) = _
  rw [comment]
  rfl

theorem ne_of_bare {c x : Char} (bare : isBareKeyChar c = true) (other : isBareKeyChar x = false) :
    c ≠ x := by
  rintro rfl
  rw [bare] at other
  cases other

theorem statement_bare {c : Char} (bare : isBareKeyChar c = true) (r : List Char) :
    d.statement (c :: r) = (do
      let (k, v, rest) ← pair (2 * (c :: r).length + 2) (c :: r)
      return (← d.add k v, rest)) := by
  rw [statement]
  all_goals
    intro r same
    exact ne_of_bare bare (by decide) (List.cons.inj same).1

section
variable (bare : ∀ c ∈ name, isBareKeyChar c = true) (named : name ≠ [])
include bare named

/-- A line that starts with a bare key holds a pair. -/
theorem statements_bare (line : List Char) : statements (fuel + 1) d (name ++ line) =
    (do
      let (k, v, rest) ← pair (2 * (name ++ line).length + 2) (name ++ line)
      let d ← d.add k v
      match ← skipComment (skipSpace rest) with
      | [] => return d
      | '\n' :: rest => statements fuel d rest
      | _ => .error .malformed) := by
  obtain ⟨c, cs, rfl⟩ := List.exists_cons_of_ne_nil named
  have first := bare c List.mem_cons_self
  rw [List.cons_append]
  generalize cs ++ line = r
  have start : skipSpace (c :: r) = c :: r := by
    refine List.dropWhile_cons_of_neg ?_
    simp [isSpace, ne_of_bare first (by decide : isBareKeyChar ' ' = false),
      ne_of_bare first (by decide : isBareKeyChar '\t' = false)]
  rw [statements, start]
  split
  · rename_i same
    cases same
  · rename_i same
    exact absurd (List.cons.inj same).1 (ne_of_bare first (by decide))
  · rw [statement_bare first]
    cases pair (2 * (c :: r).length + 2) (c :: r) with
    | error e => rfl
    | ok x =>
      obtain ⟨k, v, rest⟩ := x
      change (d.add k v >>= fun d => pure (d, rest)) >>= _ = d.add k v >>= _
      cases d.add k v with
      | error e => rfl
      | ok d => rfl

variable (single : ∀ r, body ≠ '"' :: '"' :: r)
include single

/-- A line with a pair adds it. -/
theorem statements_pair (read : quotedBody false .text [] body = .ok (s, '\n' :: rest)) :
    statements (fuel + 1) d (name ++ ' ' :: '=' :: ' ' :: '"' :: body) =
      (d.add [String.ofList name] (.text (String.ofList s)) >>= fun d => statements fuel d rest) := by
  rw [statements_bare bare named, pair_quoted bare named single, read]
  rfl

/-- A line with a pair whose text cannot be read makes the document one that cannot be read. -/
theorem statements_unread (unread : quotedBody false .text [] body = .error f) :
    statements (fuel + 1) d (name ++ ' ' :: '=' :: ' ' :: '"' :: body) = .error f := by
  rw [statements_bare bare named, pair_quoted bare named single, unread]
  rfl

end

/-- Where no table has been opened, the pair is added to the end of the document. -/
theorem statements_new {k u : String} {es : Entries} (bare : ∀ c ∈ k.toList, isBareKeyChar c = true)
    (named : k.toList ≠ []) (spells : Spells w u.toList) (some' : w ≠ []) (first : w.head? ≠ some '"')
    (new : es.lookup k = none) : statements (fuel + 1) ⟨es, [], []⟩ (pairLine k.toList w ++ rest) =
      statements fuel ⟨es.put k (.value (.text u)), [], []⟩ rest := by
  have text : pairLine k.toList w ++ rest =
      k.toList ++ ' ' :: '=' :: ' ' :: '"' :: (w ++ '"' :: '\n' :: rest) := by
    simp only [pairLine, List.append_assoc, List.cons_append, List.nil_append]
  rw [text, statements_pair bare named (ne_quotes some' first _) (spells.read _), String.ofList_toList,
    String.ofList_toList, add_plain new]
  rfl

end Document

theorem joinLineEnds_eq (h : ∀ c ∈ s, c ≠ '\r') : joinLineEnds s = s := by
  fun_induction joinLineEnds s with
  | case1 s ih => exact absurd rfl (h _ List.mem_cons_self)
  | case2 c s other ih => rw [ih fun d hd => h d (List.mem_cons_of_mem _ hd)]
  | case3 => rfl

end PageSkins.Toml
