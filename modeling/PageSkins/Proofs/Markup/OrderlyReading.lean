import PageSkins.Proofs.Markup.CalmBuilder
import PageSkins.Proofs.Markup.OrderlyMarkup

/-!
# Orderly markup read back

Every tag and every text of orderly markup moves the reader on by one tree of
the parent, whatever follows. The tree that is read in the end is what the
orderly trees are said to be reread as.
-/

namespace PageSkins.Markup

open Builder

/-- Reading takes the reader from one text and builder to another, however many lexemes lie between. -/
def Moves (kept : String → Bool) (s : List Char) (b : Builder) (s' : List Char) (b' : Builder) : Prop :=
  ∀ after fuel, s.length < fuel → ∃ after' fuel', s'.length < fuel' ∧
    Reader.run kept fuel s ⟨b, after, none⟩ = Reader.run kept fuel' s' ⟨b', after', none⟩

section Reading

variable {kept : String → Bool} {s s' s'' : List Char} {b b' b'' : Builder} {path : List String}
  {name : String}

theorem Moves.refl : Moves kept s b s b := fun after fuel enough => ⟨after, fuel, enough, rfl⟩

theorem Moves.trans (h : Moves kept s b s' b') (h' : Moves kept s' b' s'' b'') :
    Moves kept s b s'' b'' := by
  intro after fuel enough
  obtain ⟨after', fuel', enough', first⟩ := h after fuel enough
  obtain ⟨after'', fuel'', enough'', second⟩ := h' after' fuel' enough'
  exact ⟨after'', fuel'', enough'', first.trans second⟩

theorem Builder.Calm.take (h : b.Calm (name :: path)) {after : Bool} {l : Lexeme} {t : Token}
    (token : Token.ofLexeme kept after l = some t) (placed : b.placeInMode t = finished b')
    (quiet : b'.textOnly = none) (here : List Char) :
    ∃ after', (⟨b, after, none⟩ : Reader).take kept l here = ⟨b', after', none⟩ := by
  have same : ({ b' with textOnly := none } : Builder) = b' := by rw [← quiet]
  unfold Reader.take
  rw [token]
  dsimp only
  rw [h.placeToken placed, quiet]
  dsimp only
  rw [same]
  exact ⟨_, rfl⟩

/-- The reader takes one lexeme that stands for one token. -/
theorem Builder.Calm.run_cons (h : b.Calm (name :: path)) {after : Bool} {l : Lexeme}
    (scanned : scan false s = some (l, s')) {t : Token} (token : Token.ofLexeme kept after l = some t)
    (placed : b.placeInMode t = finished b') (quiet : b'.textOnly = none) (n : Nat) :
    ∃ after', Reader.run kept (n + 1) s ⟨b, after, none⟩ =
      Reader.run kept n s' ⟨b', after', none⟩ := by
  obtain ⟨after', taken⟩ := h.take token placed quiet (s.take (s.length - s'.length))
  refine ⟨after', ?_⟩
  rw [Reader.run]
  dsimp only
  rw [h.inDrawing, scanned]
  dsimp only
  rw [taken]

/-- One lexeme that stands for one token, whether or not there was a tag before. -/
theorem Builder.Calm.moves (h : b.Calm (name :: path)) {l : Lexeme} (scanned : scan false s = some (l, s'))
    {t : Token} (token : ∀ after, Token.ofLexeme kept after l = some t)
    (placed : b.placeInMode t = finished b') (quiet : b'.textOnly = none) : Moves kept s b s' b' := by
  intro after fuel enough
  obtain ⟨n, rfl⟩ : ∃ n, fuel = n + 1 := ⟨fuel - 1, by omega⟩
  have shorter := length_of_scan scanned
  obtain ⟨after', taken⟩ := h.run_cons scanned (token after) placed quiet n
  exact ⟨after', n, by omega, taken⟩

/-! ### Text -/

theorem takeWhile_stop {f : Char → Bool} {rest : List Char} (stop : ∀ c ∈ rest.head?, f c = false)
    (w : List Char) : (w ++ rest).takeWhile f = w.takeWhile f ∧
      (w ++ rest).dropWhile f = w.dropWhile f ++ rest := by
  induction w with
  | nil =>
    cases rest with
    | nil => exact ⟨rfl, rfl⟩
    | cons c rest =>
      have off := stop c rfl
      simp [off]
  | cons c w ih =>
    cases hc : f c with
    | true => simp [hc, ih]
    | false => simp [hc]

/-- The lexeme at the start of a text before a tag. -/
theorem scan_text {c : Char} {w rest : List Char} (bracket : c ≠ '<') (zero : c ≠ '\x00')
    (tag : ∀ d ∈ rest.head?, d = '<') :
    ∃ u v, c :: w = (c :: u) ++ v ∧
      (scan false (c :: w ++ rest) = some (.chars (c :: u), v ++ rest) ∨
        scan false (c :: w ++ rest) = some (.space (c :: u), v ++ rest)) := by
  by_cases amp : c = '&'
  · subst amp
    exact ⟨[], w, rfl, Or.inl rfl⟩
  · have space : ∀ d ∈ rest.head?, isSpace d = false := by
      intro d hd
      rw [tag d hd]
      decide
    have plain : ∀ d ∈ rest.head?, isPlain d = false := by
      intro d hd
      rw [tag d hd]
      decide
    have step : scan false (c :: (w ++ rest)) =
        if isSpace c then some (.space (c :: (w ++ rest).takeWhile isSpace), (w ++ rest).dropWhile isSpace)
        else some (.chars (c :: (w ++ rest).takeWhile isPlain), (w ++ rest).dropWhile isPlain) := by
      rw [scan]
      · exact bracket
      · exact amp
      · exact zero
    cases hc : isSpace c with
    | true =>
      refine ⟨w.takeWhile isSpace, w.dropWhile isSpace, ?_, Or.inr ?_⟩
      · rw [List.cons_append, List.takeWhile_append_dropWhile]
      · rw [List.cons_append, step, hc, if_pos rfl, (takeWhile_stop space w).1,
          (takeWhile_stop space w).2]
    | false =>
      refine ⟨w.takeWhile isPlain, w.dropWhile isPlain, ?_, Or.inl ?_⟩
      · rw [List.cons_append, List.takeWhile_append_dropWhile]
      · rw [List.cons_append, step, hc, if_neg Bool.false_ne_true, (takeWhile_stop plain w).1,
          (takeWhile_stop plain w).2]

variable (kept) in
/-- Text goes to the end of the current element, however it is cut into lexemes. -/
theorem moves_text {rest : List Char} (tag : ∀ d ∈ rest.head?, d = '<') :
    ∀ (n : Nat) (w : List Char) {b : Builder}, w.length ≤ n → '<' ∉ w → '\x00' ∉ w →
      b.Calm (name :: path) → (b.drops = true → w.head? ≠ some '\n') →
      ∃ d, Moves kept (w ++ rest) b rest (b.withText w d) ∧ (w = [] → d = b.dropBreak)
  | _, [], b, _, _, _, _, _ => by
    refine ⟨b.dropBreak, ?_, fun _ => rfl⟩
    rw [withText_nil]
    exact Moves.refl
  | 0, c :: w, b, short, _, _, _, _ => by
    rw [List.length_cons] at short
    omega
  | n + 1, c :: w, b, short, bracket, zero, h, kept' => by
    obtain ⟨u, v, cut, scanned⟩ := scan_text (c := c) (w := w)
      (fun e => bracket (e ▸ List.mem_cons_self)) (fun e => zero (e ▸ List.mem_cons_self)) tag
    obtain ⟨d, first⟩ : ∃ d, Moves kept (c :: w ++ rest) b (v ++ rest) (b.withText (c :: u) d) := by
      rcases scanned with chars | space
      · refine ⟨b.dropBreak, h.moves chars (fun _ => rfl) ?_ h.textOnly⟩
        rw [h.placeInMode_chars, h.textInBody]
      · obtain ⟨d, placed⟩ := h.spaceInBody (List.cons_ne_nil c u) kept'
        refine ⟨d, h.moves space (fun _ => rfl) ?_ h.textOnly⟩
        rw [h.placeInMode_space, placed]
    have shorter : v.length ≤ n := by
      have length := congrArg List.length cut
      simp only [List.length_cons, List.cons_append, List.length_append] at length short
      omega
    have inner : ∀ x, x ∈ v → x ∈ c :: w := fun x hx => cut ▸ List.mem_append_right _ hx
    have quiet : (b.withText (c :: u) d).drops = false := h.drops_addedText fun e => by cases e
    obtain ⟨d', second, -⟩ := moves_text tag n v shorter (fun hm => bracket (inner _ hm))
      (fun hm => zero (inner _ hm)) (h.addedText (c :: u) d) (fun on => by
        rw [quiet] at on
        cases on)
    rw [withText_withText, ← cut] at second
    exact ⟨d', first.trans second, fun e => by cases e⟩

variable (kept) in
/-- Preformatted text loses the line break it begins with. -/
theorem moves_break {rest : List Char} (tag : ∀ d ∈ rest.head?, d = '<') {w : List Char}
    (bracket : '<' ∉ w) (zero : '\x00' ∉ w) (h : b.Calm (name :: path)) (drops : b.drops = true) :
    ∃ d, Moves kept ('\n' :: w ++ rest) b rest (b.withText w d) ∧ (w = [] → d = false) := by
  have space : ∀ d ∈ rest.head?, isSpace d = false := by
    intro d hd
    rw [tag d hd]
    decide
  have step : scan false ('\n' :: w ++ rest) =
      some (.space ('\n' :: w.takeWhile isSpace), w.dropWhile isSpace ++ rest) := by
    rw [← (takeWhile_stop space w).1, ← (takeWhile_stop space w).2]
    rfl
  have first : Moves kept ('\n' :: w ++ rest) b (w.dropWhile isSpace ++ rest)
      (b.withText (w.takeWhile isSpace) false) := by
    refine h.moves step (fun _ => rfl) ?_ h.textOnly
    rw [h.placeInMode_space, h.spaceInBody_break drops]
  have inner : ∀ x, x ∈ w.dropWhile isSpace → x ∈ w :=
    fun x hx => (List.dropWhile_sublist _).subset hx
  obtain ⟨d, second, same⟩ := moves_text kept tag _ _ (Nat.le_refl _)
    (fun hm => bracket (inner _ hm))
    (fun hm => zero (inner _ hm)) (h.addedText (w.takeWhile isSpace) false) (fun on => by
      rw [drops_of_dropBreak rfl] at on
      cases on)
  rw [withText_withText, List.takeWhile_append_dropWhile] at second
  refine ⟨d, first.trans second, fun none' => same ?_⟩
  rw [none']
  rfl

/-! ### Tags -/

theorem smallName_kept {p : Policy} (keeps : p.keepsElement name = true) : smallName name = name := by
  have known : ∀ n ∈ contentElements ++ formElements, smallName n = n := by decide
  exact known name (mem_of_keepsElement keeps)

theorem Attribute.Orderly.read {a : Attribute} (h : a.Orderly) : a.quoted.read = a.reread := by
  have name : a.name.toList.map Char.toLower = a.name.toList :=
    (List.map_congr_left h.small).trans (List.map_id' _)
  have value : a.written.map visible = a.written := by
    have each : ∀ c ∈ a.written, visible c = c := fun c hc =>
      visible_of_ne fun e => h.value_written c hc (by rw [e]; decide)
    exact (List.map_congr_left each).trans (List.map_id' _)
  rw [Quoted.read, Attribute.quoted]
  dsimp only
  rw [name, value, String.ofList_toList]
  rfl

theorem distinct_of_nodup : ∀ {as : List Attribute} {seen : List String},
    (as.map Attribute.name).Nodup → (∀ a ∈ as, a.name ∉ seen) → Draft.distinct as seen = as
  | [], _, _, _ => rfl
  | a :: as, seen, nodup, apart => by
    rw [List.map_cons, List.nodup_cons] at nodup
    have new : seen.contains a.name = false := by
      rw [List.contains_eq_mem]
      exact decide_eq_false (apart a List.mem_cons_self)
    rw [Draft.distinct, new, if_neg Bool.false_ne_true, distinct_of_nodup nodup.2]
    intro b hb hm
    rcases List.mem_cons.1 hm with same | old
    · rw [← same] at nodup
      exact nodup.1 (List.mem_map_of_mem hb)
    · exact apart b (List.mem_cons_of_mem _ hb) old

/-- Attributes are read as they are said to be reread. -/
theorem distinct_orderly {as : List Attribute} (h : ∀ a ∈ as, a.Orderly)
    (nodup : (as.map Attribute.name).Nodup) :
    Draft.distinct ((as.map Attribute.quoted).map Quoted.read) [] = as.map Attribute.reread := by
  have same : (as.map Attribute.quoted).map Quoted.read = as.map Attribute.reread := by
    rw [List.map_map]
    exact List.map_congr_left fun a ha => (h a ha).read
  have names : (as.map Attribute.reread).map Attribute.name = as.map Attribute.name := by
    rw [List.map_map]
    rfl
  rw [same, distinct_of_nodup (by rwa [names]) fun _ _ => List.not_mem_nil]

theorem wellNamed_orderly {as : List Attribute} (h : ∀ a ∈ as, a.Orderly) :
    wellNamed (as.map Attribute.reread) = as.map Attribute.reread := by
  refine List.filter_eq_self.2 fun b hb => ?_
  obtain ⟨a, ha, rfl⟩ := List.mem_map.1 hb
  rw [Bool.not_eq_true', List.any_eq_false]
  intro c hc
  have plain := (h a ha).plain c hc
  simp only [List.mem_cons, List.not_mem_nil, or_false, not_or] at plain
  simp [plain]

theorem Builder.Calm.moves_opening {p : Policy} {outer : String} (h : b.Calm (outer :: path))
    (keeps : p.keepsElement name = true)
    {as : List Attribute} (orderly : ∀ a ∈ as, a.Orderly) (nodup : (as.map Attribute.name).Nodup)
    (placed : b.startInBody ⟨false, name, as.map Attribute.reread, false⟩ = finished b')
    (quiet : b'.textOnly = none) :
    Moves p.keepsElement (openingMarkup name as s) b s b' := by
  have readable : ∀ q ∈ as.map Attribute.quoted, q.Readable := by
    intro q hq
    obtain ⟨a, ha, rfl⟩ := List.mem_map.1 hq
    exact (orderly a ha).readable
  obtain ⟨bad, scanned⟩ := scan_opening keeps readable s
  rw [distinct_orderly orderly nodup] at scanned
  refine h.moves (t := .start ⟨false, name, as.map Attribute.reread, false⟩) scanned
    (fun after => ?_) ?_ quiet
  · unfold Token.ofLexeme
    dsimp only
    rw [smallName_kept keeps, if_pos keeps, if_neg Bool.false_ne_true, wellNamed_orderly orderly]
    split <;> rfl
  · rw [h.placeInMode_start, placed]

theorem Builder.Calm.moves_closing {p : Policy} (h : b.Calm (name :: path))
    (keeps : p.keepsElement name = true) (placed : b.endInBody name = b')
    (quiet : b'.textOnly = none) : Moves p.keepsElement (closingMarkup name s) b s b' := by
  obtain ⟨bad, scanned⟩ := scan_closing keeps s
  refine h.moves (t := .stop name) scanned (fun after => ?_) ?_ quiet
  · unfold Token.ofLexeme
    dsimp only
    rw [smallName_kept keeps, if_pos keeps, if_pos rfl]
  · rw [h.placeInMode_stop, placed]

end Reading

/-! ### Trees -/

/-- The current element has more trees inside it, and nothing else is changed. -/
structure Grows (b : Builder) (ts : List Tree) (b' : Builder) : Prop where
  planted : Arena.Planted b.currentId ts b.arena b'.arena
  same : ∃ d, b' = { b with arena := b'.arena, dropBreak := d }

variable {b b' b'' : Builder} {path : List String} {name : String} {p : Policy}

theorem Grows.currentId {ts : List Tree} (h : Grows b ts b') : b'.currentId = b.currentId := by
  obtain ⟨d, same⟩ := h.same
  rw [same]
  rfl

theorem Grows.trans {ts us : List Tree} (h : Grows b ts b') (h' : Grows b' us b'') :
    Grows b (ts ++ us) b'' := by
  obtain ⟨d, same⟩ := h.same
  obtain ⟨d', same'⟩ := h'.same
  refine ⟨h.planted.trans (h.currentId ▸ h'.planted), d', ?_⟩
  rw [same', same]

theorem Grows.calm {ts : List Tree} (h : Grows b ts b') (calm : b.Calm path) : b'.Calm path := by
  obtain ⟨d, same⟩ := h.same
  rw [same]
  exact calm.grown h.planted d

theorem grows_text (h : b.Calm (name :: path)) (s : List Char) (trailing : b.current.trailing = [])
    (d : Bool) : Grows b (Tree.ofText s) (b.withText s d) := by
  cases s with
  | nil =>
    rw [withText_nil]
    exact ⟨Arena.Planted.refl h.ordered, d, rfl⟩
  | cons c s =>
    obtain ⟨is, -, current, -⟩ := h.current
    exact ⟨Arena.planted_text h.ordered current.known (List.cons_ne_nil c s) trailing, d, rfl⟩

/-- An element that was entered, filled and left is one more tree. -/
theorem grows_element {outer : String} (h : b.Calm (outer :: path)) {as : List Attribute}
    {children : List Tree} {d : Bool} (inside : Grows (b.entered name as d) children b') (d' : Bool) :
    Grows b [.element name .page as children] { b with arena := b'.arena, dropBreak := d' } ∧
      b'.arena.get b.currentId = (b.arena.get b.currentId).addBranch ⟨b.arena.size, true, []⟩ := by
  obtain ⟨is, -, current, -⟩ := h.current
  obtain ⟨whole, here⟩ :=
    Arena.planted_element h.ordered current.known name .page as children inside.planted
  exact ⟨⟨whole, d', rfl⟩, here⟩

theorem Tree.allMarkup_head {ts : List Tree} (h : Tree.AllOrderly p path ts)
    (first : ∀ t ∈ ts.head?, t.isText = false) {s : List Char} (tag : ∀ c ∈ s.head?, c = '<') :
    ∀ c ∈ (Tree.allMarkup ts s).head?, c = '<' := by
  cases ts with
  | nil => exact tag
  | cons t ts =>
    cases t with
    | text u => cases first (.text u) rfl
    | comment =>
      rw [Tree.AllOrderly, Tree.Orderly] at h
      exact h.1.elim
    | element name vocabulary attributes children =>
      intro c hc
      rw [Tree.allMarkup, Tree.markup] at hc
      exact (Option.some.inj hc).symm

/-- Trees as they are read where a line break at their start may be dropped. -/
def Tree.readAfter (drops : Bool) (ts : List Tree) : List Tree :=
  if drops then Tree.withoutBreak ts else ts

theorem Tree.readAfter_nil (drops : Bool) : Tree.readAfter drops [] = [] := by
  cases drops with
  | true => rfl
  | false => rfl

theorem Tree.readAfter_cons (drops : Bool) (t : Tree) (ts : List Tree) :
    Tree.readAfter drops (t :: ts) = Tree.readAfter drops [t] ++ ts := by
  cases drops with
  | true => exact Tree.withoutBreak_cons t ts
  | false => rfl

theorem Tree.readAfter_of_kept {drops : Bool} {t : Tree} {ts : List Tree}
    (kept : drops = true → ∀ s, t ≠ .text ('\n' :: s)) :
    Tree.readAfter drops (t :: ts) = t :: ts := by
  cases drops with
  | false => rfl
  | true =>
    refine Tree.withoutBreak_of_not (Bool.eq_false_iff.2 fun starts => ?_)
    obtain ⟨s, others, e⟩ := Tree.startsWithBreak_iff.1 starts
    exact kept rfl s (List.cons.inj e).1

theorem Tree.ofText_of_ne_nil {s : List Char} (some' : s ≠ []) : Tree.ofText s = [.text s] := by
  rw [Tree.ofText, List.isEmpty_eq_false_iff.2 some', if_neg Bool.false_ne_true]

/-- The reader takes in a text; where a line break is to be dropped, it is. -/
theorem moves_textTree {outer : String} {u : List Char} (some' : u ≠ [])
    (h : b.Calm (outer :: path)) (trailing : b.current.trailing = []) (s : List Char)
    (tag : ∀ c ∈ s.head?, c = '<') :
    ∃ b', Moves p.keepsElement (Writer.writtenText u ++ s) b s b' ∧
      Grows b (Tree.readAfter b.drops [.text (Writer.writtenText u)]) b' ∧ b'.drops = false := by
  have some'' := Writer.writtenText_ne_nil some'
  have bracket : '<' ∉ Writer.writtenText u := by
    intro hm
    obtain ⟨q, hq, hm⟩ := List.mem_flatten.1 hm
    exact Writer.bracket_notMem_textPieces u q hq hm
  have zero := Writer.zero_notMem_writtenText u
  generalize Writer.writtenText u = w at some'' bracket zero ⊢
  by_cases broken : b.drops = true ∧ w.head? = some '\n'
  · obtain ⟨drops, head⟩ := broken
    obtain ⟨r, rfl⟩ := List.head?_eq_some_iff.1 head
    obtain ⟨d, moved, quiet⟩ := moves_break p.keepsElement tag
      (fun hm => bracket (List.mem_cons_of_mem _ hm)) (fun hm => zero (List.mem_cons_of_mem _ hm))
      h drops
    rw [drops, Tree.readAfter, if_pos rfl, Tree.withoutBreak, List.append_nil]
    exact ⟨_, moved, grows_text h r trailing d, h.drops_addedText quiet⟩
  · have kept : b.drops = true → w.head? ≠ some '\n' := fun on e => broken ⟨on, e⟩
    obtain ⟨d, moved, -⟩ := moves_text p.keepsElement tag _ w (Nat.le_refl _) bracket zero h kept
    have whole : Tree.readAfter b.drops [.text w] = Tree.ofText w := by
      rw [Tree.readAfter_of_kept, Tree.ofText_of_ne_nil some'']
      intro on v e
      exact kept on (by rw [Tree.text.inj e]; rfl)
    rw [whole]
    exact ⟨_, moved, grows_text h w trailing d, h.drops_addedText fun e => absurd e some''⟩

section Elements

variable {outer : String} {as : List Attribute} {children : List Tree}

/-- The tags of an orderly element are read as the tags that they are. -/
theorem Builder.Calm.moves_orderly (h : b.Calm (outer :: path))
    (ht : Tree.Orderly p (outer :: path) (.element name .page as children)) (s : List Char)
    (b' : Builder) (placed : b.startInBody ⟨false, name, as.map Attribute.reread, false⟩ = finished b')
    (quiet : b'.textOnly = none) :
    Moves p.keepsElement (openingMarkup name as s) b s b' := by
  rw [Tree.Orderly] at ht
  obtain ⟨⟨-, keeps, -⟩, ⟨orderly, nodup⟩, -, -⟩ := ht
  exact h.moves_opening keeps orderly nodup placed quiet

/-- The reader takes in an element that holds nothing. -/
theorem moves_void (h : b.Calm (outer :: path))
    (ht : Tree.Orderly p (outer :: path) (.element name .page as children))
    (void : Writer.emptyElements.contains name = true) (s : List Char) :
    ∃ b', Moves p.keepsElement (openingMarkup name as s) b s b' ∧
      Grows b [.element name .page (as.map Attribute.reread) []] b' ∧
      b'.arena.get b.currentId = (b.arena.get b.currentId).addBranch ⟨b.arena.size, true, []⟩ := by
  have moves := h.moves_orderly ht s (b.openVoid ⟨false, name, as.map Attribute.reread, false⟩)
  rw [Tree.Orderly] at ht
  obtain ⟨⟨-, -, fits⟩, -, -, -⟩ := ht
  generalize as.map Attribute.reread = qs at moves ⊢
  have left : b.openVoid ⟨false, name, qs, false⟩ =
      { b with arena := (b.entered name qs b.dropBreak).arena, dropBreak := b.dropBreak } := by
    rw [Builder.openVoid, h.openTag]
    rfl
  have filled : Grows (b.entered name qs b.dropBreak) [] (b.entered name qs b.dropBreak) :=
    ⟨Arena.Planted.refl (h.inside qs b.dropBreak).ordered, b.dropBreak, rfl⟩
  obtain ⟨grows, here⟩ := grows_element h filled b.dropBreak
  rw [left] at moves
  exact ⟨_, moves (left ▸ h.startInBody_void qs fits void) h.textOnly, grows, here⟩

/-- The reader takes in an element that may hold something, if it takes in what that is. -/
theorem moves_full (h : b.Calm (outer :: path))
    (ht : Tree.Orderly p (outer :: path) (.element name .page as children))
    (full : Writer.emptyElements.contains name = false) (s : List Char)
    (inside : ∀ {b₁ : Builder}, b₁.Calm (name :: outer :: path) → b₁.current.trailing = [] →
      ∃ b₂, Moves p.keepsElement (Tree.allMarkup children (closingMarkup name s)) b₁
          (closingMarkup name s) b₂ ∧
        Grows b₁ (Tree.readAfter b₁.drops (Tree.allReread children)) b₂) :
    ∃ b', Moves p.keepsElement
        (openingMarkup name as (Tree.allMarkup children (closingMarkup name s))) b s b' ∧
      Grows b [.element name .page (as.map Attribute.reread)
        (Tree.readAfter (name == "pre") (Tree.allReread children))] b' ∧
      b'.arena.get b.currentId = (b.arena.get b.currentId).addBranch ⟨b.arena.size, true, []⟩ := by
  have moves := fun d => h.moves_orderly ht (Tree.allMarkup children (closingMarkup name s))
    (b.entered name (as.map Attribute.reread) d)
  rw [Tree.Orderly] at ht
  obtain ⟨⟨-, keeps, fits⟩, -, -, -⟩ := ht
  generalize as.map Attribute.reread = qs at moves ⊢
  obtain ⟨d, placed, pre⟩ := h.startInBody qs fits full
  have calm : (b.entered name qs d).Calm (name :: outer :: path) := h.inside qs d
  have bare : (b.entered name qs d).current.trailing = [] := by
    rw [h.current_entered]
    rfl
  obtain ⟨b₂, read, grows⟩ := inside calm bare
  rw [h.drops_entered fits pre] at grows
  have calm₂ := grows.calm calm
  obtain ⟨d₂, same⟩ := grows.same
  have current : b₂.currentId = b.arena.size := grows.currentId
  have newest : b₂.formatting = if formattingNames.contains name
      then b.formatting ++ [some b₂.currentId] else b.formatting := by
    rw [current, same]
    rfl
  obtain ⟨d', left⟩ := calm₂.endInBody fits full newest (current ▸ h.notMem_formatting)
  have back : ({ b₂.pop with formatting := b.formatting, dropBreak := d' } : Builder) =
      { b with arena := b₂.arena, dropBreak := d' } := by
    rw [same]
    rfl
  rw [back] at left
  obtain ⟨grown, here⟩ := grows_element h grows d'
  exact ⟨_, ((moves d placed calm.textOnly).trans read).trans
    (calm₂.moves_closing keeps left h.textOnly), grown, here⟩

end Elements

mutual

/-- The reader takes in a tree with all it holds. After an element, text begins anew. -/
theorem moves_tree : ∀ (t : Tree) {path : List String} {outer : String},
    t.Orderly p (outer :: path) → ∀ {b : Builder}, b.Calm (outer :: path) →
    (t.isText = true → b.current.trailing = []) → ∀ s : List Char,
    (t.isText = true → ∀ c ∈ s.head?, c = '<') →
    ∃ b', Moves p.keepsElement (t.markup s) b s b' ∧
      Grows b (Tree.readAfter b.drops [t.reread]) b' ∧ b'.drops = false ∧
      (t.isText = false → b'.current.trailing = [])
  | .text u, _, _, ht, _, h, trailing, s, tag => by
    rw [Tree.Orderly] at ht
    obtain ⟨b', moved, grows, off⟩ := moves_textTree (p := p) ht.1 h (trailing rfl) s (tag rfl)
    rw [Tree.markup, Tree.reread]
    exact ⟨b', moved, grows, off, fun e => by cases e⟩
  | .comment, _, _, ht, _, _, _, _, _ => by
    rw [Tree.Orderly] at ht
    exact ht.elim
  | .element name vocabulary as children, path, outer, ht, b, h, _, s, _ => by
    have ht' := ht
    rw [Tree.Orderly] at ht'
    obtain ⟨⟨rfl, -, -⟩, -, void, within⟩ := ht'
    obtain ⟨b', moved, grows, here⟩ : ∃ b', Moves p.keepsElement
        (Tree.markup (.element name .page as children) s) b s b' ∧
        Grows b [Tree.reread (.element name .page as children)] b' ∧ b'.arena.get b.currentId =
          (b.arena.get b.currentId).addBranch ⟨b.arena.size, true, []⟩ := by
      rw [Tree.markup, Tree.reread]
      cases empty : Writer.emptyElements.contains name with
      | true =>
        obtain rfl := void empty
        have same : (if name = "pre" then Tree.withoutBreak (Tree.allReread [])
            else Tree.allReread []) = [] := by
          rw [Tree.allReread]
          split <;> rfl
        rw [same]
        exact moves_void h ht empty s
      | false =>
        obtain ⟨b', moved, grown, here⟩ := moves_full h ht empty s fun calm bare =>
          moves_all children within calm (fun _ _ _ => bare) (closingMarkup name s)
            (fun c hc => (Option.some.inj hc).symm)
        simp only [Tree.readAfter, beq_iff_eq] at grown
        exact ⟨b', moved, grown, here⟩
    have current : b'.current = b.current.addBranch ⟨b.arena.size, true, []⟩ := by
      rw [Builder.current, grows.currentId]
      exact here
    refine ⟨b', moved, ?_, drops_of_hasContent ?_, fun _ => ?_⟩
    · rwa [Tree.readAfter_of_kept]
      intro _ u e
      rw [Tree.reread] at e
      cases e
    · rw [current]
      simp [Element.hasContent, Element.addBranch]
    · rw [current]
      simp [Element.trailing, Element.addBranch]

/-- The reader takes in trees side by side, up to a tag or the end. -/
theorem moves_all : ∀ (ts : List Tree) {path : List String} {outer : String},
    Tree.AllOrderly p (outer :: path) ts → ∀ {b : Builder}, b.Calm (outer :: path) →
    (∀ t ∈ ts.head?, t.isText = true → b.current.trailing = []) → ∀ s : List Char,
    (∀ c ∈ s.head?, c = '<') →
    ∃ b', Moves p.keepsElement (Tree.allMarkup ts s) b s b' ∧
      Grows b (Tree.readAfter b.drops (Tree.allReread ts)) b'
  | [], _, _, _, b, h, _, s, _ => by
    rw [Tree.allReread, Tree.readAfter_nil]
    exact ⟨b, Moves.refl, Arena.Planted.refl h.ordered, b.dropBreak, rfl⟩
  | t :: rest, _, _, ht, b, h, trailing, s, tag => by
    rw [Tree.AllOrderly] at ht
    obtain ⟨first, later, separate⟩ := ht
    obtain ⟨b₁, read, grows, off, bare⟩ := moves_tree t first h (trailing t rfl)
      (Tree.allMarkup rest s) (fun text => Tree.allMarkup_head later (separate text) tag)
    obtain ⟨b₂, readRest, growsRest⟩ := moves_all rest later (grows.calm h) (fun u hu text => by
      -- a text after a text is not orderly, so an element stands before it
      refine bare (Bool.eq_false_iff.2 fun text' => ?_)
      rw [separate text' u hu] at text
      cases text) s tag
    rw [off] at growsRest
    rw [Tree.allMarkup, Tree.allReread, Tree.readAfter_cons]
    exact ⟨b₂, read.trans readRest, grows.trans growsRest⟩

end

end PageSkins.Markup
