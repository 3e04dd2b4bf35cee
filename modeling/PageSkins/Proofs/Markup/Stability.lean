import PageSkins.Proofs.Markup.OrderlyReading

/-!
# Sanitizing twice

A fragment that is reduced to orderly trees is written as their markup, which is
read back as the trees that they are said to be reread as. So sanitizing once
more changes nothing exactly where nothing drifts. Fragments with tables, drawings,
forms, lists of choices or areas of text are not among them.
-/

namespace PageSkins.Markup

variable {p : Policy} {ts : List Tree}

theorem Builder.calm_start : Builder.start.Calm [Builder.rootName] := by
  refine ⟨rfl, rfl, rfl, ?_, ?_, by decide, fun o ho => (List.not_mem_nil ho).elim⟩
  · intro i b hb
    have bare : (Arena.get Builder.start.arena i).branches.toList = [] := by
      cases i with
      | zero => rfl
      | succ i => rfl
    rw [bare] at hb
    cases hb
  · exact List.Forall₂.cons ⟨by decide, rfl, rfl⟩ List.Forall₂.nil

/-- What is read is what the reader has put into the fragment by the end of the text. -/
theorem Tree.read_of_grows {kept : String → Bool} {s : List Char} (breaks : normalizeBreaks s = s)
    {b : Builder} (grows : Grows Builder.start ts b)
    (run : ∃ after fuel, 0 < fuel ∧ Reader.run kept (s.length + 1) s ⟨.start, false, none⟩ =
      Reader.run kept fuel [] ⟨b, after, none⟩) : Tree.read kept s = ts := by
  obtain ⟨after, fuel, enough, run⟩ := run
  have calm := grows.calm Builder.calm_start
  have last : Reader.run kept fuel [] ⟨b, after, none⟩ = ⟨b, after, none⟩ := by
    obtain ⟨n, rfl⟩ : ∃ n, fuel = n + 1 := ⟨fuel - 1, by omega⟩
    rfl
  have finished : b.finish = b := by
    rw [Builder.finish, calm.mode]
    rfl
  have arena : readArena kept s = b.arena := by
    unfold readArena
    rw [breaks]
    dsimp only
    rw [run, last, finished]
  have known : 0 < b.arena.size := Nat.lt_of_lt_of_le (by decide) grows.planted.grows
  have content : b.arena.content 0 = ts := grows.planted.content
  rw [Tree.read, arena, Arena.inside_content calm.ordered false known (by omega), content]

/-- The markup of orderly trees is read back as what they are said to be reread as. -/
theorem Tree.read_orderly (h : Tree.AllOrderly p [Builder.rootName] ts) :
    Tree.read p.keepsElement (Tree.allMarkup ts []) = Tree.allReread ts := by
  obtain ⟨b, moves, grows⟩ := moves_all ts h Builder.calm_start (fun _ _ _ => rfl) []
    fun c hc => by cases hc
  have drops : Builder.start.drops = false := rfl
  rw [drops] at grows
  exact Tree.read_of_grows (normalizeBreaks_orderly h) grows (moves false _ (Nat.lt_succ_self _))

/-- The markup of orderly trees is reduced to what they are said to be reread as. -/
theorem filter_read_orderly (h : Tree.AllOrderly p [Builder.rootName] ts) (kept : Tree.AllKept p ts) :
    p.filter (Tree.read p.keepsElement (stripContainers (Tree.allMarkup ts []))) =
      .ok (Tree.allReread ts) := by
  rw [stripContainers_orderly h, Tree.read_orderly h, Policy.filter_reread ts h kept]

theorem sanitize_orderly (h : Tree.AllOrderly p [Builder.rootName] ts) (kept : Tree.AllKept p ts) :
    sanitize p (Tree.allMarkup ts []) = .ok (Tree.allMarkup (Tree.allReread ts) []) := by
  unfold sanitize
  rw [filter_read_orderly h kept]
  exact Writer.write_orderly (Tree.allOrderly_reread ts h)

/-- The markup of orderly trees differs from that of what they are reread as where something drifts. -/
theorem Tree.allMarkup_reread_iff {path : List String} (h : Tree.AllOrderly p path ts) :
    Tree.allMarkup (Tree.allReread ts) [] = Tree.allMarkup ts [] ↔ Tree.anyDrifts ts = false := by
  refine ⟨fun same => Bool.eq_false_iff.2 fun drifts => ?_, Tree.allMarkup_reread ts []⟩
  have grown := Tree.balance_allReread ts h [] []
  rw [same, drifts, Bool.toNat_true] at grown
  omega

/-- A line break at the start of preformatted text is lost by sanitizing twice. -/
theorem not_sanitize_preformatted :
    sanitize {} "<pre>\n\nx</pre>".toList = .ok "<pre>\nx</pre>".toList ∧
      sanitize {} "<pre>\nx</pre>".toList ≠ .ok "<pre>\nx</pre>".toList := by
  have orderly : ∀ u : List Char, u ≠ [] → '\r' ∉ u → '=' ∉ Writer.writtenText u →
      Tree.AllOrderly {} [Builder.rootName] [.element "pre" .page [] [.text u]] :=
    fun u some' plain clear => Tree.allOrderly_singleton (Tree.orderly_around rfl rfl rfl
      (fun a ha => (List.not_mem_nil ha).elim) List.nodup_nil some' plain
      (Writer.clear_of_notMem clear))
  have kept : ∀ u : List Char, Tree.AllKept {} [.element "pre" .page [] [.text u]] := by
    intro u
    simp [Tree.AllKept, Tree.Kept]
  have first := sanitize_orderly
    (orderly "\n\nx".toList (by decide) (by decide) (by decide)) (kept "\n\nx".toList)
  have second := sanitize_orderly
    (orderly "\nx".toList (by decide) (by decide) (by decide)) (kept "\nx".toList)
  refine ⟨first, fun same => ?_⟩
  have lost := second.symm.trans same
  exact absurd (Except.ok.inj lost) (by decide)

/-- Where a fragment is reduced to orderly trees whose values the policy keeps as they are written,
sanitizing twice is sanitizing once if and only if nothing drifts. Orderly trees are made of 36 of
the 48 elements that a policy can keep: they hold no parts of tables, no drawings, no forms, no
lists of choices and no areas of text, and nothing is said here of fragments that do. -/
theorem sanitize_sanitize_iff {s : List Char}
    (reduced : p.filter (Tree.read p.keepsElement (stripContainers s)) = .ok ts)
    (orderly : Tree.AllOrderly p [Builder.rootName] ts) (kept : Tree.AllKept p ts) :
    ∃ out, sanitize p s = .ok out ∧ (sanitize p out = .ok out ↔ Tree.anyDrifts ts = false) := by
  have first : sanitize p s = .ok (Tree.allMarkup ts []) := by
    unfold sanitize
    rw [reduced]
    exact Writer.write_orderly orderly
  refine ⟨_, first, ?_⟩
  rw [sanitize_orderly orderly kept, ← Tree.allMarkup_reread_iff orderly]
  exact ⟨Except.ok.inj, congrArg _⟩

theorem sanitize_sanitize_titled :
    ∃ out, sanitize {} "<p title=\"1 &amp; 2\">a &lt; b</p>".toList = .ok out ∧
      sanitize {} out = .ok out := by
  have title : Attribute.Orderly ⟨"title", "1 & 2".toList⟩ :=
    ⟨by decide, forall_mem_of_all (by decide), forall_mem_of_all (by decide),
      forall_mem_of_all (by decide), forall_mem_of_all (by decide), by decide, fun _ => ⟨_, rfl⟩⟩
  have orderly : Tree.AllOrderly {} [Builder.rootName]
      [.element "p" .page [⟨"title", "1 & 2".toList⟩] [.text "a < b".toList]] := by
    refine Tree.allOrderly_singleton (Tree.orderly_around rfl rfl rfl (fun a ha => ?_) (by decide)
      (by decide) (by decide) (Writer.clear_of_notMem (by decide)))
    rw [List.mem_singleton.1 ha]
    exact title
  have value : ∀ w, ({} : Policy).value? ⟨none, "title"⟩ w = .ok (some w) := by
    intro w
    rw [Policy.value?, if_neg (by decide), if_neg (by decide), if_neg (by decide),
      if_neg (by decide)]
  have kept : ∀ w u, Tree.AllKept {} [.element "p" .page [⟨"title", w⟩] [.text u]] := by
    intro w u
    rw [Tree.AllKept, Tree.AllKept, Tree.Kept, Tree.AllKept, Tree.AllKept, Tree.Kept]
    refine ⟨⟨fun a ha => ?_, trivial, trivial⟩, trivial⟩
    rw [List.mem_singleton.1 ha]
    exact value _
  obtain ⟨out, first, again⟩ := sanitize_sanitize_iff (filter_read_orderly orderly (kept _ _))
    (Tree.allOrderly_reread _ orderly) (kept _ _)
  exact ⟨out, first, again.2 rfl⟩

end PageSkins.Markup
