import Mathlib.Data.List.Forall2
import PageSkins.Json.Writer
import PageSkins.Proofs.Lists
import PageSkins.Template.Render

/-!
# Values cannot bring in markup

Two scopes are similar when a template cannot tell them apart by names, by the
length of lists or by truth. Filling in a template under similar scopes gives
texts with the same angle brackets and quotes in the same order: all of them
come from the template and from the field that holds markup. Nothing is said of
the other characters, nor of scopes with an integer too long to be written.
-/

namespace PageSkins.Template

open PageSkins.Text PageSkins.Decimal

def isMark (c : Char) : Bool := c == '<' || c == '>' || c == '"' || c == '\''

/-- The characters of a text that markup is made with, in order. -/
def marks (s : List Char) : List Char := s.filter isMark

theorem marks_append (s t : List Char) : marks (s ++ t) = marks s ++ marks t := by
  rw [marks, List.filter_append]
  rfl

theorem marks_escape (s : List Char) : marks (escape s) = [] := by
  rw [marks, List.filter_eq_nil_iff]
  intro c hc
  have plain := not_mem_escape s c hc
  simp only [List.mem_cons, List.not_mem_nil, or_false, not_or] at plain
  simp [isMark, plain]

/-! ### Texts that agree -/

/-- Two results fail together, or their marks are the same. -/
inductive Agree : Except Fault (List Char) → Except Fault (List Char) → Prop
  | ok {s t : List Char} (same : marks s = marks t) : Agree (.ok s) (.ok t)
  | error (f g : Fault) : Agree (.error f) (.error g)

namespace Agree

theorem refl : ∀ r : Except Fault (List Char), Agree r r
  | .ok _ => ok rfl
  | .error f => error f f

theorem append {a b a' b' : Except Fault (List Char)} (h : Agree a a') (h' : Agree b b') :
    Agree (do return (← a) ++ (← b)) (do return (← a') ++ (← b')) := by
  cases h with
  | error f g => exact error f g
  | ok same =>
    cases h' with
    | error f g => exact error f g
    | ok same' =>
      refine ok ?_
      rw [marks_append, marks_append, same, same']

theorem joined {α β : Type} {f : α → Except Fault (List Char)} {g : β → Except Fault (List Char)}
    {xs : List α} {ys : List β} (h : List.Forall₂ (fun x y => Agree (f x) (g y)) xs ys) :
    Agree (Template.joined f xs) (Template.joined g ys) := by
  induction h with
  | nil => exact ok rfl
  | cons first _ ih => exact append first ih

end Agree

theorem joined_agree {α : Type} {f g : α → Except Fault (List Char)}
    (h : ∀ a, Agree (f a) (g a)) (xs : List α) : Agree (joined f xs) (joined g xs) :=
  Agree.joined (List.forall₂_same.2 fun a _ => h a)

/-! ### Similar scopes -/

mutual

inductive SimilarFields : Fields → Fields → Prop
  | intro {fs gs : Fields} (names : ∀ name, fs.has name = gs.has name)
      (values : ∀ name v w, fs.find? name = some v → gs.find? name = some w → SimilarValues name v w) :
      SimilarFields fs gs

/-- Similar values under one name: lists of similar items, or no lists and equally true. Markup is the
same. -/
inductive SimilarValues : String → Value → Value → Prop
  | lists {name : String} {vs ws : List Value} (items : List.Forall₂ SimilarItems vs ws)
      (raw : name = rawField → vs = ws) : SimilarValues name (.list vs) (.list ws)
  | others {name : String} {v w : Value} (left : ∀ vs, v ≠ .list vs) (right : ∀ ws, w ≠ .list ws)
      (truth : v.isTruthy = w.isTruthy) (raw : name = rawField → v = w) : SimilarValues name v w

/-- Similar items of lists: no maps, or similar maps. -/
inductive SimilarItems : Value → Value → Prop
  | others {v w : Value} (left : v.isMapping = false) (right : w.isMapping = false) : SimilarItems v w
  | maps {v w : Value} (left : v.isMapping = true) (right : w.isMapping = true)
      (fields : SimilarFields v.fields w.fields) : SimilarItems v w

end

theorem SimilarFields.nil : SimilarFields [] [] :=
  .intro (fun _ => rfl) fun _ _ _ h => by cases h

/-- Layers with the same names in the same order are similar if the values are. -/
theorem SimilarFields.cons {name : String} {v w : Value} {fs gs : Fields}
    (first : SimilarValues name v w) (rest : SimilarFields fs gs) :
    SimilarFields ((name, v) :: fs) ((name, w) :: gs) := by
  obtain ⟨names, values⟩ := rest
  have lookup : ∀ (other : String) (u : Value) (hs : Fields),
      Fields.find? ((name, u) :: hs) other = if other = name then some u else hs.find? other :=
    fun other u hs => lookup_cons_if name u hs other
  refine .intro ?_ ?_
  · intro other
    have known := names other
    unfold Fields.has at known ⊢
    rw [lookup, lookup]
    split
    · rfl
    · exact known
  · intro other v' w' hv hw
    rw [lookup] at hv hw
    split at hv
    · rename_i same
      rw [if_pos same] at hw
      cases hv
      cases hw
      rw [same]
      exact first
    · rename_i apart
      rw [if_neg apart] at hw
      exact values other v' w' hv hw

theorem SimilarValues.null (name : String) : SimilarValues name .null .null :=
  .others (fun _ h => by cases h) (fun _ h => by cases h) rfl fun _ => rfl

theorem SimilarValues.truth {name : String} {v w : Value} (h : SimilarValues name v w) :
    v.isTruthy = w.isTruthy := by
  cases h with
  | others _ _ truth _ => exact truth
  | lists items _ =>
    cases items with
    | nil => rfl
    | cons _ _ => rfl

theorem SimilarValues.raw {name : String} {v w : Value} (h : SimilarValues name v w)
    (hn : name = rawField) : v = w := by
  cases h with
  | others _ _ _ raw => exact raw hn
  | lists _ raw => rw [raw hn]

theorem SimilarValues.items {name : String} {v w : Value} (h : SimilarValues name v w) :
    List.Forall₂ SimilarItems (loopItems v) (loopItems w) := by
  cases h with
  | lists items _ => exact items
  | others left right _ _ =>
    have none : ∀ u : Value, (∀ us, u ≠ .list us) → loopItems u = [] := by
      intro u hu
      unfold loopItems
      split
      · exact absurd rfl (hu _)
      · rfl
    rw [none v left, none w right]
    exact List.Forall₂.nil

theorem SimilarItems.fields {v w : Value} (h : SimilarItems v w) :
    SimilarFields v.fields w.fields := by
  cases h with
  | maps _ _ fields => exact fields
  | others left right =>
    have none : ∀ u : Value, u.isMapping = false → u.fields = [] := by
      intro u hu
      cases u with
      | map _ => cases hu
      | keyed _ => cases hu
      | _ => rfl
    rw [none v left, none w right]
    exact SimilarFields.nil

/-- Two layers of a scope that are similar, with no integer too long to be written. -/
structure SimilarLayers (fs gs : Fields) : Prop where
  similar : SimilarFields fs gs
  short : Json.anyLongField fs = false
  short' : Json.anyLongField gs = false

/-! ### Integers that can be written -/

theorem two_pow_le {n k : Nat} (h : n ≤ k) : Nat.pow 2 n ≤ Nat.pow 10 k :=
  Nat.le_trans (Nat.pow_le_pow_left (by decide) n) (Nat.pow_le_pow_right (by decide) h)

theorem truncate_lt (x : Float) : (Binary.ofFloat x).truncate < Nat.pow 10 Value.maxDigits := by
  have exponent : ((x.toBits >>> 52) &&& 0x7FF).toNat ≤ 2047 := by
    rw [UInt64.toNat_and]
    exact Nat.and_le_right
  have fraction : (x.toBits &&& 0xFFFFFFFFFFFFF).toNat < 2 ^ 52 := by
    rw [UInt64.toNat_and]
    exact Nat.and_lt_two_pow _ (by decide)
  have parts : (Binary.ofFloat x).m < Nat.pow 2 53 ∧ (Binary.ofFloat x).q.toNat ≤ 972 := by
    unfold Binary.ofFloat
    dsimp only
    rw [show Nat.pow 2 53 = 2 ^ 53 from rfl]
    split
    · dsimp only
      omega
    · dsimp only
      rw [show Nat.pow 2 52 = 2 ^ 52 from rfl]
      omega
  have cut : (Binary.ofFloat x).truncate ≤
      (Binary.ofFloat x).m * Nat.pow 2 (Binary.ofFloat x).q.toNat := by
    refine Nat.le_trans (Nat.div_le_self _ _) ?_
    simp
  calc (Binary.ofFloat x).truncate
      ≤ (Binary.ofFloat x).m * Nat.pow 2 (Binary.ofFloat x).q.toNat := cut
    _ < Nat.pow 2 53 * Nat.pow 2 (Binary.ofFloat x).q.toNat :=
        Nat.mul_lt_mul_of_pos_right parts.1 (Nat.pow_pos (by decide))
    _ = Nat.pow 2 (53 + (Binary.ofFloat x).q.toNat) := (Nat.pow_add 2 53 _).symm
    _ ≤ Nat.pow 10 Value.maxDigits :=
        two_pow_le (Nat.le_trans (Nat.add_le_add_left parts.2 53) (by decide))

theorem tooLong_truncate (x : Float) : Value.tooLong ((truncate? x).getD 0) = false := by
  refine decide_eq_false (Nat.not_le.2 ?_)
  unfold truncate?
  split
  · dsimp only [Option.getD_some]
    split
    · rw [Int.natAbs_neg]
      exact truncate_lt x
    · exact truncate_lt x
  · exact two_pow_le (n := 0) (k := Value.maxDigits) (Nat.zero_le _)

theorem valueText_ok (name : String) {v : Value} (short : Json.hasLongInteger v = false) :
    ∃ s, valueText name v = .ok s := by
  cases v with
  | int n =>
    have written : integerText name n = .ok (intText n) := by
      rw [integerText, if_neg (by simpa [Json.hasLongInteger] using short)]
    exact ⟨_, written⟩
  | float x =>
    have written : integerText name ((truncate? x).getD 0) =
        .ok (intText ((truncate? x).getD 0)) := by
      rw [integerText, if_neg (by rw [tooLong_truncate]; exact Bool.false_ne_true)]
    by_cases whole : isInteger x = true
    · exact ⟨_, by rw [valueText, if_pos whole, written]⟩
    · exact ⟨_, by rw [valueText, if_neg whole]⟩
  | _ => exact ⟨_, rfl⟩

/-- Outside the field that holds markup, no value brings in a mark. -/
theorem fieldText_unmarked {name : String} (hn : name ≠ rawField) {v : Value}
    (short : Json.hasLongInteger v = false) : ∃ s, fieldText name v = .ok s ∧ marks s = [] := by
  obtain ⟨s, hs⟩ := valueText_ok name short
  by_cases hv : ∃ b, v = .bool b
  · obtain ⟨b, rfl⟩ := hv
    cases b with
    | true => exact ⟨_, rfl, by decide⟩
    | false => exact ⟨_, rfl, by decide⟩
  · refine ⟨escape s, ?_, marks_escape s⟩
    unfold fieldText
    split
    · rename_i b
      exact absurd ⟨b, rfl⟩ hv
    · rw [hs]
      simp [Except.map, hn]

theorem fieldText_agree {name : String} {v w : Value} (h : SimilarValues name v w)
    (short : Json.hasLongInteger v = false) (short' : Json.hasLongInteger w = false) :
    Agree (fieldText name v) (fieldText name w) := by
  by_cases hn : name = rawField
  · rw [h.raw hn]
    exact Agree.refl _
  · obtain ⟨s, hs, plain⟩ := fieldText_unmarked hn short
    obtain ⟨t, ht, plain'⟩ := fieldText_unmarked hn short'
    rw [hs, ht]
    exact Agree.ok (by rw [plain, plain'])

/-! ### Looking up names -/

theorem short_of_find? {fs : Fields} (short : Json.anyLongField fs = false) {name : String}
    {v : Value} (h : fs.find? name = some v) : Json.hasLongInteger v = false := by
  induction fs with
  | nil => cases h
  | cons f fs ih =>
    obtain ⟨k, u⟩ := f
    simp only [Json.anyLongField, Bool.or_eq_false_iff] at short
    unfold Fields.find? at h ih
    rw [List.lookup_cons] at h
    split at h
    · cases h
      exact short.1
    · exact ih short.2 h

theorem short_of_mem {vs : List Value} (short : Json.anyLong vs = false) :
    ∀ v ∈ vs, Json.hasLongInteger v = false := by
  induction vs with
  | nil =>
    intro v hv
    cases hv
  | cons u vs ih =>
    simp only [Json.anyLong, Bool.or_eq_false_iff] at short
    intro v hv
    rcases List.mem_cons.1 hv with rfl | hv
    · exact short.1
    · exact ih short.2 v hv

theorem short_loopItems {v : Value} (short : Json.hasLongInteger v = false) :
    ∀ u ∈ loopItems v, Json.hasLongInteger u = false := by
  cases v with
  | list vs =>
    rw [Json.hasLongInteger] at short
    exact short_of_mem short
  | _ =>
    intro u hu
    cases hu

theorem short_textKeys {es : List (Value × Value)} (short : Json.anyLongEntry es = false) :
    Json.anyLongField (Value.keyed es).fields = false := by
  induction es with
  | nil => rfl
  | cons e es ih =>
    obtain ⟨k, v⟩ := e
    simp only [Json.anyLongEntry, Bool.or_eq_false_iff] at short
    cases k with
    | text s =>
      have first : (Value.keyed ((.text s, v) :: es)).fields = (s, v) :: (Value.keyed es).fields := rfl
      rw [first, Json.anyLongField, short.1.2, ih short.2]
      rfl
    | _ => exact ih short.2

theorem short_fields {v : Value} (short : Json.hasLongInteger v = false) :
    Json.anyLongField v.fields = false := by
  cases v with
  | map es =>
    rw [Json.hasLongInteger] at short
    exact short
  | keyed es =>
    rw [Json.hasLongInteger] at short
    exact short_textKeys short
  | _ => rfl

theorem Scope.find_similar {scope scope' : Scope} (h : List.Forall₂ SimilarLayers scope scope')
    (name : String) : SimilarValues name (scope.find name) (scope'.find name) ∧
      Json.hasLongInteger (scope.find name) = false ∧
      Json.hasLongInteger (scope'.find name) = false := by
  induction h with
  | nil => exact ⟨SimilarValues.null name, rfl, rfl⟩
  | @cons fs gs rest rest' layers _ ih =>
    obtain ⟨⟨names, values⟩, short, short'⟩ := layers
    have known := names name
    unfold Fields.has at known
    unfold Scope.find
    cases hf : fs.find? name with
    | some v =>
      cases hg : gs.find? name with
      | some w =>
        exact ⟨values name v w hf hg, short_of_find? short hf, short_of_find? short' hg⟩
      | none =>
        rw [hf, hg] at known
        cases known
    | none =>
      cases hg : gs.find? name with
      | some w =>
        rw [hf, hg] at known
        cases known
      | none => exact ih

/-- The items of similar values make similar layers. -/
theorem layers_of_items {name : String} {v w : Value} (h : SimilarValues name v w)
    (short : Json.hasLongInteger v = false) (short' : Json.hasLongInteger w = false) :
    List.Forall₂ (fun u u' => SimilarLayers u.fields u'.fields) (loopItems v) (loopItems w) := by
  have items := h.items
  have left := short_loopItems short
  have right := short_loopItems short'
  generalize loopItems v = vs at items left
  generalize loopItems w = ws at items right
  induction items with
  | nil => exact List.Forall₂.nil
  | cons first _ ih =>
    refine List.Forall₂.cons ?_ ?_
    · exact ⟨first.fields, short_fields (left _ List.mem_cons_self),
        short_fields (right _ List.mem_cons_self)⟩
    · exact ih (fun u hu => left u (List.mem_cons_of_mem _ hu))
        (fun u hu => right u (List.mem_cons_of_mem _ hu))

/-! ### Nodes and templates -/

theorem isEmpty_of_forall₂ {vs ws : List Value} (h : List.Forall₂ SimilarItems vs ws) :
    vs.isEmpty = ws.isEmpty := by
  cases h with
  | nil => rfl
  | cons _ _ => rfl

/-- A loop under similar scopes agrees if its body does. -/
theorem loop_agree {scope scope' : Scope} (h : List.Forall₂ SimilarLayers scope scope')
    {body : Scope → Except Fault (List Char)}
    (hb : ∀ {s s' : Scope}, List.Forall₂ SimilarLayers s s' → Agree (body s) (body s'))
    (name : String) :
    Agree (joined (fun v => body (v.fields :: scope)) (loopItems (scope.find name)))
      (joined (fun v => body (v.fields :: scope')) (loopItems (scope'.find name))) := by
  obtain ⟨similar, short, short'⟩ := Scope.find_similar h name
  have layers := layers_of_items similar short short'
  exact Agree.joined (layers.imp fun u u' hu => hb (List.Forall₂.cons hu h))

theorem field_agree (inc : Includes) (room inclusions : Nat) {scope scope' : Scope}
    (h : List.Forall₂ SimilarLayers scope scope') (name : String) :
    Agree (Node.render inc room inclusions scope (.field name))
      (Node.render inc room inclusions scope' (.field name)) := by
  obtain ⟨similar, short, short'⟩ := Scope.find_similar h name
  rw [Node.render, Node.render]
  exact fieldText_agree similar short short'

section Step

variable {inc : Includes} {room : Nat}
variable (below : ∀ (inclusions : Nat) {s s' : Scope}, List.Forall₂ SimilarLayers s s' →
  ∀ n : Node, Agree (Node.render inc room inclusions s n) (Node.render inc room inclusions s' n))

include below

theorem include_agree (inclusions : Nat) {scope scope' : Scope}
    (h : List.Forall₂ SimilarLayers scope scope') (name : String) :
    Agree (Node.render inc (room + 1) inclusions scope (.include name))
      (Node.render inc (room + 1) inclusions scope' (.include name)) := by
  rw [Node.render, Node.render]
  cases inc.source? name with
  | error f => exact Agree.error f f
  | ok source =>
    cases source with
    | none => exact Agree.refl _
    | some source =>
      cases inclusions with
      | zero => exact Agree.refl _
      | succ left => exact joined_agree (below left h) (parse source)

theorem cond_agree (inclusions : Nat) {scope scope' : Scope}
    (h : List.Forall₂ SimilarLayers scope scope') (name : String) (body : List Node) :
    Agree (Node.render inc (room + 1) inclusions scope (.block .cond name body))
      (Node.render inc (room + 1) inclusions scope' (.block .cond name body)) := by
  have truth := (Scope.find_similar h name).1.truth
  rw [Node.render, Node.render, truth]
  split
  · exact joined_agree (below inclusions h) body
  · exact Agree.refl _

theorem loops_agree {kind : BlockKind} (hk : kind ≠ .cond) (inclusions : Nat)
    {scope scope' : Scope} (h : List.Forall₂ SimilarLayers scope scope') (name : String)
    (body : List Node) :
    Agree (Node.render inc (room + 1) inclusions scope (.block kind name body))
      (Node.render inc (room + 1) inclusions scope' (.block kind name body)) := by
  have items := (Scope.find_similar h name).1.items
  rw [Node.render, Node.render]
  · dsimp only
    rw [isEmpty_of_forall₂ items]
    split
    · exact Agree.refl _
    · split
      · cases inc.source? (String.ofList (itemTemplateName name.toList)) with
        | error f => exact Agree.error f f
        | ok source =>
          cases source with
          | none => exact Agree.refl _
          | some source =>
            cases inclusions with
            | zero => exact Agree.refl _
            | succ left =>
              exact loop_agree h (fun hs => joined_agree (below left hs) (parse source)) name
      · exact loop_agree h (fun hs => joined_agree (below inclusions hs) body) name
  · exact hk
  · exact hk

end Step

/-- Under similar scopes every node gives texts with the same marks. -/
theorem Node.render_agree (inc : Includes) : ∀ (room inclusions : Nat) {scope scope' : Scope},
    List.Forall₂ SimilarLayers scope scope' → ∀ n : Node,
      Agree (Node.render inc room inclusions scope n) (Node.render inc room inclusions scope' n) := by
  intro room
  induction room with
  | zero =>
    intro inclusions scope scope' h n
    cases n with
    | field name => exact field_agree inc 0 inclusions h name
    | text s =>
      rw [Node.render, Node.render]
      exact Agree.refl _
    | «include» name =>
      rw [Node.render, Node.render]
      exact Agree.refl _
    | block kind name body =>
      rw [Node.render, Node.render]
      exact Agree.refl _
  | succ room below =>
    intro inclusions scope scope' h n
    cases n with
    | field name => exact field_agree inc (room + 1) inclusions h name
    | text s =>
      rw [Node.render, Node.render]
      exact Agree.refl _
    | «include» name => exact include_agree below inclusions h name
    | block kind name body =>
      cases kind with
      | cond => exact cond_agree below inclusions h name body
      | each => exact loops_agree below BlockKind.noConfusion inclusions h name body
      | «section» => exact loops_agree below BlockKind.noConfusion inclusions h name body

/-- Under similar scopes a template gives texts with the same angle brackets and quotes, in the same order. -/
theorem marks_render (limits : Limits) (template : List Char) (inc : Includes) {fs gs : Fields}
    (similar : SimilarFields fs gs) (short : Json.anyLongField fs = false)
    (short' : Json.anyLongField gs = false) :
    marks (render limits template fs inc) = marks (render limits template gs inc) := by
  have layers : List.Forall₂ SimilarLayers [fs] [gs] :=
    List.Forall₂.cons ⟨similar, short, short'⟩ List.Forall₂.nil
  have agree : Agree (render? limits template fs inc) (render? limits template gs inc) :=
    joined_agree (Node.render_agree inc limits.depth limits.inclusions layers) (parse template)
  unfold render
  generalize render? limits template fs inc = a at agree
  generalize render? limits template gs inc = b at agree
  cases agree with
  | ok same => exact same
  | error _ _ => rfl

theorem marks_render_posts :
    marks (render {} "<h1>\x7b\x7btitle\x7d\x7d</h1>\x7b\x7b#each posts\x7d\x7d<p>\x7b\x7bname\x7d\x7d</p>\x7b\x7b/each\x7d\x7d".toList
        [("title", .text "<script>"), ("posts", .list [.map [("name", .text "a\"b")]])] (some [])) =
      marks (render {} "<h1>\x7b\x7btitle\x7d\x7d</h1>\x7b\x7b#each posts\x7d\x7d<p>\x7b\x7bname\x7d\x7d</p>\x7b\x7b/each\x7d\x7d".toList
        [("title", .bool true), ("posts", .list [.map [("name", .text "c")]])] (some [])) := by
  have name : SimilarValues "name" (.text "a\"b") (.text "c") :=
    .others (fun _ h => by cases h) (fun _ h => by cases h) (by decide) (fun h => absurd h (by decide))
  have title : SimilarValues "title" (.text "<script>") (.bool true) :=
    .others (fun _ h => by cases h) (fun _ h => by cases h) (by decide) (fun h => absurd h (by decide))
  have posts : SimilarValues "posts" (.list [.map [("name", .text "a\"b")]])
      (.list [.map [("name", .text "c")]]) :=
    .lists (List.Forall₂.cons (.maps rfl rfl (.cons name .nil)) List.Forall₂.nil)
      (fun h => absurd h (by decide))
  exact marks_render {} _ (some []) (.cons title (.cons posts .nil)) rfl rfl

end PageSkins.Template
