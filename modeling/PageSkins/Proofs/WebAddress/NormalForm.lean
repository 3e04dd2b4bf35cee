import PageSkins.Proofs.WebAddress.Hosts

/-!
# Addresses read again

An address in normal form, without the slashes at its end, is read as an address that is
the same without those slashes. So an address that was kept without them is found again
as it was.
-/

namespace PageSkins.WebAddress

/-! ### Users -/

/-- A user with the sign that ends it is none, or it is read as itself. -/
theorem exists_userText (s : List Char) : userText s = [] ∨
    ∃ u, userText s = u ++ ['@'] ∧ userText u = u ++ ['@'] ∧
      ∀ c ∈ u, c = ':' ∨ encodedInUser c = false := by
  have kept (s : List Char) : encode encodedInUser (encode encodedInUser s) = encode encodedInUser s :=
    encode_encode marks_inUser
  have plain {s : List Char} {c : Char} (hc : c ∈ encode encodedInUser s) : encodedInUser c = false :=
    plain_of_mem_encode marks_inUser hc
  have named (s : List Char) : ∀ c ∈ encode encodedInUser s, (c != ':') = true := by
    intro c hc
    rw [bne_iff_ne]
    rintro rfl
    exact absurd (plain hc) (by decide)
  unfold userText
  dsimp only
  generalize s.takeWhile (· != ':') = name
  generalize (s.dropWhile (· != ':')).drop 1 = password
  by_cases open' : encode encodedInUser password = []
  · rw [open']
    by_cases empty : encode encodedInUser name = []
    · left
      rw [empty]
      rfl
    · right
      refine ⟨encode encodedInUser name, ?_, ?_, fun c hc => .inr (plain hc)⟩
      · simp [empty]
      · simp [List.takeWhile_eq_self_iff.2 (named name), List.dropWhile_eq_nil_iff.2 (named name), kept,
          empty, show encode encodedInUser [] = [] from rfl]
  · right
    refine ⟨encode encodedInUser name ++ ':' :: encode encodedInUser password, ?_, ?_, ?_⟩
    · simp [open']
    · simp [List.takeWhile_append_of_pos (named name), List.dropWhile_append_of_pos (named name), kept,
        open']
    · intro c hc
      rcases List.mem_append.1 hc with hc | hc
      · exact .inr (plain hc)
      · rcases List.mem_cons.1 hc with rfl | hc
        · exact .inl rfl
        · exact .inr (plain hc)

theorem splitUser_of_notMem {s : List Char} (h : '@' ∉ s) : splitUser s = none := by
  unfold splitUser
  rw [if_neg (by simpa using h)]

theorem splitUser_append {r : List Char} (h : '@' ∉ r) (u : List Char) :
    splitUser (u ++ '@' :: r) = some (u, r) := by
  have all : ∀ c ∈ r.reverse, (c != '@') = true := fun c hc =>
    bne_iff_ne.2 fun same => h (same ▸ List.mem_reverse.1 hc)
  have host : (u ++ '@' :: r).reverse.takeWhile (· != '@') = r.reverse := by
    rw [List.reverse_append, List.reverse_cons, List.append_assoc,
      List.takeWhile_append_of_pos all]
    simp
  have cut : (u ++ '@' :: r).length - r.length - 1 = u.length := by
    rw [List.length_append, List.length_cons]
    omega
  unfold splitUser
  rw [if_pos (by simp), host, List.reverse_reverse]
  dsimp only
  rw [cut, List.take_left]

/-! ### Ports -/

/-- A port is left out, or its digits are read as they are. -/
theorem exists_portText {scheme : String} {s t : List Char} (h : portText? scheme s = some t) :
    ∃ port : Option (List Char), t = port.elim [] (':' :: ·) ∧
      portText? scheme (port.getD []) = some t ∧ ∀ c ∈ t, c ∈ ":0123456789".toList := by
  unfold portText? at h
  split at h
  · cases h
  dsimp only at h
  generalize s.foldl _ 0 = n at h
  split at h
  · cases h
  rename_i bounded
  split at h
  · obtain rfl := Option.some.inj h
    exact ⟨none, rfl, rfl, List.forall_mem_nil _⟩
  · rename_i special
    obtain rfl := Option.some.inj h
    have all : (Decimal.natDigits n).all Char.isDigit = true :=
      List.all_eq_true.2 fun c hc => Decimal.isDigit_of_mem_natDigits hc
    refine ⟨some (Decimal.natDigits n), rfl, ?_, ?_⟩
    · unfold portText?
      rw [Option.getD_some, all, Bool.not_true, if_neg Bool.false_ne_true]
      dsimp only
      rw [Decimal.foldl_natDigits, if_neg bounded, if_neg]
      rw [List.isEmpty_iff, not_or]
      exact ⟨Decimal.natDigits_ne_nil n, (not_or.1 special).2⟩
    · intro c hc
      rcases List.mem_cons.1 hc with rfl | hc
      · exact List.mem_cons_self
      · obtain ⟨d, hd, rfl⟩ := Decimal.mem_toDigits (by decide) hc
        exact (by decide : ∀ d < 10, Nat.digitChar d ∈ ":0123456789".toList) d hd

/-! ### User, host and port -/

theorem authority?_of_parts {scheme : String} {s user rest host port text : List Char}
    {shown : Option (List Char)} (beside : (splitUser s).getD ([], s) = (user, rest))
    (apart : splitPort false rest = (host, shown)) (read : Host.read? host = some port)
    (digits : portText? scheme (shown.getD []) = some text) :
    authority? scheme s = some (userText user ++ port ++ text) := by
  unfold authority?
  rw [beside]
  dsimp only
  rw [apart]
  dsimp only
  rw [read, digits]
  rfl

/-- What stands between the slashes and the path, read as itself. -/
structure NormalAuthority (scheme : String) (a : List Char) : Prop where
  again : authority? scheme a = some a
  ne : a ≠ []
  printed : ∀ c ∈ a, isPrinted c = true
  goesOn : ∀ c ∈ a, endsAuthority true c = false

theorem isPrinted_of_inUser {c : Char} (h : encodedInUser c = false) : isPrinted c = true :=
  isPrinted_of_plain h (fun hc => by simp [encodedInUser, encodedInPath, encodedInFragment, hc])
    (by decide)

theorem endsAuthority_eq_false {c : Char} (h : c ∉ ['/', '?', '#', '\\']) :
    endsAuthority true c = false := by
  rw [Bool.eq_false_iff]
  intro ends
  apply h
  simpa [endsAuthority, or_assoc] using ends

theorem forall_mem_userText {u : List Char} (h : ∀ c ∈ u, c = ':' ∨ encodedInUser c = false) :
    ∀ c ∈ u ++ ['@'], isPrinted c = true ∧ endsAuthority true c = false := by
  refine List.forall_mem_append.2 ⟨fun c hc => ?_, List.forall_mem_singleton.2 (by decide)⟩
  rcases h c hc with rfl | plain
  · decide
  · refine ⟨isPrinted_of_inUser plain, endsAuthority_eq_false fun mark => ?_⟩
    have all : ∀ x ∈ ['/', '?', '#', '\\'], encodedInUser x = true := forall_mem_of_all (by decide)
    rw [all c mark] at plain
    cases plain

/-- A host and its port have no character that ends them or that ends a user. -/
theorem Host.IsNormal.forall_mem_hostPort {host port : List Char} (h : Host.IsNormal host)
    (digits : ∀ c ∈ port, c ∈ ":0123456789".toList) : ∀ c ∈ host ++ port,
      isPrinted c = true ∧ endsAuthority true c = false ∧ c ≠ '@' := by
  refine List.forall_mem_append.2 ⟨fun c hc => ⟨h.printed c hc, ?_, ?_⟩, fun c hc => ?_⟩
  · refine endsAuthority_eq_false fun mark => h.inside c hc ?_
    have ends : ∀ x ∈ ['/', '?', '#', '\\'], x ∈ Host.hostEnds := forall_mem_of_all (by decide)
    exact ends c mark
  · rintro rfl
    exact h.inside _ hc (by decide)
  · have numbers : ∀ x ∈ ":0123456789".toList,
        isPrinted x = true ∧ endsAuthority true x = false ∧ x ≠ '@' :=
      forall_mem_of_all (by decide)
    exact numbers c (digits c hc)

theorem normalAuthority_of_authority? {scheme : String} {s a : List Char}
    (h : authority? scheme s = some a) : NormalAuthority scheme a := by
  unfold authority? at h
  dsimp only at h
  generalize (splitUser s).getD ([], s) = parts at h
  obtain ⟨user, rest⟩ := parts
  dsimp only at h
  generalize splitPort false rest = parts at h
  obtain ⟨host, port⟩ := parts
  dsimp only at h
  obtain ⟨host, readHost, h⟩ := Option.bind_eq_some_iff.1 h
  obtain ⟨text, readPort, h⟩ := Option.bind_eq_some_iff.1 h
  obtain rfl := Option.some.inj h
  have normal := Host.isNormal_of_read? readHost
  obtain ⟨port, same, portAgain, digits⟩ := exists_portText readPort
  have inside := normal.forall_mem_hostPort digits
  have single : '@' ∉ host ++ text := fun hc => (inside _ hc).2.2 rfl
  have apart : splitPort false (host ++ text) = (host, port) := same ▸ normal.splitPort port
  rw [List.append_assoc]
  rcases exists_userText user with none | ⟨u, shown, again, plain⟩
  · rw [none, List.nil_append]
    refine ⟨?_, by simp [normal.ne], fun c hc => (inside c hc).1, fun c hc => (inside c hc).2.1⟩
    exact authority?_of_parts (by rw [splitUser_of_notMem single]; rfl) apart normal.read? portAgain
  · have whole : u ++ ['@'] ++ (host ++ text) = u ++ '@' :: (host ++ text) := by
      rw [List.append_assoc, List.singleton_append]
    have before := forall_mem_userText plain
    rw [shown]
    refine ⟨?_, by simp, ?_, ?_⟩
    · rw [whole, authority?_of_parts (by rw [splitUser_append single]; rfl) apart normal.read?
        portAgain, again, List.append_assoc, whole]
    · exact List.forall_mem_append.2 ⟨fun c hc => (before c hc).1, fun c hc => (inside c hc).1⟩
    · exact List.forall_mem_append.2 ⟨fun c hc => (before c hc).2, fun c hc => (inside c hc).2.1⟩

/-! ### Whole addresses -/

theorem clean_of_printed {s : List Char} (h : ∀ c ∈ s, isPrinted c = true) : clean s = s := by
  have visible : ∀ c ∈ s, 0x20 < c.toNat := fun c hc => by
    have shown := h c hc
    rw [isPrinted, Bool.and_eq_true, decide_eq_true_eq] at shown
    exact shown.1
  have edge : ∀ c ∈ s, decide (c.toNat ≤ 0x20) = false := fun c hc =>
    decide_eq_false (Nat.not_le_of_lt (visible c hc))
  unfold clean
  dsimp only
  rw [dropWhile_of_forall edge, dropWhile_of_forall fun c hc => edge c (List.mem_reverse.1 hc),
    List.reverse_reverse, List.filter_eq_self]
  intro c hc
  rw [decide_eq_true_eq]
  intro mark
  have all : ∀ x ∈ ['\t', '\n', '\r'], ¬ 0x20 < x.toNat := forall_mem_of_all (by decide)
  exact all c mark (visible c hc)

/-- What follows an authority: nothing, or a path from the root. -/
def Rooted (rest : List Char) : Prop := ∀ c ∈ rest.head?, c = '/'

theorem rooted_trimSlashes_restText (s : List Char) : Rooted (trimSlashes (restText s)) := by
  obtain ⟨segments, query, fragment, ne, -, same⟩ := exists_restText s
  obtain ⟨first, segments, rfl⟩ := List.exists_cons_of_ne_nil ne
  obtain ⟨cut, whole⟩ := List.rdropWhile_prefix (· == '/') (restText s)
  change trimSlashes (restText s) ++ cut = restText s at whole
  intro c hc
  obtain ⟨r, front⟩ := List.head?_eq_some_iff.1 hc
  rw [front, same] at whole
  exact (List.cons.inj whole).1

theorem webText?_of_normal {scheme : String} {a rest : List Char} (h : NormalAuthority scheme a)
    (rooted : Rooted rest) : webText? scheme ('/' :: '/' :: (a ++ rest)) =
      some (scheme.toList ++ "://".toList ++ a ++ restText rest) := by
  obtain ⟨c, a, rfl⟩ := List.exists_cons_of_ne_nil h.ne
  have start : ('/' :: '/' :: (c :: a ++ rest)).dropWhile (fun c => c = '/' || c = '\\') =
      c :: a ++ rest := by
    have first := h.goesOn c List.mem_cons_self
    have solid : ¬ (c = '/' ∨ c = '\\') := by
      rintro (rfl | rfl)
      · exact absurd first (by decide)
      · exact absurd first (by decide)
    simp [solid]
  have front : (c :: a ++ rest).takeWhile (fun c => !endsAuthority true c) = c :: a := by
    rw [List.takeWhile_append_of_pos fun d hd => by rw [h.goesOn d hd]; rfl]
    cases rest with
    | nil => exact List.append_nil _
    | cons d rest =>
      obtain rfl := rooted d rfl
      rw [List.takeWhile_cons_of_neg (by decide), List.append_nil]
  unfold webText?
  dsimp only
  rw [start, front, h.again, List.drop_left]
  rfl

theorem exists_webText {scheme : String} {s t : List Char} (h : webText? scheme s = some t) :
    ∃ a r, NormalAuthority scheme a ∧ t = scheme.toList ++ "://".toList ++ a ++ restText r := by
  unfold webText? at h
  dsimp only at h
  obtain ⟨a, authority, h⟩ := Option.bind_eq_some_iff.1 h
  exact ⟨a, _, normalAuthority_of_authority? authority, (Option.some.inj h).symm⟩

def addressOf (scheme : String) (a rest : List Char) : List Char :=
  scheme.toList ++ "://".toList ++ a ++ rest

theorem exists_addressOf {s : List Char} {t : String} (h : read s = .ok t) :
    ∃ scheme a r, (scheme = "http" ∨ scheme = "https") ∧ NormalAuthority scheme a ∧
      t = String.ofList (addressOf scheme a (restText r)) := by
  unfold read at h
  split at h
  · cases h
  split at h
  · cases h
  rename_i scheme rest _
  split at h
  · rename_i web
    split at h
    · rename_i text made
      obtain ⟨a, r, normal, rfl⟩ := exists_webText made
      exact ⟨scheme, a, r, web, normal, (Except.ok.inj h).symm⟩
    · cases h
  · split at h
    · cases h
    · cases h

theorem length_le_of_read {s : List Char} {t : String} (h : read s = .ok t) :
    s.length ≤ maxLength := by
  unfold read at h
  split at h
  · cases h
  · rename_i short
    exact (Text.length_le_encodeUtf8 s).trans (Nat.le_of_not_lt short)

theorem splitScheme_addressOf {scheme : String} (web : scheme = "http" ∨ scheme = "https")
    (a rest : List Char) :
    splitScheme (addressOf scheme a rest) = some (scheme, '/' :: '/' :: (a ++ rest)) := by
  rcases web with rfl | rfl
  · simp [addressOf, splitScheme]
  · simp [addressOf, splitScheme]

theorem isPrinted_of_mem_addressOf {scheme : String} (web : scheme = "http" ∨ scheme = "https")
    {a rest : List Char} (ha : ∀ c ∈ a, isPrinted c = true) (hr : ∀ c ∈ rest, isPrinted c = true) :
    ∀ c ∈ addressOf scheme a rest, isPrinted c = true := by
  have front : ∀ c ∈ scheme.toList ++ "://".toList, isPrinted c = true := by
    rcases web with rfl | rfl
    · exact forall_mem_of_all (by decide)
    · exact forall_mem_of_all (by decide)
  exact List.forall_mem_append.2 ⟨List.forall_mem_append.2 ⟨front, ha⟩, hr⟩

/-- An authority does not end in a slash, so the slashes that are cut off stand after it. -/
theorem trimSlashes_addressOf {scheme : String} {a : List Char} (h : NormalAuthority scheme a)
    (rest : List Char) :
    trimSlashes (addressOf scheme a rest) = addressOf scheme a (trimSlashes rest) := by
  obtain ⟨front, c, rfl⟩ : ∃ front c, a = front ++ [c] :=
    ⟨_, _, (List.dropLast_concat_getLast h.ne).symm⟩
  have solid : c ≠ '/' := by
    rintro rfl
    exact absurd (h.goesOn '/' (List.mem_append_right _ List.mem_cons_self)) (by decide)
  have grouped (r : List Char) : addressOf scheme (front ++ [c]) r =
      (scheme.toList ++ "://".toList ++ front) ++ c :: r := by
    simp [addressOf]
  rw [grouped, grouped, trimSlashes_append_cons solid]

/-- An address that is short enough is read again without the slashes at its end, and it is
the same as before but for slashes. -/
theorem read_withoutSlashes {s : List Char} {t : String} (h : read s = .ok t)
    (short : (withoutSlashes t).length ≤ maxLength) :
    ∃ t', read (withoutSlashes t).toList = .ok t' ∧ withoutSlashes t' = withoutSlashes t := by
  obtain ⟨scheme, a, r, web, normal, rfl⟩ := exists_addressOf h
  have kept : (withoutSlashes (String.ofList (addressOf scheme a (restText r)))).toList =
      addressOf scheme a (trimSlashes (restText r)) := by
    rw [toList_withoutSlashes, String.toList_ofList, trimSlashes_addressOf normal]
  have printed : ∀ c ∈ addressOf scheme a (trimSlashes (restText r)), isPrinted c = true :=
    isPrinted_of_mem_addressOf web normal.printed fun c hc =>
      isPrinted_of_mem_restText (trimSlashes_subset _ hc)
  have length : (Text.encodeUtf8 (addressOf scheme a (trimSlashes (restText r)))).length ≤
      maxLength := by
    rw [Text.length_encodeUtf8_of_ascii, ← kept, String.length_toList]
    · exact short
    · intro c hc
      have shown := printed c hc
      rw [isPrinted, Bool.and_eq_true, decide_eq_true_eq, decide_eq_true_eq] at shown
      omega
  refine ⟨String.ofList (addressOf scheme a (restText (trimSlashes (restText r)))), ?_, ?_⟩
  · have same := webText?_of_normal normal (rooted_trimSlashes_restText r)
    rw [kept]
    unfold read
    rw [if_neg (Nat.not_lt_of_le length), clean_of_printed printed, splitScheme_addressOf web]
    dsimp only
    rw [if_pos web, same]
    rfl
  · rw [← String.toList_inj, kept, toList_withoutSlashes, String.toList_ofList,
      trimSlashes_addressOf normal, trimSlashes_restText]

end PageSkins.WebAddress
