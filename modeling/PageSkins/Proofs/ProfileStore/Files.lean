import PageSkins.Proofs.Disk
import PageSkins.Proofs.Json.Records
import PageSkins.Proofs.ProfileStore
import PageSkins.Proofs.Text.Utf8

/-!
# The files of profiles read back

The file of a profile is read as that profile, but for the spelling of its address.
-/

namespace PageSkins

open PageSkins.Text

/-- Names of at most 200 letters, digits, hyphens, low lines and points of ASCII. -/
structure PlainName (n : String) : Prop where
  nonempty : n ≠ ""
  short : n.length ≤ 200
  plain : ∀ c ∈ n.toList, Toml.isBareKeyChar c = true ∨ c = '.'

namespace PlainName

theorem toNat_of_between {c : Char} {low high : UInt32} (h : c.val ≥ low ∧ c.val ≤ high) :
    low.toNat ≤ c.toNat ∧ c.toNat ≤ high.toNat :=
  ⟨UInt32.le_iff_toNat_le.1 h.1, UInt32.le_iff_toNat_le.1 h.2⟩

theorem range_of_bare {c : Char} (h : Toml.isBareKeyChar c = true) :
    45 ≤ c.toNat ∧ c.toNat ≤ 122 ∧ c.toNat ≠ 47 ∧ c.toNat ≠ 92 := by
  have kinds : (((c.isUpper || c.isLower) || c.isDigit) || c = '-' || c = '_') = true := h
  have both {p q : Prop} [Decidable p] [Decidable q] (h : (decide p && decide q) = true) : p ∧ q :=
    (Bool.and_eq_true_iff.1 h).imp of_decide_eq_true of_decide_eq_true
  simp only [Bool.or_eq_true, decide_eq_true_eq] at kinds
  rcases kinds with (((upper | lower) | digit) | rfl) | rfl
  · have : 65 ≤ c.toNat ∧ c.toNat ≤ 90 := toNat_of_between (of_decide_eq_true upper)
    omega
  · have : 97 ≤ c.toNat ∧ c.toNat ≤ 122 := toNat_of_between (both lower)
    omega
  · have : 48 ≤ c.toNat ∧ c.toNat ≤ 57 := toNat_of_between (both digit)
    omega
  · decide
  · decide

variable {n : String}

/-- A plain name holds no character that has a meaning in a path, a document or a record. -/
theorem apart (h : PlainName n) {c : Char} (hc : c ∈ n.toList) :
    0x20 < c.toNat ∧ c.toNat < 0x7F ∧ c ≠ '"' ∧ c ≠ '\\' ∧ c ≠ '/' := by
  have range : 45 ≤ c.toNat ∧ c.toNat ≤ 122 ∧ c.toNat ≠ 47 ∧ c.toNat ≠ 92 := by
    rcases h.plain c hc with bare | rfl
    · exact range_of_bare bare
    · decide
  refine ⟨by omega, by omega, ?_, ?_, ?_⟩
  all_goals
    rintro rfl
    exact absurd range (by decide)

/-- With its ending a plain name is a name for a file. -/
theorem fileName (h : PlainName n) : Disk.FileName (n ++ ".json") := by
  refine Disk.fileName_of_ascii ?_ ?_ ?_
  · intro c hc
    rw [String.toList_append, List.mem_append] at hc
    rcases hc with hc | hc
    · obtain ⟨low, high, -, -, slash⟩ := h.apart hc
      exact ⟨by omega, by omega, slash⟩
    · have ending : ∀ c ∈ ".json".toList, 0 < c.toNat ∧ c.toNat < 0x80 ∧ c ≠ '/' :=
        forall_mem_of_all (by decide)
      exact ending c hc
  · rw [String.length_append]
    exact Nat.lt_add_left _ (by decide)
  · rw [String.length_append]
    exact Nat.le_trans (Nat.add_le_add_right h.short _) (by decide)

end PlainName

namespace Profile

variable {p q : Profile}

/-- Profiles that are written in the same way have all in common but the spelling of the
address. -/
theorem toFields_inj : q.toFields = p.toFields ↔ q.name = p.name ∧ q.baseUrl = p.baseUrl ∧
    q.accessToken = p.accessToken ∧ q.timeout = p.timeout ∧ q.retries = p.retries ∧
      q.active = p.active := by
  have token : q.accessToken.elim Value.null .text = p.accessToken.elim .null .text ↔
      q.accessToken = p.accessToken := by
    cases q.accessToken <;> cases p.accessToken <;> simp
  simp [toFields, token]

/-- What is written of a profile are values without parts. -/
theorem simple_toFields (h : p.Valid) : ∀ f ∈ p.toFields, Json.Simple (some 4300) f.2 := by
  have digits : ∀ n ≤ 300, (Decimal.natDigits n).length ≤ 4300 := by decide +kernel
  intro f hf
  simp only [toFields, List.mem_cons, List.not_mem_nil, or_false] at hf
  rcases hf with rfl | rfl | rfl | rfl | rfl | rfl
  · exact .text _
  · exact .text _
  · cases p.accessToken with
    | none => exact .null
    | some t => exact .text t
  · have range := h.timeout
    exact .int _ fun k hk => Option.some.inj hk ▸ digits _ (by omega)
  · have range := h.retries
    exact .int _ fun k hk => Option.some.inj hk ▸ digits _ (by omega)
  · exact .bool _

end Profile

namespace ProfileStore

variable {p : Profile}

theorem read_profileText (h : p.Valid) : Json.read (profileText p) = .ok (.map p.toFields) := by
  have distinct : p.toFields.names.Nodup := (by decide : ["name", "api_url", "access_token",
    "timeout", "retry_attempts", "active"].Nodup)
  exact Json.readWith_write ⟨true, some 2⟩ (List.cons_ne_nil _ _) distinct (Profile.simple_toFields h)

/-- The file of a profile is read by checking what was written. -/
theorem readProfile_profileText (h : p.Valid) : readProfile (encodeUtf8 (profileText p)) =
    match Profile.check p.toFields with
    | .ok q => .ok q
    | .bad _ => .error .skipped := by
  unfold readProfile
  rw [decodeUtf8?_encodeUtf8]
  cases checked : Profile.check p.toFields with
  | ok q => simp only [read_profileText h, checked]
  | bad issues => simp only [read_profileText h, checked]

/-- Files that are the same are those of profiles that are written in the same way. -/
theorem toFields_of_profileText {q : Profile} (hp : p.Valid) (hq : q.Valid)
    (same : encodeUtf8 (profileText q) = encodeUtf8 (profileText p)) : q.toFields = p.toFields := by
  have text : profileText q = profileText p := by
    apply Option.some.inj
    rw [← decodeUtf8?_encodeUtf8 (profileText q), same, decodeUtf8?_encodeUtf8]
  have read := read_profileText hq
  rw [text, read_profileText hp] at read
  exact (Value.map.inj (Except.ok.inj read)).symm

/-- The file of a profile is passed over, or read as a profile that is written in the same
way. -/
theorem readProfile_cases (h : p.Valid) :
    readProfile (encodeUtf8 (profileText p)) = .error .skipped ∨ ∃ q,
      readProfile (encodeUtf8 (profileText p)) = .ok q ∧ q.Valid ∧ q.toFields = p.toFields := by
  rw [readProfile_profileText h]
  cases checked : Profile.check p.toFields with
  | ok q => exact .inr ⟨q, rfl, Profile.valid_of_check checked, Profile.toFields_of_check h checked⟩
  | bad issues => exact .inl rfl

/-- It is not passed over if the address is short enough. -/
theorem readProfile_ne_skipped (h : p.Valid) (short : p.baseUrl.length ≤ WebAddress.maxLength) :
    readProfile (encodeUtf8 (profileText p)) ≠ .error .skipped := by
  obtain ⟨q, checked⟩ := Profile.check_toFields h short
  rw [readProfile_profileText h, checked]
  exact nofun

end ProfileStore

end PageSkins
