import PageSkins.Record.Check

/-!
# Records that pass a check

When a check has a result, each of its parts has one, and the result is made of these.
-/

namespace PageSkins

namespace Checked

variable {α β : Type} {f : α → β} {c : Checked α} {a : α} {b : β}

theorem map_eq_ok : f <$> c = .ok b ↔ ∃ a, c = .ok a ∧ f a = b := by
  cases c with
  | ok a =>
    change Checked.ok (f a) = .ok b ↔ _
    simp
  | bad issues =>
    change Checked.bad issues = .ok b ↔ _
    simp

theorem seq_eq_ok {fs : Checked (α → β)} :
    fs <*> c = .ok b ↔ ∃ g a, fs = .ok g ∧ c = .ok a ∧ g a = b := by
  cases fs with
  | ok g =>
    cases c with
    | ok a =>
      change Checked.ok (g a) = .ok b ↔ _
      simp
    | bad issues =>
      change Checked.bad issues = .ok b ↔ _
      simp
  | bad issues =>
    cases c with
    | ok a =>
      change Checked.bad issues = .ok b ↔ _
      simp
    | bad others =>
      change Checked.bad (issues ++ others) = .ok b ↔ _
      simp

theorem also_eq_ok {rule : α → Checked β} :
    c.also rule = .ok b ↔ ∃ a, c = .ok a ∧ rule a = .ok b := by
  cases c with
  | ok a => simp [also]
  | bad issues => simp [also]

theorem at'_eq_ok {s : PathStep} : c.at' s = .ok a ↔ c = .ok a := by
  cases c with
  | ok a => rfl
  | bad issues => simp [at']

end Checked

namespace Check

variable {α : Type} {fs : Fields} {name : String} {read : Reader α} {a : α}

theorem required_eq_ok :
    required fs name read = .ok a ↔ ∃ v, fs.find? name = some v ∧ read v = .ok a := by
  unfold required
  cases fs.find? name with
  | none => simp
  | some v => simp [Checked.at'_eq_ok]

theorem orElse_eq_ok {default : α} : orElse fs name default read = .ok a ↔
    (fs.find? name = none ∧ a = default) ∨ ∃ v, fs.find? name = some v ∧ read v = .ok a := by
  unfold orElse
  cases fs.find? name with
  | none => simp [eq_comm]
  | some v => simp [Checked.at'_eq_ok]

theorem optional_eq_ok {v : Value} {x : Option α} :
    optional read v = .ok x ↔ (v = .null ∧ x = none) ∨ (v ≠ .null ∧ ∃ a, read v = .ok a ∧ x = some a) := by
  unfold optional
  split
  · simp [eq_comm]
  · rename_i some'
    rw [Checked.map_eq_ok]
    constructor
    · rintro ⟨a, value, rfl⟩
      exact .inr ⟨some', a, value, rfl⟩
    · rintro (⟨none, -⟩ | ⟨-, a, value, rfl⟩)
      · exact absurd none some'
      · exact ⟨a, value, rfl⟩

theorem text_eq_ok {v : Value} {s : String} : text v = .ok s ↔ v = .text s := by
  cases v with
  | text t => simp [text]
  | _ => simp [text, Checked.fail]

end Check
end PageSkins
