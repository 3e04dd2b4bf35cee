/-!
# Text escaped for markup

The five characters with a meaning in markup are written as references.
-/

namespace PageSkins.Text

/-- The reference written for a character that has a meaning in markup. -/
def escapeChar : Char → List Char
  | '&' => ['&', 'a', 'm', 'p', ';']
  | '<' => ['&', 'l', 't', ';']
  | '>' => ['&', 'g', 't', ';']
  | '"' => ['&', 'q', 'u', 'o', 't', ';']
  | '\'' => ['&', '#', 'x', '2', '7', ';']
  | c => [c]

def escape (s : List Char) : List Char := s.flatMap escapeChar

/-- No angle bracket and no quote is left. -/
theorem not_mem_escape (s : List Char) : ∀ c ∈ escape s, c ∉ ['<', '>', '"', '\''] := by
  intro c hc
  obtain ⟨d, _, hd⟩ := List.mem_flatMap.1 hc
  unfold escapeChar at hd
  split at hd <;> simp_all <;> rcases hd with h | h | h | h | h | h <;> simp_all

end PageSkins.Text
