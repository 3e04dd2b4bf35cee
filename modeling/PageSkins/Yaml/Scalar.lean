import PageSkins.Decimal.Reader
import PageSkins.Yaml.Cursor

/-!
# The texts of YAML scalars

Plain, in quotes, and in blocks. Lines are folded: a single line end is a blank, and of
several the first does not count.
-/

namespace PageSkins.Yaml

abbrev Scanned := Except Fault (List Char × Cursor)

/-- Line ends after a first one, as they are folded. -/
def folded (first breaks : List Char) : List Char :=
  if first = ['\n'] then (if breaks.isEmpty then [' '] else breaks) else first ++ breaks

/-! ## Quoted text -/

/-- What an escape of one character stands for. -/
def escapes : List (Char × Char) := [
  ('0', '\x00'), ('a', '\x07'), ('b', '\x08'), ('t', '\t'), ('\t', '\t'), ('n', '\n'), ('v', '\x0b'), ('f', '\x0c'),
  ('r', '\r'), ('e', '\x1b'), (' ', ' '), ('"', '"'), ('\\', '\\'), ('/', '/'), ('N', '\x85'), ('_', '\xa0'),
  ('L', '\u2028'), ('P', '\u2029')]

/-- How many digits in base sixteen follow a letter after a backslash. -/
def escapeWidth : Char → Nat
  | 'x' => 2
  | 'u' => 4
  | 'U' => 8
  | _ => 0

def hexDigit? (c : Char) : Option Nat :=
  if '0' ≤ c ∧ c ≤ '9' then some (c.toNat - 48)
  else if 'a' ≤ c ∧ c ≤ 'f' then some (c.toNat - 87)
  else if 'A' ≤ c ∧ c ≤ 'F' then some (c.toNat - 55)
  else none

def hexNumber? (width : Nat) (s : List Char) : Option Nat := do
  let ds ← (s.take width).mapM hexDigit?
  if ds.length = width then some (Decimal.ofDigits 16 ds) else none

def charOf (n : Nat) : Except Fault Char :=
  if n ≥ 0x80000000 then .error .overflow else if n ≥ 0x110000 then .error .badValue else .ok (Char.ofNat n)

/-- Line ends within quoted text, where blanks around them do not count. The fuel bounds their number. -/
def quotedBreaks : Nat → Cursor → Scanned
  | 0, _ => .error .malformed
  | fuel + 1, c =>
    if c.atSeparator then .error .malformed
    else
      let c := (c.run fun x => x = ' ' || x = '\t').2
      if c.head.any isBreak then do
        let (b, c) := c.lineEnd
        let (more, c) ← quotedBreaks fuel c
        return (b ++ more, c)
      else .ok ([], c)

/-- Quoted text after the opening quote. The fuel bounds the number of pieces. -/
def quotedText (double : Bool) : Nat → List (List Char) → Cursor → Scanned
  | 0, _, _ => .error .malformed
  | fuel + 1, out, c =>
    match c.rest with
    | [] => .error .malformed
    | '\'' :: rest =>
      if double then quotedText double fuel (['\''] :: out) c.next
      else if rest.head? = some '\'' then quotedText double fuel (['\''] :: out) (c.skip 2)
      else .ok (out.reverse.flatten, c.next)
    | '"' :: _ =>
      if double then .ok (out.reverse.flatten, c.next) else quotedText double fuel (['"'] :: out) c.next
    | '\\' :: rest =>
      if double then
        match rest with
        | [] => .error .malformed
        | e :: digits =>
          match escapes.lookup e with
          | some x => quotedText double fuel ([x] :: out) (c.skip 2)
          | none =>
            if isBreak e then do
              let (breaks, c) ← quotedBreaks fuel c.next.lineEnd.2
              quotedText double fuel (breaks :: out) c
            else
              let width := escapeWidth e
              match if width = 0 then none else hexNumber? width digits with
              | some n => do
                let x ← charOf n
                quotedText double fuel ([x] :: out) (c.skip (2 + width))
              | none => .error .malformed
      else quotedText double fuel (['\\'] :: out) c.next
    | x :: _ =>
      if x = ' ' ∨ x = '\t' ∨ isBreak x then
        let (blanks, c) := c.run fun x => x = ' ' || x = '\t'
        match c.head with
        | none => .error .malformed
        | some y =>
          if isBreak y then do
            let (first, c) := c.lineEnd
            let (breaks, c) ← quotedBreaks fuel c
            quotedText double fuel (folded first breaks :: out) c
          else quotedText double fuel (blanks :: out) c
      else
        let (s, c) := c.run fun x => !(x = '\'' || x = '"' || x = '\\' || x = ' ' || x = '\t' || isBreak x)
        quotedText double fuel (s :: out) c

def quoted (double : Bool) (c : Cursor) : Scanned := quotedText double (c.rest.length + 1) [] c.next

/-! ## Plain text -/

/-- How many characters of a word there are. In brackets, a word ends before those and before commas. -/
def wordLength (inFlow : Bool) : List Char → Nat
  | [] => 0
  | c :: rest =>
    let ends (x : Char) : Bool := inFlow && (x = ',' || x = '[' || x = ']' || x = '\x7b' || x = '\x7d')
    if atGap (some c) || (c = ':' && (atGap rest.head? || rest.head?.any ends)) || ends c || (inFlow && c = '?') then 0
    else wordLength inFlow rest + 1

/-- Line ends between words of plain text, and whether documents are separated after them. -/
def plainBreaks : Nat → Cursor → List Char × Bool × Cursor
  | 0, c => ([], false, c)
  | fuel + 1, c =>
    match c.head with
    | some ' ' => plainBreaks fuel c.next
    | some x =>
      if isBreak x then
        let (b, c) := c.lineEnd
        if c.atSeparator then (b, true, c)
        else
          let (more, separated, c) := plainBreaks fuel c
          (b ++ more, separated, c)
      else ([], false, c)
    | none => ([], false, c)

/-- Plain text that has been read, the place after it, and whether it went over a line end. -/
structure Plain where
  text : List Char
  place : Cursor
  crossed : Bool := false

/-- Plain text from a word on. The words of further lines have to be further right than `margin`. The fuel bounds
the number of words. -/
def plainText (inFlow : Bool) (margin : Nat) : Nat → Plain → List Char → Plain
  | 0, p, _ => p
  | fuel + 1, p, blanks =>
    let n := wordLength inFlow p.place.rest
    if p.place.head = some '#' ∨ n = 0 then p
    else
      let text := p.text ++ blanks ++ p.place.rest.take n
      let after := p.place.skip n
      let (spaces, c) := after.run (· = ' ')
      if c.head.any isBreak then
        let (first, c) := c.lineEnd
        if c.atSeparator then ⟨text, c, true⟩
        else
          let (breaks, separated, c) := plainBreaks c.rest.length c
          let p : Plain := ⟨text, c, true⟩
          if separated ∨ c.head = some '#' ∨ (!inFlow ∧ c.column < margin) then p
          else plainText inFlow margin fuel p (folded first breaks)
      else
        let p : Plain := ⟨text, c, false⟩
        if spaces.isEmpty ∨ c.head = some '#' then p else plainText inFlow margin fuel p spaces

def plain (inFlow : Bool) (margin : Nat) (c : Cursor) : Plain :=
  plainText inFlow margin (c.rest.length + 1) ⟨[], c, false⟩ []

/-! ## Blocks of text -/

/-- What becomes of the line ends at the end of a block. -/
inductive Chomping where
  | one
  | none
  | all
deriving Repr, DecidableEq

def chomping? : Option Char → Option Chomping
  | some '+' => some .all
  | some '-' => some .none
  | _ => Option.none

/-- A digit for how far a block is moved in. Zero is not allowed. -/
def increment? (c : Option Char) : Except Fault (Option Nat) :=
  match c with
  | some c =>
    if '0' ≤ c ∧ c ≤ '9' then
      if c = '0' then .error .malformed else .ok (some (c.toNat - 48))
    else .ok none
  | none => .ok none

/-- What stands after the character that opens a block: chomping and indentation, in either order. -/
def blockHeader (c : Cursor) : Except Fault (Chomping × Option Nat × Cursor) := do
  let (chomping, increment, c) ← match chomping? c.head with
    | some chomping => do
      let c := c.next
      let increment ← increment? c.head
      pure (chomping, increment, if increment.isSome then c.next else c)
    | none => do
      match ← increment? c.head with
      | none => pure (Chomping.one, none, c)
      | some n =>
        let c := c.next
        match chomping? c.head with
        | some chomping => pure (chomping, some n, c.next)
        | none => pure (Chomping.one, some n, c)
  unless c.head = some ' ' ∨ atLineEnd c.head do throw .malformed
  return (chomping, increment, ← c.restOfLine)

/-- Empty lines before a block, and how far the furthest blank on the way is to the right. -/
def blockStart : Nat → Nat → Cursor → List Char × Nat × Cursor
  | 0, far, c => ([], far, c)
  | fuel + 1, far, c =>
    match c.head with
    | some ' ' => blockStart fuel (max far c.next.column) c.next
    | some x =>
      if isBreak x then
        let (b, c) := c.lineEnd
        let (more, far, c) := blockStart fuel far c
        (b ++ more, far, c)
      else ([], far, c)
    | none => ([], far, c)

def blockBreaks (indent : Nat) : Nat → Cursor → List Char × Cursor
  | 0, c => ([], c)
  | fuel + 1, c =>
    let c := c.skipTo indent
    if c.head.any isBreak then
      let (b, c) := c.lineEnd
      let (more, c) := blockBreaks indent fuel c
      (b ++ more, c)
    else ([], c)

def isBlank (c : Option Char) : Bool := c = some ' ' || c = some '\t'

/-- The lines of a block; `breaks` are the empty lines before the next one. The fuel bounds the number of lines. -/
def blockLines (fold : Bool) (chomping : Chomping) (indent : Nat) :
    Nat → List Char → List Char → List Char → Cursor → List Char × Cursor
  | 0, out, _, _, c => (out, c)
  | fuel + 1, out, ending, breaks, c =>
    if c.column = indent ∧ c.rest ≠ [] then
      let startsFull := !isBlank c.head
      let (s, c) := c.run fun x => !isBreak x
      let out := out ++ breaks ++ s
      let (ending, c) := c.lineEnd
      let (breaks, c) := blockBreaks indent c.rest.length c
      let joins := c.column = indent ∧ c.rest ≠ []
      let between :=
        if !joins then []
        else if fold ∧ ending = ['\n'] ∧ startsFull ∧ !isBlank c.head then (if breaks.isEmpty then [' '] else [])
        else ending
      blockLines fold chomping indent fuel (out ++ between) ending breaks c
    else
      (out ++ (if chomping = .none then [] else ending) ++ (if chomping = .all then breaks else []), c)

/-- A block of text from the character that opens it. It lies further right than what it belongs to, at `margin` at
least. -/
def block (fold : Bool) (margin : Nat) (c : Cursor) : Scanned := do
  let (chomping, increment, c) ← blockHeader c.next
  let margin := max margin 1
  let (breaks, indent, c) := match increment with
    | some n =>
      let indent := margin + n - 1
      let (breaks, c) := blockBreaks indent (c.rest.length + 1) c
      (breaks, indent, c)
    | none =>
      let (breaks, far, c) := blockStart (c.rest.length + 1) 0 c
      (breaks, max margin far, c)
  return blockLines fold chomping indent (c.rest.length + 1) [] [] breaks c

end PageSkins.Yaml
