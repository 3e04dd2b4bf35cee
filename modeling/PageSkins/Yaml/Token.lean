import PageSkins.Text.Utf8
import PageSkins.Yaml.Scalar

/-!
# The tokens of a YAML text

Where a text is moved in further a block begins, and where it is moved out again blocks end.
That something is a key shows only at the colon after it, so every place where a key may
begin is kept until the colon comes or can no longer come.
-/

namespace PageSkins.Yaml

inductive Token where
  /-- A version, by its first number. -/
  | version (major : Nat)
  /-- What a handle in front of tags stands for. -/
  | handle (name start : List Char)
  | otherDirective
  | documentStart
  | documentEnd
  | blockSequence
  | blockMapping
  | blockEnd
  | flowSequence
  | flowSequenceEnd
  | flowMapping
  | flowMappingEnd
  | item
  | comma
  | key
  | value
  | alias (name : List Char)
  | anchor (name : List Char)
  | tag (handle : Option (List Char)) (name : List Char)
  | scalar (isPlain : Bool) (text : List Char)
deriving Repr, DecidableEq

/-! ## Names, tags and directives -/

def name (c : Cursor) : Scanned :=
  let (s, c) := c.run isNameChar
  if s.isEmpty then .error .malformed else .ok (s, c)

def anchorName (c : Cursor) : Scanned := do
  let (s, c) ← name c
  if atGap c.head || c.head.any "?:,]\x7d%@\x60".toList.contains then return (s, c) else throw .malformed

def isTagChar (c : Char) : Bool := isNameChar c || ";/?:@&=+$,_.!~*'()[]%".toList.contains c

/-- Bytes written as percent signs and two digits each. The fuel bounds their number. -/
def percentBytes : Nat → List UInt8 → Cursor → Except Fault (List UInt8 × Cursor)
  | 0, out, c => .ok (out.reverse, c)
  | fuel + 1, out, c =>
    match c.rest with
    | '%' :: rest =>
      match hexNumber? 2 rest with
      | some n => percentBytes fuel (n.toUInt8 :: out) (c.skip 3)
      | none => .error .malformed
    | _ => .ok (out.reverse, c)

/-- A tag without its handle. The fuel bounds the number of pieces. -/
def tagName : Nat → List Char → Cursor → Scanned
  | 0, _, _ => .error .malformed
  | fuel + 1, out, c =>
    let (s, c) := c.run fun x => isTagChar x && x != '%'
    let out := out ++ s
    if c.head = some '%' then do
      let (bytes, c) ← percentBytes c.rest.length [] c
      match Text.decodeUtf8? bytes with
      | some s => tagName fuel (out ++ s) c
      | none => throw .malformed
    else if out.isEmpty then .error .malformed else .ok (out, c)

def tagHandle (c : Cursor) : Scanned :=
  match c.rest with
  | '!' :: ' ' :: _ => .ok (['!'], c.next)
  | '!' :: _ =>
    let (s, after) := c.next.run isNameChar
    if after.head = some '!' then .ok ('!' :: s ++ ['!'], after.next) else .error .malformed
  | _ => .error .malformed

/-- A blank or a line end has to follow, or the end of the text. -/
def endsLine (c : Cursor) : Bool := c.head = some ' ' || atLineEnd c.head

def tag (c : Cursor) : Except Fault (Token × Cursor) := do
  let (token, c) ← match c.rest with
    | '!' :: '<' :: rest => do
      let (s, c) ← tagName rest.length [] (c.skip 2)
      if c.head = some '>' then pure (Token.tag none s, c.next) else throw .malformed
    | '!' :: rest =>
      if atGap rest.head? then pure (Token.tag none ['!'], c.next)
      else
        let word := rest.takeWhile fun x => !(x = ' ' || isBreak x)
        do
          let (h, c) ← if word.contains '!' then tagHandle c else pure (['!'], c.next)
          let (s, c) ← tagName (c.rest.length + 1) [] c
          pure (Token.tag (some h) s, c)
    | _ => throw .malformed
  if endsLine c then return (token, c) else throw .malformed

def digits (c : Cursor) : Except Fault (Nat × Cursor) :=
  let (s, c) := c.run fun x => '0' ≤ x && x ≤ '9'
  if s.isEmpty then .error .malformed else .ok (Decimal.ofDigits 10 (s.map fun x => x.toNat - 48), c)

def directive (c : Cursor) : Except Fault (Token × Cursor) := do
  let (word, c) ← name c.next
  unless endsLine c do throw .malformed
  let (token, c) ←
    if word = "YAML".toList then do
      let (major, c) ← digits c.skipSpaces
      unless c.head = some '.' do throw .malformed
      let (_, c) ← digits c.next
      unless endsLine c do throw .malformed
      pure (Token.version major, c)
    else if word = "TAG".toList then do
      let (h, c) ← tagHandle c.skipSpaces
      unless c.head = some ' ' do throw .malformed
      let (s, c) ← tagName (c.rest.length + 1) [] c.skipSpaces
      unless endsLine c do throw .malformed
      pure (Token.handle h s, c)
    else pure (Token.otherDirective, (c.run fun x => !isBreak x).2)
  return (token, ← c.restOfLine)

/-! ## The layout -/

structure KeyPlace where
  /-- How many tokens come before it. -/
  number : Nat
  /-- Whether nothing but a key can stand here. -/
  required : Bool
  place : Cursor

structure Lexer where
  place : Cursor
  /-- The tokens so far, last one first. -/
  tokens : List Token := []
  count : Nat := 0
  /-- The columns of the blocks around, innermost first. -/
  indents : List Nat := []
  /-- How many brackets are open. -/
  depth : Nat := 0
  keyAllowed : Bool := true
  /-- Where a key may have begun, by the number of brackets that are open there. -/
  keys : List (Nat × KeyPlace) := []

namespace Lexer

def inFlow (l : Lexer) : Bool := l.depth != 0

/-- The column that the content of the innermost block has to be at, at least. -/
def margin (l : Lexer) : Nat := l.indents.head?.elim 0 (· + 1)

def push (l : Lexer) (t : Token) : Lexer := { l with tokens := t :: l.tokens, count := l.count + 1 }

/-- Puts a token after the first `number` ones. -/
def insert (l : Lexer) (number : Nat) (t : Token) : Lexer :=
  let later := l.count - number
  { l with tokens := l.tokens.take later ++ t :: l.tokens.drop later, count := l.count + 1 }

/-- The token for a character, and the place after it. -/
def mark (l : Lexer) (t : Token) : Lexer := { l.push t with place := l.place.next }

/-- Gives up key places on other lines and those too far back. -/
def dropStaleKeys (l : Lexer) : Except Fault Lexer :=
  let isStale (k : KeyPlace) : Bool := k.place.line != l.place.line || l.place.index > k.place.index + 1024
  if l.keys.any fun (_, k) => isStale k && k.required then .error .malformed
  else .ok { l with keys := l.keys.filter fun (_, k) => !isStale k }

/-- Gives up the key place between the present brackets. -/
def dropKey (l : Lexer) : Except Fault Lexer :=
  match l.keys.lookup l.depth with
  | some k => if k.required then .error .malformed else .ok { l with keys := l.keys.filter (·.1 != l.depth) }
  | none => .ok l

/-- Notes that a key may begin here. -/
def noteKey (l : Lexer) : Except Fault Lexer := do
  if l.keyAllowed then
    let required := !l.inFlow && l.indents.head? = some l.place.column
    let l ← l.dropKey
    return { l with keys := (l.depth, ⟨l.count, required, l.place⟩) :: l.keys }
  else return l

/-- Ends the blocks that are further right than a column. -/
def closeTo (column : Nat) : List Nat → Lexer → Lexer
  | i :: indents, l => if i > column then closeTo column indents { l.push .blockEnd with indents } else l
  | [], l => l

def unwind (l : Lexer) : Lexer := if l.inFlow then l else closeTo l.place.column l.indents l

def unwindAll (l : Lexer) : Lexer :=
  if l.inFlow then l else l.indents.foldl (fun l _ => { l.push .blockEnd with indents := l.indents.tail }) l

def opens (l : Lexer) (column : Nat) : Bool := l.indents.head?.all (· < column)

/-- Begins a block here, if this is further right than the one around. -/
def openBlock (l : Lexer) (t : Token) : Lexer :=
  if l.opens l.place.column then { l.push t with indents := l.place.column :: l.indents } else l

/-- Over blanks, comments and line ends. The fuel bounds the number of lines. -/
def skipBetween : Nat → Lexer → Lexer
  | 0, l => l
  | fuel + 1, l =>
    let c := l.place.skipSpaces
    let c := if c.head = some '#' then (c.run fun x => !isBreak x).2 else c
    if c.head.any isBreak then
      skipBetween fuel { l with place := c.lineEnd.2, keyAllowed := l.keyAllowed || !l.inFlow }
    else { l with place := c }

def separator (l : Lexer) (t : Token) : Except Fault Lexer := do
  let l ← l.unwindAll.dropKey
  return { l.push t with keyAllowed := false, place := l.place.skip 3 }

def openFlow (l : Lexer) (t : Token) : Except Fault Lexer := do
  let l ← l.noteKey
  return { l.mark t with depth := l.depth + 1, keyAllowed := true }

def closeFlow (l : Lexer) (t : Token) : Except Fault Lexer := do
  let l ← l.dropKey
  return { l.mark t with depth := l.depth - 1, keyAllowed := false }

def item (l : Lexer) : Except Fault Lexer := do
  if !l.inFlow ∧ !l.keyAllowed then throw .malformed
  let l := if l.inFlow then l else l.openBlock .blockSequence
  let l ← { l with keyAllowed := true }.dropKey
  return l.mark .item

def key (l : Lexer) : Except Fault Lexer := do
  if !l.inFlow ∧ !l.keyAllowed then throw .malformed
  let l := if l.inFlow then l else l.openBlock .blockMapping
  let l ← { l with keyAllowed := !l.inFlow }.dropKey
  return l.mark .key

/-- A colon. What may have been a key before it was one. -/
def value (l : Lexer) : Except Fault Lexer :=
  match l.keys.lookup l.depth with
  | some k =>
    let l := { l with keys := l.keys.filter (·.1 != l.depth), keyAllowed := false }
    let l := l.insert k.number .key
    let column := k.place.column
    let l := if !l.inFlow ∧ l.opens column then
      { l.insert k.number .blockMapping with indents := column :: l.indents } else l
    .ok (l.mark .value)
  | none => do
    if !l.inFlow ∧ !l.keyAllowed then throw .malformed
    let l := if l.inFlow then l else l.openBlock .blockMapping
    let l ← { l with keyAllowed := !l.inFlow }.dropKey
    return l.mark .value

def word (l : Lexer) (t : Token) (place : Cursor) : Except Fault Lexer := do
  let l ← l.noteKey
  return { l.push t with keyAllowed := false, place }

/-- Whether a plain scalar begins with a character, by the one after it. -/
def startsPlain (inFlow : Bool) (c : Char) (after : Option Char) : Bool :=
  if atGap (some c) then false
  else if c = '-' then !atGap after
  else if c = '?' ∨ c = ':' then !inFlow && !atGap after
  else !",[]\x7b\x7d#&*!|>'\"%@\x60".toList.contains c

/-- The next token; `none` at the end of the text. -/
def next (l : Lexer) : Except Fault (Option Lexer) := do
  let l ← (l.skipBetween (l.place.rest.length + 1)).dropStaleKeys
  let l := l.unwind
  let c := l.place
  let full (x : Except Fault Lexer) : Except Fault (Option Lexer) := some <$> x
  match c.rest with
  | [] => do
    let _ ← l.dropKey
    return none
  | x :: rest =>
    let apart := atGap rest.head?
    if x = '%' ∧ c.column = 0 then full do
      let l ← l.unwindAll.dropKey
      let (t, place) ← directive c
      return { l.push t with keyAllowed := false, place }
    else if c.column = 0 ∧ c.atMarker '-' then full (l.separator .documentStart)
    else if c.column = 0 ∧ c.atMarker '.' then full (l.separator .documentEnd)
    else if x = '[' then full (l.openFlow .flowSequence)
    else if x = '\x7b' then full (l.openFlow .flowMapping)
    else if x = ']' then full (l.closeFlow .flowSequenceEnd)
    else if x = '\x7d' then full (l.closeFlow .flowMappingEnd)
    else if x = ',' then full do
      let l ← { l with keyAllowed := true }.dropKey
      return l.mark .comma
    else if x = '-' ∧ apart then full l.item
    else if x = '?' ∧ (l.inFlow || apart) then full l.key
    else if x = ':' ∧ (l.inFlow || apart) then full l.value
    else if x = '*' then full do
      let (s, place) ← anchorName c.next
      l.word (.alias s) place
    else if x = '&' then full do
      let (s, place) ← anchorName c.next
      l.word (.anchor s) place
    else if x = '!' then full do
      let (t, place) ← tag c
      l.word t place
    else if (x = '|' ∨ x = '>') ∧ !l.inFlow then full do
      let l ← { l with keyAllowed := true }.dropKey
      let (s, place) ← block (x = '>') l.margin c
      return { l.push (.scalar false s) with place }
    else if x = '\'' ∨ x = '"' then full do
      let (s, place) ← quoted (x = '"') c
      l.word (.scalar false s) place
    else if startsPlain l.inFlow x rest.head? then full do
      let p := plain l.inFlow l.margin c
      let l ← l.word (.scalar true p.text) p.place
      return { l with keyAllowed := p.crossed }
    else throw .malformed

/-- All tokens. The fuel bounds their number. -/
def run : Nat → Lexer → Except Fault (List Token)
  | 0, _ => .error .malformed
  | fuel + 1, l => do
    match ← l.next with
    | some l => run fuel l
    | none => return l.unwindAll.tokens.reverse

end Lexer

/-- The tokens of a text. A byte order mark at its start does not count. -/
def tokens (s : List Char) : Except Fault (List Token) :=
  if s.all isAllowed then
    let start : Cursor := ⟨s, 0, 0, 0⟩
    Lexer.run (s.length + 2) { place := if s.head? = some '\ufeff' then start.next else start }
  else .error .malformed

end PageSkins.Yaml
