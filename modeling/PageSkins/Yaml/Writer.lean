import PageSkins.Value.Literal
import PageSkins.Yaml.Plain

/-!
# Writing YAML

An item or a pair goes to a line, each level two columns further right. Text is plain where
it reads back as text, and in quotes otherwise; long lines are folded at blanks.
-/

namespace PageSkins.Yaml

open PageSkins.Decimal

/-- A column after which a line is folded at the next blank. -/
def maxColumn : Nat := 80

structure Sheet where
  /-- What is written, last character first. -/
  out : List Char := []
  column : Nat := 0
  /-- Whether no blank is needed before the next item. -/
  spaced : Bool := true
  /-- Whether nothing but dashes, question marks and colons stands on the line. -/
  atStart : Bool := true
  /-- Whether the document ends with plain text, so that its end has to be marked. -/
  isOpen : Bool := false

namespace Sheet

def write (t : List Char) (sh : Sheet) : Sheet := { sh with out := t.reverse ++ sh.out, column := sh.column + t.length }

def lineEnd (c : Char) (sh : Sheet) : Sheet := { sh with out := c :: sh.out, column := 0, spaced := true, atStart := true }

/-- Goes to a column, on a new line unless this one is still empty up to there. -/
def moveTo (indent : Nat) (sh : Sheet) : Sheet :=
  let sh := if !sh.atStart ∨ sh.column > indent ∨ (sh.column = indent ∧ !sh.spaced) then sh.lineEnd '\n' else sh
  if sh.column < indent then { sh.write (List.replicate (indent - sh.column) ' ') with spaced := true } else sh

/-- Writes a mark, after a blank if one is needed. -/
def mark (t : List Char) (needsSpace : Bool) (keepsStart : Bool) (sh : Sheet) : Sheet :=
  { sh.write (if sh.spaced ∨ !needsSpace then t else ' ' :: t) with
    spaced := false, atStart := sh.atStart && keepsStart, isOpen := false }

end Sheet

/-! ## The three ways to write a scalar -/

inductive ScalarStyle where
  | plain
  | single
  | double
deriving Repr, DecidableEq

def isInnerBreak (c : Char) : Bool := c = '\n' || c = '\x85' || c = '\u2028' || c = '\u2029'

def isPlainChar (c : Char) : Bool :=
  let n := c.toNat
  c = '\n' || (0x20 ≤ n && n ≤ 0x7E) ||
    ((n = 0x85 || (0xA0 ≤ n && n ≤ 0xFFFD) || (0x10000 ≤ n && n < 0x10FFFF)) && c != '\ufeff')

/-- Whether a text begins like something that is no plain text. -/
def startsMarked (s : List Char) : Bool :=
  "---".toList.isPrefixOf s || "...".toList.isPrefixOf s ||
    match s with
    | c :: rest =>
      "#,[]\x7b\x7d&*!|>'\"%@\x60".toList.contains c || ((c = '?' || c = ':' || c = '-') && atGap rest.head?)
    | [] => false

/-- Whether a text has, after its start, a colon at the end of a word or a comment. -/
def hasInnerMark : List Char → Bool
  | a :: b :: rest =>
    (b = ':' && atGap rest.head?) || (b = '#' && atGap (some a)) || hasInnerMark (b :: rest)
  | _ => false

/-- Whether two characters with properties follow each other. -/
def hasPair (p q : Char → Bool) : List Char → Bool
  | a :: b :: rest => (p a && q b) || hasPair p q (b :: rest)
  | _ => false

def isMultiline (s : List Char) : Bool := s.any isInnerBreak

def isEdge (c : Char) : Bool := c = ' ' || isInnerBreak c

/-- Whether a text may be written plain, as far as its characters are concerned. -/
def allowsPlain (s : List Char) : Bool :=
  s.isEmpty ||
    (s.all isPlainChar && !isMultiline s && !s.head?.any isEdge && !s.getLast?.any isEdge && !startsMarked s &&
      !hasInnerMark s)

def allowsSingle (s : List Char) : Bool :=
  s.all isPlainChar && !hasPair isInnerBreak (· = ' ') s && !hasPair (· = ' ') isInnerBreak s

/-- How a text is written. In a key no line may end. -/
def styleOf (isKey readsBack : Bool) (s : List Char) : ScalarStyle :=
  if readsBack && !(isKey && (s.isEmpty || isMultiline s)) && allowsPlain s then .plain
  else if allowsSingle s && !(isKey && isMultiline s) then .single
  else .double

/-- Writes words and the blanks between them; a single blank far to the right may become a line end. The fuel bounds
their number. -/
def writePlain (folds : Bool) (indent : Nat) : Nat → List Char → Sheet → Sheet
  | 0, _, sh => sh
  | _ + 1, [], sh => sh
  | fuel + 1, ' ' :: s, sh =>
    let blanks := ' ' :: s.takeWhile (· = ' ')
    let sh := if blanks.length = 1 ∧ sh.column > maxColumn ∧ folds then
      { sh.moveTo indent with spaced := false, atStart := false } else sh.write blanks
    writePlain folds indent fuel (s.dropWhile (· = ' ')) sh
  | fuel + 1, s, sh => writePlain folds indent fuel (s.dropWhile (· != ' ')) (sh.write (s.takeWhile (· != ' ')))

def writeSingle (folds : Bool) (indent : Nat) : Nat → Bool → List Char → Sheet → Sheet
  | 0, _, _, sh => sh
  | _ + 1, _, [], sh => sh
  | fuel + 1, _, '\'' :: s, sh => writeSingle folds indent fuel false s (sh.write ['\'', '\''])
  | fuel + 1, isFirst, ' ' :: s, sh =>
    let blanks := ' ' :: s.takeWhile (· = ' ')
    let rest := s.dropWhile (· = ' ')
    let sh := if blanks.length = 1 ∧ sh.column > maxColumn ∧ folds ∧ !isFirst ∧ rest ≠ [] then sh.moveTo indent
      else sh.write blanks
    writeSingle folds indent fuel false rest sh
  | fuel + 1, _, c :: s, sh =>
    if isInnerBreak c then
      let breaks := c :: s.takeWhile isInnerBreak
      let sh := if c = '\n' then sh.lineEnd '\n' else sh
      let sh := breaks.foldl (fun sh b => sh.lineEnd b) sh
      writeSingle folds indent fuel false (s.dropWhile isInnerBreak) (sh.moveTo indent)
    else
      let isWord (x : Char) : Bool := !(x = '\'' || isEdge x)
      writeSingle folds indent fuel false (s.dropWhile isWord) (sh.write (c :: s.takeWhile isWord))

def shortEscapes : List (Char × Char) := [
  ('\x00', '0'), ('\x07', 'a'), ('\x08', 'b'), ('\t', 't'), ('\n', 'n'), ('\x0b', 'v'), ('\x0c', 'f'), ('\r', 'r'),
  ('\x1b', 'e'), ('"', '"'), ('\\', '\\'), ('\x85', 'N'), ('\xa0', '_'), ('\u2028', 'L'), ('\u2029', 'P')]

/-- Characters that stand for themselves between double quotes. -/
def isDoubleChar (c : Char) : Bool :=
  let n := c.toNat
  ((0x20 ≤ n && n ≤ 0x7E) || (0xA0 ≤ n && n ≤ 0xFFFD)) &&
    !(c = '"' || c = '\\' || c = '\u2028' || c = '\u2029' || c = '\ufeff')

def capitalHex (width n : Nat) : List Char := (hexDigits width n).map Char.toUpper

def escapeOf (c : Char) : List Char :=
  match shortEscapes.lookup c with
  | some e => ['\\', e]
  | none =>
    let n := c.toNat
    if n ≤ 0xFF then '\\' :: 'x' :: capitalHex 2 n
    else if n ≤ 0xFFFF then '\\' :: 'u' :: capitalHex 4 n
    else '\\' :: 'U' :: capitalHex 8 n

/-- Ends a line between double quotes with a backslash. A blank that the next line starts with needs one too. -/
def foldDouble (indent : Nat) (next : Option Char) (sh : Sheet) : Sheet :=
  let sh := { (sh.write ['\\']).moveTo indent with spaced := false, atStart := false }
  if next = some ' ' then sh.write ['\\'] else sh

/-- Writes text between double quotes; `pending` is what has been passed over but not written, last character
first. -/
def writeDouble (folds : Bool) (indent : Nat) (isFirst : Bool) (pending : List Char) : List Char → Sheet → Sheet
  | [], sh => sh.write pending.reverse
  | c :: rest, sh =>
    let mayFold := folds && !isFirst && !rest.isEmpty
    if isDoubleChar c then
      if mayFold ∧ (c = ' ' ∨ pending = []) ∧ sh.column + pending.length > maxColumn then
        writeDouble folds indent false [c] rest (foldDouble indent (some c) (sh.write pending.reverse))
      else writeDouble folds indent false (c :: pending) rest sh
    else
      let sh := (sh.write pending.reverse).write (escapeOf c)
      let sh := if mayFold ∧ sh.column > maxColumn + 1 then foldDouble indent rest.head? sh else sh
      writeDouble folds indent false [] rest sh

inductive NodePlace where
  | root
  | item
  /-- A key that is told on the line of its value. -/
  | shortKey
  /-- A value of a pair, or a key with a line of its own. -/
  | mapped
deriving DecidableEq

/-- Writes a scalar. With `readsBack`, the plain text stands for what is meant. -/
def writeScalar (place : NodePlace) (indent : Option Nat) (readsBack : Bool) (s : List Char) (sh : Sheet) : Sheet :=
  let isKey := place = .shortKey
  let indent := indent.elim 2 (· + 2)
  match styleOf isKey readsBack s with
  | .plain =>
    let sh := { sh with isOpen := sh.isOpen || place = .root }
    if s.isEmpty then sh
    else
      let sh := if sh.spaced then sh else sh.write [' ']
      writePlain (!isKey) indent s.length s { sh with spaced := false, atStart := false }
  | .single => (writeSingle (!isKey) indent s.length true s (sh.mark ['\''] true false)).mark ['\''] false false
  | .double => (writeDouble (!isKey) indent true [] s (sh.mark ['"'] true false)).mark ['"'] false false

/-- The text of a double. It has a point or is a word. -/
def floatText (x : Float) : List Char :=
  if x.isNaN then ".nan".toList
  else if x.isInf then (if isNegative x then "-.inf".toList else ".inf".toList)
  else
    let s := Decimal.floatText x
    if s.contains '.' then s
    else s.takeWhile (· != 'e') ++ (if s.contains 'e' then ".0".toList else []) ++ s.dropWhile (· != 'e')

/-- The text of a scalar, the tag that it has, and whether plain text stands for it. -/
def scalarText : Value → List Char × String × Bool
  | .null => ("null".toList, "!!null", true)
  | .bool b => ((if b then "true" else "false").toList, "!!bool", true)
  | .int n => (intText n, "!!int", true)
  | .float x => (floatText x, "!!float", true)
  | .date d => (d.iso, "!!timestamp", true)
  | .moment t => (Value.momentText t, "!!timestamp", true)
  | .text s => (s.toList, "!!str", lookOf s.toList = .text)
  | .list _ | .map _ | .keyed _ => ([], "", true)

/-- Whether a key is told on the line of its value: it is short and ends no line. -/
def isShortKey (k : Value) : Bool :=
  let (s, tag, _) := scalarText k
  tag.length + s.length < 128 && !s.isEmpty && !isMultiline s

def writeKey (indent : Nat) (k : Value) (sh : Sheet) : Sheet :=
  let (s, _, readsBack) := scalarText k
  let sh := sh.moveTo indent
  if isShortKey k then (writeScalar .shortKey (some indent) readsBack s sh).mark [':'] false false
  else ((writeScalar .mapped (some indent) readsBack s (sh.mark ['?'] true true)).moveTo indent).mark [':'] true true

mutual

/-- Writes a node at a level of indentation. A sequence that is the value of a pair is not moved in. -/
def writeNode (place : NodePlace) (indent : Option Nat) : Value → Sheet → Sheet
  | .list [], sh => (({ sh.mark ['['] true false with spaced := true }).mark [']'] false false)
  | .map [], sh | .keyed [], sh => (({ sh.mark ['\x7b'] true false with spaced := true }).mark ['\x7d'] false false)
  | .list items, sh =>
    let level := match indent with
      | none => 0
      | some n => if place = .mapped ∧ !sh.atStart then n else n + 2
    writeItems level items sh
  | .map entries, sh => writeFields (indent.elim 0 (· + 2)) entries sh
  | .keyed entries, sh => writeEntries (indent.elim 0 (· + 2)) entries sh
  | v, sh =>
    let (s, _, readsBack) := scalarText v
    writeScalar place indent readsBack s sh

def writeItems (indent : Nat) : List Value → Sheet → Sheet
  | [], sh => sh
  | v :: rest, sh => writeItems indent rest (writeNode .item (some indent) v ((sh.moveTo indent).mark ['-'] true true))

def writeFields (indent : Nat) : List (String × Value) → Sheet → Sheet
  | [], sh => sh
  | (k, v) :: rest, sh => writeFields indent rest (writeNode .mapped (some indent) v (writeKey indent (.text k) sh))

def writeEntries (indent : Nat) : List (Value × Value) → Sheet → Sheet
  | [], sh => sh
  | (k, v) :: rest, sh => writeEntries indent rest (writeNode .mapped (some indent) v (writeKey indent k sh))

end

def write (v : Value) : List Char :=
  let sh := (writeNode .root none v {}).moveTo 0
  let sh := if sh.isOpen then (sh.mark "...".toList true false).moveTo 0 else sh
  sh.out.reverse

end PageSkins.Yaml
