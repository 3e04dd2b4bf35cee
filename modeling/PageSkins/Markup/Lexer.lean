import PageSkins.Text.Blank

/-!
# Markup cut into lexemes

Character references are left as they stand: an ampersand is a character like any other.
-/

namespace PageSkins.Markup

/-- An attribute as it is written, its name in small letters. -/
structure Attribute where
  name : String
  value : List Char
deriving Repr, DecidableEq, Inhabited

structure Tag where
  closing : Bool
  name : String
  attributes : List Attribute := []
  selfClosing : Bool := false
deriving Repr, DecidableEq, Inhabited

inductive Lexeme where
  /-- White space only. -/
  | space (s : List Char)
  | chars (s : List Char)
  /-- A lone zero character. -/
  | zero
  /-- A tag. `badName` tells that a quote or `<` in an attribute name was the last fault before its end. -/
  | tag (t : Tag) (badName : Bool)
  | comment
  /-- `</` with no letter after it, up to the next `>`: what stands between them, and all of it. -/
  | strayClosing (content : List Char) (written : List Char)
  | doctype
  /-- A fault that leaves nothing behind. -/
  | nothing
  /-- A tag that the end of the text cuts off, and whether it then counts as text. -/
  | cut (written : List Char) (isText : Bool)
deriving Repr, DecidableEq

def isSpace (c : Char) : Bool := c = ' ' || c = '\t' || c = '\n' || c = '\x0c' || c = '\r'

def isLetter (c : Char) : Bool := c.isAlpha

def visible (c : Char) : Char := if c = '\x00' then '\ufffd' else c

/-- The kinds of fault inside a tag, as far as anything depends on them. -/
inductive Fault where
  | badName
  | other
deriving Repr, DecidableEq

/-- Where inside a tag the lexer stands. -/
inductive Place where
  | tagName
  | beforeName
  | name
  | afterName
  | beforeValue
  | doubleQuoted
  | singleQuoted
  | unquoted
  | afterValue
  | solidus
deriving Repr, DecidableEq

/-- A tag in the making. Names and values are held last character first, attributes last first. -/
structure Draft where
  closing : Bool
  name : List Char
  attributes : List (List Char × List Char) := []
  fault : Option Fault := none

namespace Draft

def note (d : Draft) (f : Fault) : Draft := { d with fault := some f }

def noteZero (d : Draft) (c : Char) : Draft := if c = '\x00' then d.note .other else d

def addAttribute (d : Draft) (c : Char) : Draft :=
  { d with attributes := ([visible c], []) :: d.attributes }

def pushName (d : Draft) (c : Char) : Draft :=
  match d.attributes with
  | (n, v) :: rest => { d with attributes := (visible c :: n, v) :: rest }
  | [] => d

def pushValue (d : Draft) (c : Char) : Draft :=
  match d.attributes with
  | (n, v) :: rest => { d with attributes := (n, visible c :: v) :: rest }
  | [] => d

/-- The name of the last attribute is complete: it is put in small letters, and a second attribute of one
name is a fault. -/
def endName (d : Draft) : Draft :=
  match d.attributes with
  | (n, v) :: rest =>
    let n' := n.map Char.toLower
    let d := { d with attributes := (n', v) :: rest }
    if rest.any (·.1 == n') then d.note .other else d
  | [] => d

/-- The attributes in order; of several with one name the first counts. -/
def distinct : List Attribute → List String → List Attribute
  | [], _ => []
  | a :: rest, seen => if seen.contains a.name then distinct rest seen else a :: distinct rest (a.name :: seen)

def finish (d : Draft) (selfClosing : Bool) : Lexeme :=
  let attributes := d.attributes.reverse.map fun (n, v) =>
    (⟨String.ofList n.reverse, v.reverse⟩ : Attribute)
  let fault := if d.closing && !attributes.isEmpty then some .other else d.fault
  .tag ⟨d.closing, String.ofList (d.name.reverse.map Char.toLower), distinct attributes [], selfClosing⟩
    (fault == some .badName)

end Draft

/-- What one character does inside a tag. -/
inductive Move where
  | go (place : Place) (d : Draft)
  | done (l : Lexeme)

def beforeName (d : Draft) (c : Char) : Move :=
  if isSpace c then .go .beforeName d
  else if c = '>' then .done (d.finish false)
  else if c = '/' then .go .solidus d
  else if c = '\'' ∨ c = '"' ∨ c = '=' ∨ c = '<' then .go .name ((d.note .badName).addAttribute c)
  else .go .name ((d.noteZero c).addAttribute c)

def inName (d : Draft) (c : Char) : Move :=
  if c = '=' then .go .beforeValue d.endName
  else if c = '>' then .done (d.endName.finish false)
  else if isSpace c then .go .afterName d.endName
  else if c = '/' then .go .solidus d.endName
  else if c = '\'' ∨ c = '"' ∨ c = '<' then .go .name ((d.note .badName).pushName c)
  else .go .name ((d.noteZero c).pushName c)

def afterName (d : Draft) (c : Char) : Move :=
  if isSpace c then .go .afterName d
  else if c = '=' then .go .beforeValue d
  else if c = '>' then .done (d.finish false)
  else if c = '/' then .go .solidus d
  else if c = '\'' ∨ c = '"' ∨ c = '<' then .go .name ((d.note .other).addAttribute c)
  else .go .name ((d.noteZero c).addAttribute c)

def inUnquoted (d : Draft) (c : Char) : Move :=
  if isSpace c then .go .beforeName d
  else if c = '>' then .done (d.finish false)
  else if c = '"' ∨ c = '\'' ∨ c = '=' ∨ c = '<' ∨ c = '\x60' then .go .unquoted ((d.note .other).pushValue c)
  else .go .unquoted ((d.noteZero c).pushValue c)

def beforeValue (d : Draft) (c : Char) : Move :=
  if isSpace c then .go .beforeValue d
  else if c = '"' then .go .doubleQuoted d
  else if c = '\'' then .go .singleQuoted d
  else if c = '>' then .done ((d.note .other).finish false)
  else inUnquoted d c

def move (place : Place) (d : Draft) (c : Char) : Move :=
  match place with
  | .tagName =>
    if isSpace c then .go .beforeName d
    else if c = '>' then .done (d.finish false)
    else if c = '/' then .go .solidus d
    else .go .tagName { d.noteZero c with name := visible c :: d.name }
  | .beforeName => beforeName d c
  | .name => inName d c
  | .afterName => afterName d c
  | .beforeValue => beforeValue d c
  | .doubleQuoted => if c = '"' then .go .afterValue d else .go .doubleQuoted ((d.noteZero c).pushValue c)
  | .singleQuoted => if c = '\'' then .go .afterValue d else .go .singleQuoted ((d.noteZero c).pushValue c)
  | .unquoted => inUnquoted d c
  | .afterValue =>
    if isSpace c then .go .beforeName d
    else if c = '>' then .done (d.finish false)
    else if c = '/' then .go .solidus d
    else beforeName (d.note .other) c
  | .solidus => if c = '>' then .done (d.finish true) else beforeName (d.note .other) c

/-- Whether a tag that ends here with the text counts as text. -/
def Place.cutIsText : Place → Bool
  | .tagName | .name | .afterName | .unquoted => true
  | _ => false

/-- The rest of a tag; `none` for the lexeme if the text ends first, with the place where it did. -/
def scanTag (place : Place) (d : Draft) : List Char → (Lexeme ⊕ Place) × List Char
  | [] => (.inr place, [])
  | c :: s => match move place d c with
    | .go place' d' => scanTag place' d' s
    | .done l => (.inl l, s)

/-- What follows the end of a comment, where a comment has begun and some of it has been read. -/
def afterComment : List Char → List Char
  | [] => []
  | '-' :: '-' :: '>' :: s => s
  | '-' :: '-' :: '!' :: '>' :: s => s
  | _ :: s => afterComment s

/-- What follows a comment, after its opening and a dash. Zero characters change nothing there. -/
def afterCommentDash : List Char → List Char
  | '>' :: s => s
  | '\x00' :: s => afterCommentDash s
  | '-' :: s => afterComment ('-' :: '-' :: s)
  | s => afterComment s

def afterCommentOpening : List Char → List Char
  | '>' :: s => s
  | '\x00' :: s => afterCommentOpening s
  | '-' :: s => afterCommentDash s
  | s => afterComment s

def afterBracket (s : List Char) : List Char := (s.dropWhile (· != '>')).drop 1

/-- The text up to the end of a literal section, and what follows. -/
def splitLiteral : List Char → List Char × List Char
  | [] => ([], [])
  | ']' :: ']' :: '>' :: s => ([], s)
  | c :: s => let (inside, rest) := splitLiteral s; (c :: inside, rest)

def afterWord? : List Char → List Char → Option (List Char)
  | [], s => some s
  | w :: ws, c :: s => if c.toLower = w then afterWord? ws s else none
  | _ :: _, [] => none

/-- What stands after `<!`. Literal sections exist inside drawings only. -/
def scanDeclaration (literal : Bool) (s : List Char) : Lexeme × List Char :=
  match s with
  | '-' :: '-' :: r => (.comment, afterCommentOpening r)
  | _ =>
    match afterWord? "doctype".toList s with
    | some r => (.doctype, afterBracket r)
    | none =>
      match s with
      | '[' :: 'C' :: 'D' :: 'A' :: 'T' :: 'A' :: '[' :: r =>
        if literal then
          let (inside, rest) := splitLiteral r
          (if inside.isEmpty then .nothing else .chars (inside.map visible), rest)
        else (.comment, afterBracket s)
      | _ => (.comment, afterBracket s)

/-- A tag that begins with this letter. `mark` is what stands before the letter. -/
def scanFrom (mark : List Char) (closing : Bool) (c : Char) (s : List Char) : Lexeme × List Char :=
  match scanTag .tagName ⟨closing, [c], [], none⟩ s with
  | (.inl l, rest) => (l, rest)
  | (.inr place, rest) => (.cut (mark ++ c :: s) place.cutIsText, rest)

def scanMarkup (literal : Bool) (s : List Char) : Lexeme × List Char :=
  match s with
  | '!' :: r => scanDeclaration literal r
  | '/' :: [] => (.chars ['<', '/'], [])
  | '/' :: '>' :: r => (.nothing, r)
  | '/' :: c :: r =>
    if isLetter c then scanFrom ['<', '/'] true c r
    else
      let content := (c :: r).takeWhile (· != '>')
      let rest := (c :: r).dropWhile (· != '>')
      (.strayClosing (content.map visible) ('<' :: '/' :: content ++ rest.take 1), rest.drop 1)
  | '>' :: r => (.chars ['<', '>'], r)
  | '?' :: r => (.comment, afterBracket r)
  | c :: r => if isLetter c then scanFrom ['<'] false c r else (.chars ['<'], c :: r)
  | [] => (.chars ['<'], [])

/-- A character of plain text after the first. -/
def isPlain (c : Char) : Bool := c != '&' && c != '<' && c != '\x00'

def scan (literal : Bool) : List Char → Option (Lexeme × List Char)
  | [] => none
  | '<' :: s => some (scanMarkup literal s)
  | '&' :: s => some (.chars ['&'], s)
  | '\x00' :: s => some (.zero, s)
  | c :: s =>
    if isSpace c then some (.space (c :: s.takeWhile isSpace), s.dropWhile isSpace)
    else some (.chars (c :: s.takeWhile isPlain), s.dropWhile isPlain)

/-- The lexeme at the start of the content of an element that holds text only. `written` is the text since
the element began. -/
def scanText (element : String) (written : List Char) : List Char → Option (Lexeme × List Char)
  | [] => none
  | '&' :: s => some (.chars ['&'], s)
  | '\x00' :: s => some (.chars ['\ufffd'], s)
  | '<' :: '/' :: s =>
    let word := s.takeWhile isLetter
    let rest := s.dropWhile isLetter
    if word.map Char.toLower = element.toList then
      match rest with
      | '>' :: r => some (.tag ⟨true, element, [], false⟩ false, r)
      | c :: r =>
        if isSpace c ∨ c = '/' then
          match scanTag (if c = '/' then .solidus else .beforeName) ⟨true, word.reverse, [], none⟩ r with
          | (.inl l, r') => some (l, r')
          | (.inr place, r') => some (.cut (written ++ '<' :: '/' :: s) place.cutIsText, r')
        else some (.chars ('<' :: '/' :: word), rest)
      | [] => some (.chars ('<' :: '/' :: word), [])
    else some (.chars ('<' :: '/' :: word), rest)
  | '<' :: s => some (.chars ['<'], s)
  | c :: s =>
    if isSpace c then some (.space (c :: s.takeWhile isSpace), s.dropWhile isSpace)
    else some (.chars (c :: s.takeWhile isPlain), s.dropWhile isPlain)

end PageSkins.Markup
