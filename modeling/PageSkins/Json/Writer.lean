import PageSkins.Value.Literal

/-!
# Writing JSON

On one line, or with an entry to a line and two blanks to a level.
-/

namespace PageSkins.Json

open PageSkins.Decimal

def unitEscape (n : Nat) : List Char := '\\' :: 'u' :: hexDigits 4 n

/-- A character outside ASCII as one escape, or two for a pair of surrogates. -/
def wideEscape (c : Char) : List Char :=
  let n := c.toNat
  if n < 0x10000 then unitEscape n
  else unitEscape (0xD800 + (n - 0x10000) / 0x400) ++ unitEscape (0xDC00 + (n - 0x10000) % 0x400)

/-- A character inside quotes. With `ascii` only the printable characters of ASCII stand for themselves. -/
def quotedChar (ascii : Bool) (c : Char) : List Char :=
  if c = '"' then ['\\', '"']
  else if c = '\\' then ['\\', '\\']
  else if c = '\n' then ['\\', 'n']
  else if c = '\r' then ['\\', 'r']
  else if c = '\t' then ['\\', 't']
  else if c = '\x08' then ['\\', 'b']
  else if c = '\x0c' then ['\\', 'f']
  else if c.toNat < 0x20 then unitEscape c.toNat
  else if ascii && 0x7F ≤ c.toNat then wideEscape c
  else [c]

def quoted (ascii : Bool) (s : List Char) : List Char :=
  '"' :: s.flatMap (quotedChar ascii) ++ ['"']

/-- A double; the values that are no numbers have words. -/
def floatText (x : Float) : List Char :=
  if x.isNaN then "NaN".toList
  else if x.isInf then (if isNegative x then "-Infinity".toList else "Infinity".toList)
  else Decimal.floatText x

/-- A value that is no text as the key of an object. -/
def keyText : Value → List Char
  | .text s => s.toList
  | .null => "null".toList
  | .bool b => if b then "true".toList else "false".toList
  | .float x => floatText x
  | v => v.plain

/-- How values are written: characters, and the number of blanks to a level if each entry has its line. -/
structure Style where
  ascii : Bool := false
  indent : Option Nat := none

def Style.separator (st : Style) (level : Nat) : List Char :=
  match st.indent with
  | none => [',', ' ']
  | some n => ',' :: '\n' :: List.replicate (n * level) ' '

def Style.opening (st : Style) (level : Nat) : List Char :=
  match st.indent with
  | none => []
  | some n => '\n' :: List.replicate (n * level) ' '

mutual

def writeAt (st : Style) (level : Nat) : Value → List Char
  | .null => "null".toList
  | .bool b => if b then "true".toList else "false".toList
  | .int n => intText n
  | .float x => floatText x
  | .text s => quoted st.ascii s.toList
  | .date d => quoted st.ascii d.iso
  | .moment t => quoted st.ascii (Value.momentText t)
  | .list [] => "[]".toList
  | .list items =>
    '[' :: st.opening (level + 1) ++ (st.separator (level + 1)).intercalate (writeItems st (level + 1) items)
      ++ st.opening level ++ [']']
  | .map [] => "\x7b\x7d".toList
  | .map entries =>
    '\x7b' :: st.opening (level + 1) ++
      (st.separator (level + 1)).intercalate (writeFields st (level + 1) entries)
      ++ st.opening level ++ ['\x7d']
  | .keyed [] => "\x7b\x7d".toList
  | .keyed entries =>
    '\x7b' :: st.opening (level + 1) ++
      (st.separator (level + 1)).intercalate (writeEntries st (level + 1) entries)
      ++ st.opening level ++ ['\x7d']

def writeItems (st : Style) (level : Nat) : List Value → List (List Char)
  | [] => []
  | v :: rest => writeAt st level v :: writeItems st level rest

def writeFields (st : Style) (level : Nat) : List (String × Value) → List (List Char)
  | [] => []
  | (k, v) :: rest =>
    (quoted st.ascii k.toList ++ ':' :: ' ' :: writeAt st level v) :: writeFields st level rest

def writeEntries (st : Style) (level : Nat) : List (Value × Value) → List (List Char)
  | [] => []
  | (k, v) :: rest =>
    (quoted st.ascii (keyText k) ++ ':' :: ' ' :: writeAt st level v) :: writeEntries st level rest

end

def write (st : Style) (v : Value) : List Char := writeAt st 0 v

mutual

/-- Whether some integer in a value is too long to be written. -/
def hasLongInteger : Value → Bool
  | .int n => Value.tooLong n
  | .list items => anyLong items
  | .map entries => anyLongField entries
  | .keyed entries => anyLongEntry entries
  | _ => false

def anyLong : List Value → Bool
  | [] => false
  | v :: rest => hasLongInteger v || anyLong rest

def anyLongField : List (String × Value) → Bool
  | [] => false
  | (_, v) :: rest => hasLongInteger v || anyLongField rest

def anyLongEntry : List (Value × Value) → Bool
  | [] => false
  | (k, v) :: rest => hasLongInteger k || hasLongInteger v || anyLongEntry rest

end

end PageSkins.Json
