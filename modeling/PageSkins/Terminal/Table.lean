import PageSkins.Terminal.Wrap

/-!
# Tables for a terminal

Cells stand in columns with lines around them. Where there is not enough room the widest
columns become narrower first.
-/

namespace PageSkins.Terminal

open PageSkins.Text

/-- The characters of a horizontal line: its start, its body, where columns meet it, and its end. -/
structure Rule where
  first : Char
  body : Char
  meet : Char
  last : Char

def Rule.draw (r : Rule) (widths : List Nat) : List Char :=
  r.first :: [r.meet].intercalate (widths.map fun n => List.replicate n r.body) ++ [r.last]

structure Frame where
  top : Rule
  /-- Left of, between and right of the heads. -/
  head : Char × Char × Char
  underHead : Rule
  /-- Left of, between and right of the cells. -/
  cells : Char × Char × Char
  between : Rule
  bottom : Rule

namespace Frame

def rounded : Frame where
  top := ⟨'╭', '─', '┬', '╮'⟩
  head := ('│', '│', '│')
  underHead := ⟨'├', '─', '┼', '┤'⟩
  cells := ('│', '│', '│')
  between := ⟨'├', '─', '┼', '┤'⟩
  bottom := ⟨'╰', '─', '┴', '╯'⟩

def heavyHead : Frame where
  top := ⟨'┏', '━', '┳', '┓'⟩
  head := ('┃', '┃', '┃')
  underHead := ⟨'┡', '━', '╇', '┩'⟩
  cells := ('│', '│', '│')
  between := ⟨'├', '─', '┼', '┤'⟩
  bottom := ⟨'└', '─', '┴', '┘'⟩

end Frame

structure Column where
  head : String
  flow : Flow := { justify := .left, overflow := .ellipsis }

/-- A table. Heads, cells and title are tagged text. -/
structure Table where
  frame : Frame := .heavyHead
  title : String := ""
  columns : List Column
  rows : List (List String)
  /-- Whether there are lines between the rows. -/
  hasLines : Bool := false

namespace Table

/-- Blanks on either side of a cell. -/
def padding : Nat := 2

/-- How wide a text makes its cell, if there is that much room. -/
def cellWidth (room : Nat) (text : List Char) : Nat :=
  if room < padding + 1 then room else min room (min (room - padding) (widest text) + padding)

def columnWidth (room : Nat) (texts : List (List Char)) : Nat :=
  if room = 0 then 0 else min room ((texts.map (cellWidth room)).foldl max 0)

/-- A quotient to the nearest integer, a half to the even one. -/
def nearest (m n : Nat) : Nat :=
  let q := m / n
  let r := m % n
  if 2 * r < n ∨ (2 * r = n ∧ q % 2 = 0) then q else q + 1

def total (ns : List Nat) : Nat := ns.foldl (· + ·) 0

/-- Takes `excess` away from numbers, about as much from each that takes part, and no more from any than its limit. -/
def reduce (excess : Nat) : List (Bool × Nat × Nat) → List Nat
  | [] => []
  | (takesPart, limit, n) :: rest =>
    let parts := (rest.filter fun x => x.1 && x.2.1 != 0).length
    if takesPart ∧ limit ≠ 0 then
      let share := min limit (nearest excess (parts + 1))
      (n - share) :: reduce (excess - share) rest
    else n :: reduce excess rest

/-- Makes the widest columns as wide as the next ones, until there is room or only unequal ones could be made equal.
The fuel bounds the number of steps. -/
def collapse (room : Nat) : Nat → List (Bool × Nat) → List (Bool × Nat)
  | 0, cs => cs
  | fuel + 1, cs =>
    let excess := total (cs.map (·.2)) - room
    let widestOne := ((cs.filter (·.1)).map (·.2)).foldl max 0
    let second := (cs.map fun (wraps, n) => if wraps && n != widestOne then n else 0).foldl max 0
    if excess = 0 ∨ widestOne = second then cs
    else
      let limit := min excess (widestOne - second)
      let ns := reduce excess (cs.map fun (wraps, n) => (wraps && n == widestOne, limit, n))
      collapse room fuel ((cs.map (·.1)).zip ns)

/-- The widths of columns that have so much room together, from what stands in each. -/
def widths (room : Nat) (columns : List (Bool × List (List Char))) : List Nat :=
  let wanted := columns.map fun (_, texts) => max 1 (columnWidth room texts)
  if total wanted ≤ room then wanted
  else
    let fitted := (collapse room (total wanted) ((columns.map (·.1)).zip wanted)).map (·.2)
    let excess := total fitted - room
    let fitted := if excess = 0 then fitted else reduce excess (fitted.map fun n => (true, n, n))
    columns.zipWith (fun (_, texts) n => columnWidth n texts) fitted

/-- The lines of a cell with blanks on both sides, each exactly so wide. -/
def cellLines (columns : Nat) (flow : Flow) (text : List Char) : Except Fault (List (List Char)) := do
  let inner := columns - padding
  let lines ← wrap inner flow text
  return lines.map fun l => fit columns (' ' :: fit inner l ++ [' '])

/-- A row of cells. Those with fewer lines are filled up below, or above in the head. -/
def rowLines (marks : Char × Char × Char) (isHead : Bool) (cells : List (Nat × List (List Char))) : List (List Char) :=
  let height := (cells.map fun (_, ls) => ls.length).foldl max 1
  let filled := cells.map fun (n, ls) =>
    let more := List.replicate (height - ls.length) (blanks n)
    if isHead then more ++ ls else ls ++ more
  let (left, divider, right) := marks
  (List.range height).map fun i =>
    left :: [divider].intercalate (filled.map fun ls => (ls[i]?).getD []) ++ [right]

/-- The lines of a table with so many columns of room. A table without columns is an empty line. -/
def lines (room : Nat) (t : Table) : Except Fault (List (List Char)) := do
  if t.columns.isEmpty then return [[]]
  let heads ← t.columns.mapM fun c => untagged c.head.toList
  let rows ← t.rows.mapM fun row => row.mapM fun cell => untagged cell.toList
  let title ← untagged t.title.toList
  let edges := t.columns.length + 1
  let texts := (List.range t.columns.length).map fun i => (heads :: rows).map fun row => (row[i]?).getD []
  let ws := widths (room - edges) ((t.columns.map (·.flow.wraps)).zip texts)
  let titleLines ← if t.title.isEmpty then pure []
    else wrap (total ws + edges) { justify := .center } title
  let row (marks : Char × Char × Char) (isHead : Bool) (cells : List (List Char)) : Except Fault (List (List Char)) := do
    let ls ← ((t.columns.zip ws).zip cells).mapM fun ((c, n), cell) => return (n, ← cellLines n c.flow cell)
    return rowLines marks isHead ls
  let head ← row t.frame.head true heads
  let body ← rows.mapM (row t.frame.cells false)
  let between := if t.hasLines then [t.frame.between.draw ws] else []
  return titleLines ++ t.frame.top.draw ws :: head ++ t.frame.underHead.draw ws :: between.intercalate body ++
    [t.frame.bottom.draw ws]

end Table

def print (columns : Nat) (lines : List (List Char)) : List Char := lines.flatMap fun l => crop columns l ++ ['\n']

def say (columns : Nat) (s : List Char) : Except Fault (List Char) := do
  return print columns (← wrap columns {} (← untagged s))

def sayPlain (columns : Nat) (s : List Char) : Except Fault (List Char) := do
  return print columns (← wrap columns {} (plainText s))

end PageSkins.Terminal
