import PageSkins.Markup.Tree.Builder

/-!
# Formatting closed out of order

A block inside a formatting element that is closed is moved out of it, and the formatting
begins again inside the block.
-/

namespace PageSkins.Markup.Builder

/-- The elements between the moved block and the formatting element, while they are looked at from the block
outward. -/
structure Chain where
  builder : Builder
  /-- The node that is moved with what it holds. -/
  last : Nat
  /-- Where the formatting begins again in the list of formatting elements. -/
  bookmark : Nat

/-- Gives the moved node a copy of an element that lay around it, up to three times. Elements that are no
formatting are closed. -/
def rechain (block : Nat) : (rounds : Nat) → List Nat → Chain → Chain
  | 0, _, c => c
  | _, [], c => c
  | rounds + 1, i :: rest, c =>
    let b := c.builder
    match b.formatting.findIdx? (· == some i) with
    | none => rechain block rounds rest { c with builder := { b with opened := b.opened.erase i } }
    | some at' =>
      let (arena, new) := b.arena.add (b.copy i)
      let (arena, tail) := arena.detach c.last
      let arena := arena.appendChild new c.last tail
      let b := { b with
        arena := arena
        formatting := b.formatting.set at' (some new)
        opened := b.opened.map fun j => if j = i then new else j }
      rechain block rounds rest ⟨b, new, if c.last = block then at' + 1 else c.bookmark⟩

/-- Moves the outermost special element inside a formatting element out of it. -/
def moveOut (b : Builder) (format block ancestor : Nat) : Builder :=
  let between := ((b.opened.dropWhile (· != block)).drop 1).takeWhile (· != format)
  let c := rechain block 3 between ⟨b, block, (b.formatting.findIdx? (· == some format)).getD 0⟩
  let b := c.builder
  let (arena, tail) := b.arena.detach c.last
  let b := { b with arena := arena }
  let arena :=
    if tableParts.contains (b.nameOf ancestor) then
      match b.fosterPlace with
      | (p, some t) => b.arena.insertBefore p t c.last tail
      | (p, none) => b.arena.appendChild p c.last tail
    else b.arena.appendChild ancestor c.last tail
  let (arena, new) := arena.add (b.copy format)
  let arena := (arena.handOn block new).appendChild block new []
  let formatting := b.formatting.erase (some format)
  let opened := b.opened.erase format
  { b with
    arena := arena
    formatting := formatting.take c.bookmark ++ some new :: formatting.drop c.bookmark
    opened := opened.takeWhile (· != block) ++ new :: opened.dropWhile (· != block) }

/-- What one round of closing a formatting element comes to. -/
inductive Round where
  /-- There is none of this name, or none within scope. -/
  | absent
  | done (b : Builder)
  | again (b : Builder)

def closeFormattingRound (b : Builder) (name : String) : Round :=
  match b.recentFormatting.find? fun i => b.nameOf i == name with
  | none => .absent
  | some format =>
    let isOpen := b.opened.contains format
    if isOpen && !b.inScope name then .absent
    else if !isOpen then .done { b with formatting := b.formatting.erase (some format) }
    else
      match (b.opened.takeWhile (· != format)).reverse.find? b.isSpecial with
      | none => .done { b with
          opened := (b.opened.dropWhile (· != format)).drop 1
          formatting := b.formatting.erase (some format) }
      | some block =>
        let ancestor := ((b.opened.dropWhile (· != format)).drop 1).headD 0
        .again (b.moveOut format block ancestor)

end PageSkins.Markup.Builder
