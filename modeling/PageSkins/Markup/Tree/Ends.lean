import PageSkins.Markup.Tree.Adoption

/-!
# Closing tags

Each mode has its rule for closing tags; the rule tells the new state and whether the tag is
to be looked at once more.
-/

namespace PageSkins.Markup.Builder

def headings : List String := ["h1", "h2", "h3", "h4", "h5", "h6"]

/-- A state and whether the same lexeme is taken again. -/
abbrev Outcome := Builder × Bool

def finished (b : Builder) : Outcome := (b, false)

def again (b : Builder) : Outcome := (b, true)

/-- Closes the innermost element of a name, unless a special element lies inside it. -/
def endOther (b : Builder) (name : String) : Builder :=
  let rec go : List Nat → Builder
    | [] => b
    | i :: rest =>
      if b.nameOf i == name then
        let b := b.closeImplied name
        { b with opened := (b.opened.dropWhile (· != i)).drop 1 }
      else if b.isSpecial i then b
      else go rest
  go b.opened

/-- A paragraph that is not open is opened and closed at once. -/
def endParagraph (b : Builder) : Builder :=
  if b.inScope "p" .button then (b.closeImplied "p").popThrough "p"
  else (b.openName "p").pop

def endBlock (b : Builder) (name : String) : Builder :=
  let b := if name == "pre" then { b with dropBreak := false } else b
  if b.inScope name then b.closeImplied.popThrough name else b

def endForm (b : Builder) : Builder :=
  let form := b.form
  let b := { b with form := none }
  match form with
  | none => b
  | some f =>
    if b.nodeInScope f then
      let b := b.closeImplied
      { b with opened := b.opened.erase f }
    else b

def endListItem (b : Builder) (name : String) : Builder :=
  if b.inScope name (if name == "li" then .list else .plain) then (b.closeImplied name).popThrough name else b

def endHeading (b : Builder) : Builder :=
  let within (b : Builder) := headings.any fun h => b.inScope h
  let b := if within b then b.closeImplied else b
  if within b then
    { b with opened := (b.opened.dropWhile fun i => !headings.contains (b.nameOf i)).drop 1 }
  else b

/-- Closes a formatting element; a block inside it is moved out, eight times at most. -/
def endFormatting (name : String) : (rounds : Nat) → Builder → Builder
  | 0, b => b
  | rounds + 1, b =>
    match b.closeFormattingRound name with
    | .absent => b.endOther name
    | .done b => b
    | .again b => endFormatting name rounds b

def endBreak (b : Builder) : Builder := (b.reopenFormatting.openName "br").pop

def blockEnds : List String := [
  "address", "article", "aside", "blockquote", "button", "center", "details", "dialog", "dir", "div", "dl",
  "fieldset", "figcaption", "figure", "footer", "header", "hgroup", "listing", "main", "menu", "nav", "ol", "pre",
  "section", "summary", "ul"]

def formattingNames : List String := [
  "a", "b", "big", "code", "em", "font", "i", "nobr", "s", "small", "strike", "strong", "tt", "u"]

def endInBody (b : Builder) (name : String) : Builder :=
  if blockEnds.contains name then b.endBlock name
  else if name == "form" then b.endForm
  else if name == "p" then b.endParagraph
  else if ["dd", "dt", "li"].contains name then b.endListItem name
  else if headings.contains name then b.endHeading
  else if formattingNames.contains name then endFormatting name 8 b
  else if name == "br" then b.endBreak
  else b.endOther name

/-- Closing tags of tables that mean nothing where they stand. -/
def ignoredEnds (others : List String) (name : String) : Bool :=
  ["body", "caption", "col", "colgroup", "html"].contains name || others.contains name

/-- A closing tag between the parts of a table. What is out of place goes before the table. -/
def endInTable (b : Builder) (name : String) : Builder :=
  if name == "table" then
    if b.inScope "table" .table then (b.closeImplied.popThrough "table").resetMode else b
  else if ignoredEnds ["tbody", "td", "tfoot", "th", "thead", "tr"] name then b
  else { ({ b with beforeTable := true }.endInBody name) with beforeTable := false }

def rowGroups : List String := ["tbody", "tfoot", "thead"]

def clearToGroup (b : Builder) : Builder := b.popTo ["tbody", "tfoot", "thead", "html"]

def clearToRow (b : Builder) : Builder := b.popTo ["tr", "html"]

def endRowGroup (b : Builder) (name : String) : Builder :=
  if b.inScope name .table then { b.clearToGroup.pop with mode := .table } else b

def leaveRowGroup (b : Builder) : Outcome :=
  if rowGroups.any fun g => b.inScope g .table then
    let b := b.clearToGroup
    again (b.endRowGroup b.currentName)
  else finished b

def endInTableBody (b : Builder) (name : String) : Outcome :=
  if name == "table" then b.leaveRowGroup
  else if rowGroups.contains name then finished (b.endRowGroup name)
  else if ignoredEnds ["td", "th", "tr"] name then finished b
  else finished (b.endInTable name)

def endRow (b : Builder) : Builder :=
  if b.inScope "tr" .table then { b.clearToRow.pop with mode := .tableBody } else b

/-- Closes the open row so that a tag is taken again outside it. -/
def leaveRow (b : Builder) : Outcome :=
  if b.inScope "tr" .table then again b.endRow else finished b

def endInRow (b : Builder) (name : String) : Outcome :=
  if name == "tr" then finished b.endRow
  else if name == "table" then b.leaveRow
  else if rowGroups.contains name then
    if b.inScope name .table then again b.endRow else finished b
  else if ignoredEnds ["td", "th"] name then finished b
  else finished (b.endInTable name)

def endCell (b : Builder) (name : String) : Builder :=
  if b.inScope name .table then
    { ((b.closeImplied name).popThrough name).clearFormatting with mode := .row }
  else b

def closeCell (b : Builder) : Builder :=
  if b.inScope "td" .table then b.endCell "td"
  else if b.inScope "th" .table then b.endCell "th"
  else b

def endInCell (b : Builder) (name : String) : Outcome :=
  if name == "td" || name == "th" then finished (b.endCell name)
  else if ignoredEnds [] name then finished b
  else if ["table", "tbody", "tfoot", "thead", "tr"].contains name then
    if b.inScope name .table then again b.closeCell else finished b
  else finished (b.endInBody name)

def endSelect (b : Builder) : Builder :=
  if b.inScope "select" .select then (b.popThrough "select").resetMode else b

def endInSelect (b : Builder) (name : String) : Builder :=
  if name == "option" then (if b.currentName == "option" then b.pop else b)
  else if name == "select" then b.endSelect
  else b

/-- The tags of a table that end a list of choices inside it. -/
def tableNames : List String := ["caption", "table", "tbody", "tfoot", "thead", "tr", "td", "th"]

def endInSelectInTable (b : Builder) (name : String) : Outcome :=
  if tableNames.contains name then
    if b.inScope name .table then again b.endSelect else finished b
  else finished (b.endInSelect name)

/-- Places the text of a table: white space where it stands, anything else before the table. -/
def placeTableText (b : Builder) : Builder :=
  let s := b.tableText
  let b := { b with tableText := [], mode := b.tableMode }
  if s.all isSpace then b.addText s
  else { (({ b with beforeTable := true }.reopenFormatting).addText s) with beforeTable := false }

def endTag (b : Builder) (name : String) : Outcome :=
  match b.mode with
  | .body => finished (b.endInBody name)
  | .table => finished (b.endInTable name)
  | .tableText => again b.placeTableText
  | .tableBody => b.endInTableBody name
  | .row => b.endInRow name
  | .cell => b.endInCell name
  | .select => finished (b.endInSelect name)
  | .selectInTable => b.endInSelectInTable name

/-- Closes a drawing element, or hands the tag to the present mode at the first page element. -/
def endInDrawing (b : Builder) (name : String) : Outcome :=
  let rec go : List Nat → Outcome
    | [] => finished b
    | i :: rest =>
      if (b.nameOf i).map Char.toLower == name then
        let b := if b.mode == .tableText then b.placeTableText else b
        finished { b with opened := (b.opened.dropWhile (· != i)).drop 1 }
      else match rest with
        | j :: _ => if (b.element j).vocabulary == .page then b.endTag name else go rest
        | [] => finished b
  go b.opened

end PageSkins.Markup.Builder
