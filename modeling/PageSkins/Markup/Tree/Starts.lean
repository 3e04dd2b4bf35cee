import PageSkins.Markup.Tree.Ends

/-!
# Opening tags

Each mode has its rule for opening tags.
-/

namespace PageSkins.Markup.Builder

def closeParagraph (b : Builder) : Builder := if b.inScope "p" .button then b.endParagraph else b

def openVoid (b : Builder) (t : Tag) : Builder := (b.openTag t).pop

/-- Blocks that close a paragraph. -/
def blockStarts : List String := [
  "address", "article", "aside", "blockquote", "center", "details", "dir", "div", "dl", "fieldset", "figcaption",
  "figure", "footer", "header", "hgroup", "main", "menu", "nav", "ol", "p", "section", "summary", "ul"]

/-- An item closes the items before it, up to the list that holds them. -/
def startListItem (b : Builder) (t : Tag) : Builder :=
  let stops := if t.name == "li" then ["li"] else ["dt", "dd"]
  let rec item? : List Nat → Option String
    | [] => none
    | i :: rest =>
      let n := b.nameOf i
      if stops.contains n then some n
      else if b.isSpecial i && !(["address", "div", "p"].contains n) then none
      else item? rest
  let b := match item? b.opened with
    | some n => (b.endTag n).1
    | none => b
  let b := if b.inScope "p" .button then (b.endTag "p").1 else b
  b.openTag t

def startHeading (b : Builder) (t : Tag) : Builder :=
  let b := b.closeParagraph
  let b := if headings.contains b.currentName then b.pop else b
  b.openTag t

/-- A link closes a link that is open. -/
def startLink (b : Builder) (t : Tag) : Builder :=
  let b := match b.recentFormatting.find? fun i => b.nameOf i == "a" with
    | none => b
    | some i =>
      let b := endFormatting "a" 8 b
      { b with opened := b.opened.erase i, formatting := b.formatting.erase (some i) }
  b.reopenFormatting.openFormatting t

/-- The capitals that attributes of drawings are written with, for the one name that is kept. -/
def drawingAttribute (a : Attribute) : Attribute :=
  if a.name = "viewbox" then { a with name := "viewBox" } else a

/-- The prefixed attributes that belong to a vocabulary of their own are named by that vocabulary. -/
def foreignAttribute (a : Attribute) : Attribute :=
  if a.name.startsWith "xlink:" then
    if ["actuate", "arcrole", "href", "role", "show", "title", "type"].contains (a.name.drop 6).toString then
      { a with name := "\x7bhttp://www.w3.org/1999/xlink\x7d" ++ (a.name.drop 6).toString }
    else a
  else a

def openDrawing (b : Builder) (t : Tag) : Builder :=
  let b := b.openElement {
    name := some t.name
    vocabulary := .drawing
    attributes := t.attributes.map (foreignAttribute ∘ drawingAttribute) }
  if t.selfClosing then b.pop else b

def startInBody (b : Builder) (t : Tag) : Outcome :=
  let n := t.name
  if blockStarts.contains n then finished (b.closeParagraph.openTag t)
  else if headings.contains n then finished (b.startHeading t)
  else if n == "pre" then finished { b.closeParagraph.openTag t with dropBreak := true }
  else if n == "form" then
    if b.form.isSome then finished b
    else
      let b := b.closeParagraph.openTag t
      finished { b with form := some b.currentId }
  else if ["li", "dd", "dt"].contains n then finished (b.startListItem t)
  else if n == "a" then finished (b.startLink t)
  else if formattingNames.contains n then finished (b.reopenFormatting.openFormatting t)
  else if n == "button" then
    if b.inScope "button" then again (b.endInBody "button")
    else finished (b.reopenFormatting.openTag t)
  else if n == "table" then
    finished { b.closeParagraph.openTag t with mode := .table }
  else if ["area", "br", "embed", "img", "keygen", "wbr", "input"].contains n then
    finished (b.reopenFormatting.openVoid t)
  else if n == "hr" then finished (b.closeParagraph.openVoid t)
  else if n == "textarea" then
    finished { b.openTag t with dropBreak := true, textOnly := some n }
  else if n == "select" then
    let mode := match b.mode with
      | .table | .tableBody | .row | .cell => .selectInTable
      | _ => .select
    finished { b.reopenFormatting.openTag t with mode := mode }
  else if n == "option" || n == "optgroup" then
    let b := if b.currentName == "option" then (b.endTag "option").1 else b
    finished (b.reopenFormatting.openTag t)
  else if n == "svg" then finished (b.reopenFormatting.openDrawing t)
  else if ["caption", "col", "colgroup", "frame", "head", "tbody", "td", "tfoot", "th", "thead", "tr"].contains n
    then finished b
  else finished (b.reopenFormatting.openTag t)

def clearToTable (b : Builder) : Builder := b.popTo ["table", "html"]

def isHidden (t : Tag) : Bool :=
  t.attributes.any fun a => a.name == "type" && a.value.map Char.toLower == "hidden".toList

def startRowGroup (b : Builder) (t : Tag) : Builder := { b.clearToTable.openTag t with mode := .tableBody }

/-- What is out of place in a table goes before it. A tag that would have to be taken again is dropped. -/
def startBeforeTable (b : Builder) (t : Tag) : Builder :=
  { ({ b with beforeTable := true }.startInBody t).1 with beforeTable := false }

/-- An opening tag between the parts of a table. A table in a table closes it and is dropped. -/
def startInTable (b : Builder) (t : Tag) : Outcome :=
  let n := t.name
  if rowGroups.contains n then finished (b.startRowGroup t)
  else if ["td", "th", "tr"].contains n then again (b.startRowGroup ⟨false, "tbody", [], false⟩)
  else if n == "table" then finished (b.endTag "table").1
  else if n == "input" && isHidden t then finished (b.openVoid t)
  else if n == "form" then
    if b.form.isSome then finished b
    else
      let b := b.openTag t
      finished { b.pop with form := some b.currentId }
  else finished (b.startBeforeTable t)

def startRow (b : Builder) (t : Tag) : Builder := { b.clearToGroup.openTag t with mode := .row }

/-- The tags of a table that end the part that they stand in. -/
def tableBounds : List String := ["caption", "col", "colgroup", "tbody", "tfoot", "thead"]

def startInTableBody (b : Builder) (t : Tag) : Outcome :=
  if t.name == "tr" then finished (b.startRow t)
  else if t.name == "td" || t.name == "th" then again (b.startRow ⟨false, "tr", [], false⟩)
  else if tableBounds.contains t.name then b.leaveRowGroup
  else b.startInTable t

def startInRow (b : Builder) (t : Tag) : Outcome :=
  if t.name == "td" || t.name == "th" then
    let b := b.clearToRow.openTag t
    finished { b with mode := .cell, formatting := b.formatting ++ [none] }
  else if tableBounds.contains t.name || t.name == "tr" then b.leaveRow
  else b.startInTable t

def startInCell (b : Builder) (t : Tag) : Outcome :=
  if tableBounds.contains t.name || ["td", "th", "tr"].contains t.name then
    if b.inScope "td" .table || b.inScope "th" .table then again b.closeCell else finished b
  else b.startInBody t

def startInSelect (b : Builder) (t : Tag) : Outcome :=
  if t.name == "option" then
    let b := if b.currentName == "option" then b.pop else b
    finished (b.openTag t)
  else if t.name == "select" then finished b.endSelect
  else if t.name == "input" || t.name == "textarea" then
    if b.inScope "select" .select then again b.endSelect else finished b
  else finished b

def startInSelectInTable (b : Builder) (t : Tag) : Outcome :=
  if tableNames.contains t.name then again b.endSelect else b.startInSelect t

def startTag (b : Builder) (t : Tag) : Outcome :=
  match b.mode with
  | .body => b.startInBody t
  | .table => b.startInTable t
  | .tableText => again b.placeTableText
  | .tableBody => b.startInTableBody t
  | .row => b.startInRow t
  | .cell => b.startInCell t
  | .select => b.startInSelect t
  | .selectInTable => b.startInSelectInTable t

/-- Page elements that end a drawing. -/
def breakouts : List String := [
  "b", "big", "blockquote", "body", "br", "center", "code", "dd", "div", "dl", "dt", "em", "embed", "h1", "h2",
  "h3", "h4", "h5", "h6", "head", "hr", "i", "img", "li", "listing", "menu", "meta", "nobr", "ol", "p", "pre",
  "ruby", "s", "small", "span", "strong", "strike", "sub", "sup", "table", "tt", "u", "ul", "var"]

def startInDrawing (b : Builder) (t : Tag) : Outcome :=
  if breakouts.contains t.name then
    again { b with opened := b.opened.dropWhile fun i => (b.element i).vocabulary != .page }
  else finished (b.openDrawing t)

end PageSkins.Markup.Builder
