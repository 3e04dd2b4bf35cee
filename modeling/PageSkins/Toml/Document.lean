import PageSkins.Toml.Reader

/-!
# TOML documents

A document (version 1.0) is a tree of tables that its statements fill in: a pair adds a
value, a header opens a table, a double header adds a table to a list of tables. A value is
closed once it is written; a table can be opened by its own header only once.
-/

namespace PageSkins.Toml

/-- What stands under a key of a document in the making. -/
inductive Node where
  /-- A value, which nothing can be added to. -/
  | value (v : Value)
  /-- A table; `opened` if it cannot be opened again. -/
  | table (opened : Bool) (entries : List (String × Node))
  /-- A list of tables, the last one first apart. -/
  | tables (last : List (String × Node)) (before : List (List (String × Node)))
deriving Inhabited

abbrev Entries := List (String × Node)

namespace Entries

/-- Sets a key in place, or at the end if it is new. -/
def put : Entries → String → Node → Entries
  | [], k, n => [(k, n)]
  | (j, m) :: rest, k, n => if j = k then (k, n) :: rest else (j, m) :: put rest k n

/-- Changes the table at a path. Tables on the way that are not there are added. -/
def change (f : Entries → Except Fault Entries) : List String → Entries → Except Fault Entries
  | [], es => f es
  | k :: ks, es =>
    match es.lookup k with
    | none => return put es k (.table false (← change f ks []))
    | some (.table opened inner) => return put es k (.table opened (← change f ks inner))
    | some (.tables last before) => return put es k (.tables (← change f ks last) before)
    | some (.value _) => .error .malformed

def add (v : Value) : List String → Entries → Except Fault Entries
  | [], _ => .error .malformed
  | [k], es => if (es.lookup k).isSome then .error .malformed else .ok (put es k (.value v))
  | k :: ks, es =>
    match es.lookup k with
    | none => return put es k (.table false (← add v ks []))
    | some (.table false inner) => return put es k (.table false (← add v ks inner))
    | some _ => .error .malformed

def openTable (k : String) (es : Entries) : Except Fault Entries :=
  match es.lookup k with
  | none => .ok (put es k (.table true []))
  | some (.table false inner) => .ok (put es k (.table true inner))
  | some _ => .error .malformed

def addTable (k : String) (es : Entries) : Except Fault Entries :=
  match es.lookup k with
  | none => .ok (put es k (.tables [] []))
  | some (.tables last before) => .ok (put es k (.tables [] (last :: before)))
  | some _ => .error .malformed

/-- The table at a path as one that cannot be opened again. -/
def close : List String → Entries → Entries
  | [], es => es
  | k :: ks, es =>
    match es.lookup k with
    | some (.table opened inner) => put es k (.table (opened || ks.isEmpty) (close ks inner))
    | some (.tables last before) => put es k (.tables (close ks last) before)
    | _ => es

end Entries

mutual

def Node.toValue : Node → Value
  | .value v => v
  | .table _ es => .map (entryValues es)
  | .tables last before => .list ((tableValues before).reverse ++ [.map (entryValues last)])

def entryValues : List (String × Node) → List (String × Value)
  | [] => []
  | (k, n) :: rest => (k, n.toValue) :: entryValues rest

def tableValues : List (List (String × Node)) → List Value
  | [] => []
  | es :: rest => .map (entryValues es) :: tableValues rest

end

mutual

/-- A value at the start of a text. The fuel bounds the nesting and the number of items together; the length
of the text is enough of it. -/
def value : Nat → List Char → Except Fault (Value × List Char)
  | 0, _ => .error .malformed
  | fuel + 1, s =>
    match s with
    | '"' :: '"' :: '"' :: r => do
      let (t, rest) ← quotedBody true .text [] (dropLineEnd r)
      return (.text (String.ofList t), rest)
    | '"' :: r => do
      let (t, rest) ← quotedBody false .text [] r
      return (.text (String.ofList t), rest)
    | '\'' :: '\'' :: '\'' :: r => do
      let (t, rest) ← plainLines [] (dropLineEnd r)
      return (.text (String.ofList t), rest)
    | '\'' :: r => do
      let (t, rest) ← plainBody r
      return (.text (String.ofList t), rest)
    | 't' :: 'r' :: 'u' :: 'e' :: r => .ok (.bool true, r)
    | 'f' :: 'a' :: 'l' :: 's' :: 'e' :: r => .ok (.bool false, r)
    | '[' :: r => do
      match ← skipBetween r.length r with
      | ']' :: rest => return (.list [], rest)
      | r =>
        let (vs, rest) ← items fuel r
        return (.list vs, rest)
    | '\x7b' :: r =>
      match skipSpace r with
      | '\x7d' :: rest => .ok (.map [], rest)
      | r => do
        let (es, rest) ← inlineEntries fuel [] r
        return (.map (entryValues es), rest)
    | r => (stamp? r).getD (number r)

def items : Nat → List Char → Except Fault (List Value × List Char)
  | 0, _ => .error .malformed
  | fuel + 1, s => do
    let (v, r) ← value fuel s
    match ← skipBetween r.length r with
    | ']' :: rest => return ([v], rest)
    | ',' :: r =>
      match ← skipBetween r.length r with
      | ']' :: rest => return ([v], rest)
      | r =>
        let (vs, rest) ← items fuel r
        return (v :: vs, rest)
    | _ => .error .malformed

/-- The pairs of a table on one line, up to its closing brace. -/
def inlineEntries : Nat → Entries → List Char → Except Fault (Entries × List Char)
  | 0, _, _ => .error .malformed
  | fuel + 1, es, s => do
    let (k, v, r) ← pair fuel s
    let es ← es.add v k
    match skipSpace r with
    | '\x7d' :: rest => return (es, rest)
    | ',' :: r => inlineEntries fuel es (skipSpace r)
    | _ => .error .malformed

def pair : Nat → List Char → Except Fault (List String × Value × List Char)
  | 0, _ => .error .malformed
  | fuel + 1, s => do
    match ← key s.length s with
    | (k, '=' :: r) =>
      let (v, rest) ← value fuel (skipSpace r)
      return (k, v, rest)
    | _ => .error .malformed

end

structure Document where
  entries : Entries := []
  /-- The table that pairs are added to. -/
  header : List String := []
  /-- Tables that dotted keys have led through since the last header. -/
  crossed : List (List String) := []

namespace Document

def add (d : Document) (k : List String) (v : Value) : Except Fault Document := do
  let entries ← d.entries.change (fun es => es.add v k) d.header
  let crossed := (List.range (k.length - 1)).map fun i => d.header ++ k.take (i + 1)
  return { d with entries, crossed := d.crossed ++ crossed }

/-- Leaves the current table. Tables that dotted keys led through cannot be opened any more. -/
def leave (d : Document) : Document :=
  { d with entries := d.crossed.foldl (fun es path => es.close path) d.entries, crossed := [] }

/-- Makes the table at a path the current one, with `f` done to its last key. -/
def enter (d : Document) (path : List String) (f : String → Entries → Except Fault Entries) :
    Except Fault Document := do
  let entries ← d.entries.change (f (path.getLast?.getD "")) path.dropLast
  return { d with entries, header := path }

def statement (d : Document) (s : List Char) : Except Fault (Document × List Char) :=
  match s with
  | '[' :: '[' :: r => do
    match ← key r.length (skipSpace r) with
    | (path, ']' :: ']' :: rest) => return (← d.leave.enter path Entries.addTable, rest)
    | _ => .error .malformed
  | '[' :: r => do
    match ← key r.length (skipSpace r) with
    | (path, ']' :: rest) => return (← d.leave.enter path Entries.openTable, rest)
    | _ => .error .malformed
  | '#' :: _ => .ok (d, s)
  | _ => do
    let (k, v, rest) ← pair (2 * s.length + 2) s
    return (← d.add k v, rest)

/-- The statements of a text, a line each. The fuel bounds the number of lines. -/
def statements : Nat → Document → List Char → Except Fault Document
  | 0, d, _ => .ok d
  | fuel + 1, d, s =>
    match skipSpace s with
    | [] => .ok d
    | '\n' :: rest => statements fuel d rest
    | s => do
      let (d, rest) ← d.statement s
      match ← skipComment (skipSpace rest) with
      | [] => return d
      | '\n' :: rest => statements fuel d rest
      | _ => .error .malformed

end Document

/-- Line ends as single line feeds. -/
def joinLineEnds : List Char → List Char
  | '\r' :: '\n' :: s => '\n' :: joinLineEnds s
  | c :: s => c :: joinLineEnds s
  | [] => []

/-- The named values of a document. -/
def read (s : List Char) : Except Fault Fields := do
  let s := joinLineEnds s
  let d ← Document.statements (s.length + 1) {} s
  return entryValues d.entries

end PageSkins.Toml
