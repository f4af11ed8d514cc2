import DevServer.Toml.Reader
import DevServer.Toml.Section

/-!
# Reading TOML documents

A document is a sequence of lines: blank ones and comments, keys with values, headers of tables and
headers of elements of arrays of tables. `parse?` gives the fields of the top table.
-/

namespace DevServer.Toml

open Text

/-- A value with at most `levels` levels of arrays and inline tables. -/
def readValue : (levels : Nat) → Reader Toml
  | levels + 1, '[' :: s =>
    (readItems (readValue levels) ']' s).map fun (vs, s) => (.array vs, s)
  | levels + 1, '\x7b' :: s => do
    let (pairs, s) ← readItems (readPair skipFill (readValue levels)) '\x7d' s
    return (.table (← fieldsOfPairs? pairs), s)
  | _, s =>
    if s.head? = some '"' ∨ s.head? = some '\'' then
      (readString s).map fun (v, s) => (.string v, s)
    else readScalar s

/-- What a line says. -/
inductive Statement where
  | pair (key : List String) (v : Toml)
  | table (key : List String)
  | element (key : List String)

/-- A key between the brackets of a header. -/
def readHeader (closing : List Char) (s : List Char) : Option (List String × List Char) := do
  let (key, s) ← readKey (skipSpace s)
  let s := skipSpace s
  if s.take closing.length = closing then some (key, s.drop closing.length) else none

def readStatement : Reader Statement
  | '[' :: '[' :: s => (readHeader [']', ']'] s).map fun (key, s) => (.element key, s)
  | '[' :: s => (readHeader [']'] s).map fun (key, s) => (.table key, s)
  | s =>
    (readPair (some ∘ skipSpace) (readValue nesting) s).map fun ((key, v), s) => (.pair key v, s)

/-- What follows the end of a line, for the text after its statement. -/
def endLine (s : List Char) : Option (List Char) :=
  match skipSpace s with
  | [] => some []
  | '#' :: s => skipComment s
  | s => newline? s

/-- The statements of a text. -/
def readStatements (s : List Char) : Option (List Statement) :=
  match skipFill s with
  | none => none
  | some [] => some []
  | some s' =>
    match readStatement s' with
    | none => none
    | some (statement, rest) =>
      match endLine rest with
      | none => none
      | some rest =>
        if _h : rest.length < s.length then (readStatements rest).map (statement :: ·) else none
termination_by s.length

/-- A document while it is read: its items, and the table that the last header opened. -/
structure Draft where
  items : Items
  table : List String

/-- Takes in one statement. -/
def Draft.add (d : Draft) : Statement → Option Draft
  | .pair key v => (d.items.addValueAt d.table key v).map ({ d with items := · })
  | .table key => (d.items.openTable key).map (⟨·, key⟩)
  | .element key => (d.items.openElement key).map (⟨·, key⟩)

/-- The fields of the document that a text is. -/
def parse? (s : String) : Option (List (String × Toml)) := do
  let statements ← readStatements (dropMark s.toList)
  let d ← statements.foldlM Draft.add ⟨[], []⟩
  return fieldsOfItems d.items

end DevServer.Toml
