import CallTargets.Toml.Draft
import CallTargets.Toml.Scalars

/-!
# TOML documents

A document is a sequence of statements: headers and assignments of values to keys.  Reading has two parts, the grammar of
statements and values, and the construction of the tables that they describe.
-/

namespace CallTargets

namespace Toml

/-! ### Values with parts -/

/-- Reads the rest of an array; `item` reads an item, and `room` bounds the number of items. -/
def readItems (item : List Char → Option (Value × List Char)) :
    Nat → List Char → Option (List Value × List Char)
  | 0, _ => none
  | room + 1, cs => do
    match ← skipTrivia false cs with
    | ']' :: rest => some ([], rest)
    | cs =>
      let (v, rest) ← item cs
      match ← skipTrivia false rest with
      | ',' :: rest =>
        let (vs, rest) ← readItems item room rest
        some (v :: vs, rest)
      | ']' :: rest => some ([v], rest)
      | _ => none

/-- Reads a key, the equals sign and a value; `item` reads the value. -/
def readAssignment (item : List Char → Option (Value × List Char)) (cs : List Char) :
    Option ((List String × Value) × List Char) := do
  let (key, rest) ← readKey cs
  let rest ← expect '=' rest
  let (v, rest) ← item (skipBlanks rest)
  some ((key, v), rest)

/-- Reads assignments up to the end of an inline table. -/
def readAssignments (item : List Char → Option (Value × List Char)) :
    Nat → List Char → Option (List (List String × Value) × List Char)
  | 0, _ => none
  | room + 1, cs => do
    let (a, rest) ← readAssignment item cs
    match skipBlanks rest with
    | ',' :: rest =>
      let (as, rest) ← readAssignments item room rest
      some (a :: as, rest)
    | '}' :: rest => some ([a], rest)
    | _ => none

/-- Reads the rest of an inline table. -/
def readInline (item : List Char → Option (Value × List Char)) (cs : List Char) :
    Option (Value × List Char) :=
  match skipBlanks cs with
  | '}' :: rest => some (.table [], rest)
  | _ => do
    let (assignments, rest) ← readAssignments item (cs.length + 1) cs
    let table ← tableOf? assignments
    some (.table table, rest)

/-- Reads a value with at most `levels` levels of arrays and inline tables. -/
def readValue : Nat → List Char → Option (Value × List Char)
  | levels + 1, '[' :: rest =>
    (readItems (readValue levels) (rest.length + 1) rest).map fun (vs, rest) => (.array vs, rest)
  | levels + 1, '{' :: rest => readInline (readValue levels) rest
  | 0, '[' :: _ => none
  | 0, '{' :: _ => none
  | _, cs => readScalar cs

/-- The greatest number of levels of arrays and inline tables. -/
def maxLevels : Nat := 79

/-! ### Statements -/

/-- A statement of a document. -/
inductive Statement where
  /-- The header of a table. -/
  | table (path : List String)
  /-- The header of an item of an array of tables. -/
  | item (path : List String)
  /-- The assignment of a value to a key. -/
  | assign (key : List String) (v : Value)
  deriving Repr

/-- Reads a statement up to the end of its line. -/
def readStatement : List Char → Option (Statement × List Char)
  | '[' :: '[' :: rest => do
    let (path, rest) ← readKey rest
    let rest ← expect ']' rest
    let rest ← expect ']' rest
    let rest ← lineEnd? rest
    some (.item path, rest)
  | '[' :: rest => do
    let (path, rest) ← readKey rest
    let rest ← expect ']' rest
    let rest ← lineEnd? rest
    some (.table path, rest)
  | cs => do
    let ((key, v), rest) ← readAssignment (readValue maxLevels) cs
    let rest ← lineEnd? rest
    some (.assign key v, rest)

/-- Reads all statements. -/
def readStatements : Nat → List Char → Option (List Statement)
  | 0, _ => none
  | room + 1, cs =>
    match skipBlanks cs with
    | [] => some []
    | c :: rest =>
      if c = '#' || c = '\n' || c = '\r' then
        (lineEnd? (c :: rest)).bind (readStatements room)
      else do
        let (s, rest) ← readStatement (c :: rest)
        let ss ← readStatements room rest
        some (s :: ss)

/-! ### Construction -/

/-- A document under construction, with the path of the current table. -/
structure Progress where
  draft : Draft
  current : List String

/-- Carries out a statement. -/
def Progress.run (p : Progress) : Statement → Option Progress
  | .table path => (Draft.openPath Draft.enterTable path p.draft).map fun d => ⟨d, path⟩
  | .item path => (Draft.openPath Draft.enterItem path p.draft).map fun d => ⟨d, path⟩
  | .assign key v =>
    (Draft.within (Draft.assign v key) p.current p.draft).map fun d => ⟨d, p.current⟩

/-- The table that a sequence of statements describes. -/
def ofStatements? (statements : List Statement) : Option Table :=
  (statements.foldlM Progress.run ⟨[], []⟩).map fun p => finishAll p.draft

/-- The text without a byte-order mark at its beginning. -/
def dropMark : List Char → List Char
  | '\ufeff' :: rest => rest
  | cs => cs

/-- The table of a document. -/
def parse? (text : String) : Option Table :=
  let cs := dropMark text.toList
  (readStatements (cs.length + 1) cs).bind ofStatements?

end Toml

end CallTargets
