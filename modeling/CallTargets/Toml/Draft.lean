import CallTargets.Toml.Value

/-!
# Tables under construction

The tables of a document are spread over it: headers name tables and items of arrays of tables, keys with dots name tables
within the current one.  A `Draft` is a table on which this work is still going on; it remembers how each table
came about, because that decides whether it may be continued.

* A header may complete a table that was only implied by a longer header, but no other.
* A dotted key may not continue a table that has a header, and the table in which it ends must be made by dotted keys.
-/

namespace CallTargets

namespace Toml

/-- How a table came about. -/
inductive Origin where
  /-- It has a header of its own. -/
  | header
  /-- A longer header implies it. -/
  | implied
  /-- Dotted keys made it. -/
  | dotted
  deriving DecidableEq, Repr

/-- An entry of a table under construction. -/
inductive Node where
  /-- A value. -/
  | value (v : Value)
  /-- A table. -/
  | table (origin : Origin) (entries : List (String × Node))
  /-- An array of tables: those that are finished, last to first, and the one under construction. -/
  | tables (earlier : List Value) (latest : List (String × Node))
  deriving Inhabited

/-- A table under construction. -/
abbrev Draft := List (String × Node)

mutual

/-- The value of a finished entry. -/
def Node.finish : Node → Value
  | .value v => v
  | .table _ entries => .table (finishAll entries)
  | .tables earlier latest => .array (earlier.reverse ++ [.table (finishAll latest)])

/-- The entries of a finished table. -/
def finishAll : List (String × Node) → Table
  | [] => []
  | (k, n) :: rest => (k, n.finish) :: finishAll rest

end

namespace Draft

/-- The entry of a key. -/
def get? (d : Draft) (key : String) : Option Node := (d.find? (·.1 == key)).map (·.2)

/-- The table with the entry of a key set. -/
def set (key : String) (n : Node) : Draft → Draft
  | [] => [(key, n)]
  | (k, m) :: rest => if k = key then (k, n) :: rest else (k, m) :: set key n rest

/-- Gives a value to a dotted key. -/
def assign (v : Value) : List String → Draft → Option Draft
  | [], _ => none
  | [key], d =>
    match d.get? key with
    | none => some (d.set key (.value v))
    | some _ => none
  | key :: part :: parts, d =>
    match d.get? key with
    | none => (assign v (part :: parts) []).map fun e => d.set key (.table .dotted e)
    | some (.table origin entries) =>
      if origin = .header || (origin = .implied && parts.isEmpty) then none
      else (assign v (part :: parts) entries).map fun e => d.set key (.table origin e)
    | some (.tables earlier latest) =>
      if parts.isEmpty then none
      else (assign v (part :: parts) latest).map fun e => d.set key (.tables earlier e)
    | some (.value _) => none

/-- Does something to the table that a header names. -/
def within (f : Draft → Option Draft) : List String → Draft → Option Draft
  | [], d => f d
  | key :: path, d =>
    match d.get? key with
    | some (.table origin entries) => (within f path entries).map fun e => d.set key (.table origin e)
    | some (.tables earlier latest) => (within f path latest).map fun e => d.set key (.tables earlier e)
    | _ => none

/-- Goes to the table that holds the last part of a header, and sets the entry of that part. -/
def openPath (enter : Option Node → Option Node) : List String → Draft → Option Draft
  | [], _ => none
  | [key], d => (enter (d.get? key)).map fun n => d.set key n
  | key :: part :: parts, d =>
    match d.get? key with
    | none => (openPath enter (part :: parts) []).map fun e => d.set key (.table .implied e)
    | some (.table origin entries) =>
      (openPath enter (part :: parts) entries).map fun e => d.set key (.table origin e)
    | some (.tables earlier latest) =>
      (openPath enter (part :: parts) latest).map fun e => d.set key (.tables earlier e)
    | some (.value _) => none

/-- The entry that a header of a table makes of an entry. -/
def enterTable : Option Node → Option Node
  | none => some (.table .header [])
  | some (.table .implied entries) => some (.table .header entries)
  | some _ => none

/-- The entry that a header of an item of an array of tables makes of an entry. -/
def enterItem : Option Node → Option Node
  | none => some (.tables [] [])
  | some (.tables earlier latest) => some (.tables (.table (finishAll latest) :: earlier) [])
  | some _ => none

end Draft

/-- The table of some dotted keys with their values. -/
def tableOf? (assignments : List (List String × Value)) : Option Table :=
  (assignments.foldlM (fun d (key, v) => Draft.assign v key d) []).map finishAll

end Toml

end CallTargets
