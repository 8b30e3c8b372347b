import TestImpact.Toml.Scalar

/-!
# Tables of a TOML document

Tables come into being in three ways: by a header of their own, by a dotted key,
or as a step on the way to another table. What may still be added to a table
hangs on that. A header may name a table that was only a step so far, a dotted
key may go on through such tables and through those made by dotted keys, and
nothing else may define a table or a key twice.
-/

namespace TestImpact.Toml

/-- How a table came into being. -/
inductive Origin where
  /-- As a step on the way to the table of a header. -/
  | step
  /-- By a dotted key. -/
  | dotted
  /-- By a header of its own. -/
  | header
  deriving DecidableEq, Repr

/-- A value of a document. -/
inductive Node where
  | scalar (value : Scalar)
  | array (items : List Node)
  /-- A table in braces, which is complete. -/
  | inline (entries : List (String × Node))
  | table (origin : Origin) (entries : List (String × Node))
  /-- The tables under a header in double brackets. -/
  | rows (tables : List (List (String × Node)))

abbrev Entries := List (String × Node)

def replaceEntry (key : String) (value : Node) (entries : Entries) : Entries :=
  entries.map fun entry => if entry.1 = key then (key, value) else entry

/-- Follows a path into tables, making those that are missing, and changes the
table at its end. -/
def descend (made : Origin) (change : Origin → Entries → Option Entries) :
    (path : List String) → Origin → Entries → Option Entries
  | [], origin, entries => change origin entries
  | key :: path, _, entries =>
      match entries.lookup key with
      | none => do
          let inner ← descend made change path made []
          return entries ++ [(key, .table made inner)]
      | some (.table origin inner) =>
          if made = .dotted ∧ origin = .header then none
          else do
            let changed ← descend made change path origin inner
            return replaceEntry key (.table origin changed) entries
      | some (.rows tables) =>
          match tables.reverse with
          | last :: before => do
              let changed ← descend made change path .header last
              return replaceEntry key (.rows (changed :: before).reverse) entries
          | [] => none
      | some _ => none

def addValue (path : List String) (value : Node) (entries : Entries) : Option Entries :=
  match path.reverse with
  | [] => none
  | key :: steps =>
      let way := steps.reverse
      descend .dotted
        (fun origin inner =>
          if !way.isEmpty ∧ origin ≠ .dotted then none
          else if (inner.lookup key).isSome then none
          else some (inner ++ [(key, value)]))
        way .header entries

def defineTable (path : List String) (entries : Entries) : Option Entries :=
  match path.reverse with
  | [] => none
  | key :: steps =>
      descend .step
        (fun _ inner =>
          match inner.lookup key with
          | none => some (inner ++ [(key, .table .header [])])
          | some (.table .step nested) =>
              some (replaceEntry key (.table .header nested) inner)
          | some _ => none)
        steps.reverse .header entries

def addRow (path : List String) (entries : Entries) : Option Entries :=
  match path.reverse with
  | [] => none
  | key :: steps =>
      descend .step
        (fun _ inner =>
          match inner.lookup key with
          | none => some (inner ++ [(key, .rows [[]])])
          | some (.rows tables) => some (replaceEntry key (.rows (tables ++ [[]])) inner)
          | some _ => none)
        steps.reverse .header entries

def addUnder (current : List String) (path : List String) (value : Node)
    (entries : Entries) : Option Entries :=
  descend .step (fun _ inner => addValue path value inner) current .header entries

end TestImpact.Toml
