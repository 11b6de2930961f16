import LookupLog.Toml.Value

/-!
# Building tables

Tables grow by assignments and by headers, and nothing is ever set twice. A dotted key may only go
through tables that no header made, and may only add to tables that dotted keys made; a header may
go through any table but one between braces, and may take over a table that was only implied.
-/

namespace LookupLog.Toml

/-- A dotted key: the tables on the way, and the name in the last of them. -/
structure Key where
  way : List Text
  name : Text
  deriving DecidableEq

/-- The key with given parts. -/
def Key.ofParts? (parts : List Text) : Option Key :=
  parts.getLast?.map fun name => { way := parts.dropLast, name }

/-! ## 1. Entries -/

/-- The entries with the value of a name replaced. -/
def replaceEntry (name : Text) (value : Value) : Entries → Entries
  | [] => []
  | (n, v) :: rest =>
    if n = name then (n, value) :: rest else (n, v) :: replaceEntry name value rest

/-- The entries without those of a name. -/
def removeEntry (name : Text) (entries : Entries) : Entries :=
  entries.filter fun entry => entry.1 ≠ name

/-- A table of this kind may be gone through. -/
def TableKind.passable (byDottedKey : Bool) : TableKind → Bool
  | headed => ! byDottedKey
  | implied => true
  | dotted => true
  | inline => false

/-- Changes the table at the end of a way, which is made where there is none. -/
def alter (byDottedKey : Bool) (change : TableKind → Entries → Option Entries) :
    (way : List Text) → TableKind → Entries → Option Entries
  | [], kind, entries => change kind entries
  | name :: way, _, entries =>
    match entries.lookup name with
    | none =>
      let kind := if byDottedKey then TableKind.dotted else TableKind.implied
      (alter byDottedKey change way kind []).map fun inner =>
        entries ++ [(name, .table kind inner)]
    | some (.table kind inner) =>
      if kind.passable byDottedKey then
        (alter byDottedKey change way kind inner).map fun inner =>
          replaceEntry name (.table kind inner) entries
      else none
    | some (.tables elements) =>
      match elements.getLast? with
      | none => none
      | some inner =>
        (alter byDottedKey change way .headed inner).map fun inner =>
          replaceEntry name (.tables (elements.dropLast ++ [inner])) entries
    | some _ => none

/-! ## 2. Assignments -/

/-- The entries with a value at a key that had none. -/
def assign (entries : Entries) (key : Key) (value : Value) : Option Entries :=
  alter true
    (fun kind inner =>
      if key.way ≠ [] ∧ kind ≠ .dotted then none
      else if (inner.lookup key.name).isSome then none
      else some (inner ++ [(key.name, value)]))
    key.way .headed entries

/-- The entries after some assignments. -/
def assignAll (entries : Entries) (assignments : List (Key × Value)) : Option Entries :=
  assignments.foldlM (fun entries (key, value) => assign entries key value) entries

/-! ## 3. Headers -/

/-- A header. -/
inductive Header where
  /-- Between brackets: a table. -/
  | table (key : Key)
  /-- Between double brackets: one more table of a list. -/
  | element (key : Key)
  deriving DecidableEq

/-- The entries with a header and the assignments below it. A table that was only implied is taken
over and moves to the end. -/
def addSection (entries : Entries) (header : Header) (assignments : List (Key × Value)) :
    Option Entries :=
  match header with
  | .table key =>
    alter false
      (fun _ inner =>
        match inner.lookup key.name with
        | none => (assignAll [] assignments).map fun new =>
          inner ++ [(key.name, .table .headed new)]
        | some (.table .implied old) => (assignAll old assignments).map fun new =>
          removeEntry key.name inner ++ [(key.name, .table .headed new)]
        | some _ => none)
      key.way .headed entries
  | .element key =>
    alter false
      (fun _ inner =>
        match inner.lookup key.name with
        | none => (assignAll [] assignments).map fun new =>
          inner ++ [(key.name, .tables [new])]
        | some (.tables old) => (assignAll [] assignments).map fun new =>
          replaceEntry key.name (.tables (old ++ [new])) inner
        | some _ => none)
      key.way .headed entries

end LookupLog.Toml
