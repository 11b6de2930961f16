import LookupLog.Toml.Document

/-!
# What statements make

The tables that the statements of a document make, as a relation (`Makes`), with the rules for what
may not be set and not be opened again. How tables are read is not used here. Tables are changed by
functions that know no rule (`put`, `changeAt`); the rules only look at what stands at a path before
(`itemAt?`):

* nothing is set where something stands already;
* a dotted key goes through no table with a header of its own and through none between braces, and
  adds only to a table that dotted keys made;
* a header goes through no table between braces;
* a table gets a header of its own where there is nothing, or where it was only implied so far;
* a list of tables gets one more where there is nothing, or such a list.
-/

namespace LookupLog.TomlGrammar

open Text Toml

/-! ## 1. Paths -/

/-- The entries in which a path goes on below a name: those of a table, or of the last one of a list
    of tables, or none. -/
def inside (name : Text) (entries : Entries) : Entries :=
  match entries.lookup name with
  | some (.table _ inner) => inner
  | some (.tables elements) => elements.getLast?.getD []
  | _ => []

/-- What stands at a path. -/
def itemAt? : (path : List Text) → Entries → Option Value
  | [], _ => none
  | [name], entries => entries.lookup name
  | name :: next :: path, entries => itemAt? (next :: path) (inside name entries)

/-- All names of a key. -/
def pathOf (key : Key) : List Text :=
  key.way ++ [key.name]

/-! ## 2. Changes -/

/-- The entries with this value at a name: in the place of another one, or at the end. -/
def put (name : Text) (value : Value) : Entries → Entries
  | [] => [(name, value)]
  | (other, old) :: rest =>
    if other = name then (name, value) :: rest else (other, old) :: put name value rest

/-- A value with other entries below it. Where there was none, a table is made. -/
def withBelow (made : TableKind) (entries : Entries) : Option Value → Value
  | some (.table kind _) => .table kind entries
  | some (.tables elements) => .tables (elements.dropLast ++ [entries])
  | _ => .table made entries

/-- The entries with a change in the table at the end of a way. -/
def changeAt (made : TableKind) (change : Entries → Entries) : (way : List Text) → Entries → Entries
  | [], entries => change entries
  | name :: way, entries =>
    let inner := changeAt made change way (inside name entries)
    put name (withBelow made inner (entries.lookup name)) entries

/-! ## 3. Rules -/

/-- The tables that a dotted key may go through. -/
def openToKeys : List TableKind :=
  [.implied, .dotted]

/-- The tables that a header may go through. -/
def openToHeaders : List TableKind :=
  [.headed, .implied, .dotted]

/-- A table of one of these kinds, or a list with a table in it. -/
def CanPass (kinds : List TableKind) : Value → Prop
  | .table kind _ => kind ∈ kinds
  | .tables elements => elements ≠ []
  | _ => False

/-- There is nothing on a way that cannot be passed. -/
def IsWay (kinds : List TableKind) (way : List Text) (entries : Entries) : Prop :=
  ∀ path value, path <+: way → itemAt? path entries = some value → CanPass kinds value

/-- **A value may be set at a key.** -/
structure IsFree (key : Key) (entries : Entries) : Prop where
  way : IsWay openToKeys key.way entries
  dotted : ∀ value, itemAt? key.way entries = some value → ∃ inner, value = .table .dotted inner
  nothing : itemAt? (pathOf key) entries = none

/-! ## 4. Statements -/

/-- What a list of assignments makes of the entries of a table. -/
inductive Assigns : List (Key × Value) → (old new : Entries) → Prop where
  | nil {entries : Entries} : Assigns [] entries entries
  | cons {key : Key} {value : Value} {rest : List (Key × Value)} {old new : Entries}
      (hk : IsFree key old)
      (hr : Assigns rest (changeAt .dotted (put key.name value) key.way old) new) :
      Assigns ((key, value) :: rest) old new

/-- What a header and the assignments below it make of the entries of a document. A table that was
    only implied keeps its entries and moves to the end. -/
inductive Adds : Header → List (Key × Value) → (old new : Entries) → Prop where
  | table {key : Key} {assignments : List (Key × Value)} {old made : Entries}
      (hw : IsWay openToHeaders key.way old) (hn : itemAt? (pathOf key) old = none)
      (ha : Assigns assignments [] made) : Adds (.table key) assignments old
        (changeAt .implied (put key.name (.table .headed made)) key.way old)
  | implied {key : Key} {assignments : List (Key × Value)} {old inner made : Entries}
      (hw : IsWay openToHeaders key.way old)
      (hi : itemAt? (pathOf key) old = some (.table .implied inner))
      (ha : Assigns assignments inner made) : Adds (.table key) assignments old
        (changeAt .implied
          (fun entries => entries.filter (·.1 ≠ key.name) ++ [(key.name, .table .headed made)])
          key.way old)
  | first {key : Key} {assignments : List (Key × Value)} {old made : Entries}
      (hw : IsWay openToHeaders key.way old) (hn : itemAt? (pathOf key) old = none)
      (ha : Assigns assignments [] made) : Adds (.element key) assignments old
        (changeAt .implied (put key.name (.tables [made])) key.way old)
  | next {key : Key} {assignments : List (Key × Value)} {old made : Entries}
      {elements : List Entries} (hw : IsWay openToHeaders key.way old)
      (hl : itemAt? (pathOf key) old = some (.tables elements))
      (ha : Assigns assignments [] made) : Adds (.element key) assignments old
        (changeAt .implied (put key.name (.tables (elements ++ [made]))) key.way old)

/-- The assignments on lines of their own. -/
def lines (assignments : List (Key × Value)) : List Statement :=
  assignments.map fun assignment => .assign assignment.1 assignment.2

/-- **The top-level entries that the statements of a document make**: assignments, then headers with
    the assignments below them. -/
inductive Makes : List Statement → Entries → Prop where
  | assignments {assignments : List (Key × Value)} {new : Entries}
      (ha : Assigns assignments [] new) : Makes (lines assignments) new
  | header {before : List Statement} {header : Header} {assignments : List (Key × Value)}
      {old new : Entries} (hb : Makes before old) (ha : Adds header assignments old new) :
      Makes (before ++ .header header :: lines assignments) new

end LookupLog.TomlGrammar
