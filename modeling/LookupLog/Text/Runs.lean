import LookupLog.Text.Basic

/-!
# Runs of code points

A table gives every code point a value. Neighbours mostly share theirs, so only the first code
point of each run is written, in hexadecimal and followed by the value.
-/

namespace LookupLog.Text

/-- The first code points of the runs in increasing order, with their values. The first run begins
at zero. -/
abbrev Runs (α : Type) := Array (Nat × α)

namespace Runs

/-- The runs of a table whose values are written with so many characters. -/
def ofTable (length : Nat) (read : Text → α) (table : List String) : Runs α :=
  let runOf (run : Text) : Nat × α :=
    let digits := run.length - length
    (ofDigits 16 (run.take digits), read (run.drop digits))
  (table.flatMap fun line => (line.toList.splitOn ' ').map runOf).toArray

/-- The place of the last run that begins at or before a code point, found by halving steps. There
must be fewer than 8192 runs. -/
def placeOf (runs : Runs α) (code : Nat) : Nat :=
  [0x1000, 0x800, 0x400, 0x200, 0x100, 0x80, 0x40, 0x20, 0x10, 8, 4, 2, 1].foldl
    (fun place step => match runs[place + step]? with
      | some (first, _) => if first ≤ code then place + step else place
      | none => place)
    0

/-- The value of a character. -/
def valueOf? (runs : Runs α) (c : Char) : Option α :=
  (runs[runs.placeOf c.toNat]?).map Prod.snd

end Runs

/-- The code point lies in one of some ranges, which have both ends included. -/
def inRanges (ranges : List (Nat × Nat)) (c : Char) : Bool :=
  ranges.any fun (first, last) => decide (first ≤ c.toNat ∧ c.toNat ≤ last)

end LookupLog.Text
