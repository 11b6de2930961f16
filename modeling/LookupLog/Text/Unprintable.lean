import LookupLog.Text.Category

/-!
# Characters without a shape of their own

A quoted text shows them by number: controls, format characters, every separator but the blank,
private and unassigned code points, the marks that attach to the character before them, and the
letters that fill an empty place.
-/

namespace LookupLog.Text

/-- The spacing marks that attach to the character before them, in increasing order as ranges with
both ends included; the other spacing marks have a shape of their own. -/
def attachingMarks : List (Nat × Nat) := [
  (0x9be, 0x9be), (0x9d7, 0x9d7), (0xb3e, 0xb3e), (0xb57, 0xb57), (0xbbe, 0xbbe), (0xbd7, 0xbd7),
  (0xcc0, 0xcc0), (0xcc2, 0xcc2), (0xcc7, 0xcc8), (0xcca, 0xccb), (0xcd5, 0xcd6), (0xd3e, 0xd3e),
  (0xd57, 0xd57), (0xdcf, 0xdcf), (0xddf, 0xddf), (0x1715, 0x1715), (0x1734, 0x1734),
  (0x1b35, 0x1b35), (0x1b3b, 0x1b3b), (0x1b3d, 0x1b3d), (0x1b43, 0x1b44), (0x1baa, 0x1baa),
  (0x1bf2, 0x1bf3), (0x302e, 0x302f), (0xa953, 0xa953), (0xa9c0, 0xa9c0), (0x111c0, 0x111c0),
  (0x11235, 0x11235), (0x1133e, 0x1133e), (0x1134d, 0x1134d), (0x11357, 0x11357),
  (0x113b8, 0x113b8), (0x113c2, 0x113c2), (0x113c5, 0x113c5), (0x113c7, 0x113c9),
  (0x113cf, 0x113cf), (0x114b0, 0x114b0), (0x114bd, 0x114bd), (0x115af, 0x115af),
  (0x116b6, 0x116b6), (0x11930, 0x11930), (0x1193d, 0x1193d), (0x11f41, 0x11f41),
  (0x16ff0, 0x16ff1), (0x1d165, 0x1d166), (0x1d16d, 0x1d172)]

/-- The letters that stand for an empty place. -/
def fillers : List Char := ['\u115f', '\u1160', '\u3164', '\uffa0']

/-- Attaches to the character before it. -/
def isAttached (c : Char) : Bool :=
  let category := Category.of c
  category = ⟨'M', 'n'⟩ || category = ⟨'M', 'e'⟩ || inRanges attachingMarks c

/-- Has no shape of its own. Of the ASCII characters these are the controls. -/
def isUnprintable (c : Char) : Bool :=
  if c.toNat < 0x80 then c.toNat < 0x20 || c.toNat = 0x7f
  else
    (Category.of c).group = 'C' || (Category.of c).group = 'Z' || isAttached c ||
      fillers.contains c

end LookupLog.Text
