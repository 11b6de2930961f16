import LookupLog.Pattern.Basic

/-!
# The size of patterns

An automaton that searches for a pattern has a state for every byte that may come next, and a copy
of a repeated pattern for every repetition that is counted. A pattern whose automaton would take
too many bytes is refused. For sets of characters beyond ASCII the size is an estimate.
-/

namespace LookupLog

/-- The bytes of one state. -/
def stateSize : Nat := 32

/-! ## 1. Sets -/

/-- The bytes for one of the characters of a set, about. The great sets have many ranges, which
differ in their bytes. -/
def CharSet.size : CharSet → Nat
  | empty => stateSize
  | range first last =>
    if first = last then stateSize * first.utf8Size
    else if last.toNat < 0x80 then 2 * stateSize
    else 8 * stateSize
  | category group _ => if group = 'L' then 27000 else if group = 'Z' then 700 else 12000
  | script _ => 2200
  | alphabetic => 47000
  | lowercase => 28000
  | uppercase => 27000
  | decimal => 5200
  | space => 700
  | word => 50300
  | complement s => 1000 + s.size
  | union s t => s.size + t.size
  | inter s t => max s.size t.size
  | folded s => s.size + 2 * stateSize
  | foldedAscii s => s.size + stateSize

/-! ## 2. Patterns -/

namespace Pattern

/-- Only the empty text can fit. -/
def takesNothing : Pattern → Bool
  | nothing => true
  | char _ => false
  | place _ => true
  | sequence p q => p.takesNothing && q.takesNothing
  | choice p q => p.takesNothing && q.takesNothing
  | repeated p _ most => p.takesNothing || most = some 0

/-- The bytes of the automaton for a pattern. What takes nothing is not repeated in it. -/
def size : Pattern → Nat
  | nothing => stateSize
  | char set => set.size
  | place _ => stateSize
  | sequence p q => p.size + q.size
  | choice p q => p.size + q.size + stateSize
  | repeated p least most =>
    let loop := stateSize + 8
    if p.takesNothing then p.size + loop
    else match most with
      | none => max least 1 * p.size + loop
      | some most => least * p.size + (most - least) * (p.size + loop) + stateSize

/-- The most bytes that an automaton may take. -/
def sizeLimit : Nat := 10485760

/-- The automaton of the pattern takes too many bytes. -/
def isTooLarge (p : Pattern) : Bool :=
  sizeLimit < p.size

end Pattern

end LookupLog
