/-!
# Ranges of code points

A character property is kept as a list of ranges of code points. A character has the property
when its code point lies in one of them, ends included.
-/

namespace GuardedProxy.Text

/-- The first and the last code point of a range. -/
abbrev CharRange := Nat × Nat

def CharRange.holds (range : CharRange) (c : Char) : Bool :=
  range.1 ≤ c.toNat && c.toNat ≤ range.2

def inRanges (ranges : List CharRange) (c : Char) : Bool :=
  ranges.any fun range ↦ range.holds c

end GuardedProxy.Text
