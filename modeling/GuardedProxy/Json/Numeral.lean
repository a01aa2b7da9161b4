/-!
# Numbers of a JSON text

A numeral is a sign, whole digits, and optionally a fraction and an exponent. Without the last two
it is an integer as long as it fits 64 bits, signed or unsigned; minus zero does not. Every other
numeral is a double. Its digits are gathered into a 64-bit significand until the next digit would
overflow it. Whole digits beyond that only raise the exponent, and fraction digits beyond it are
dropped. The significand is then scaled by a power of ten, and a result that is not finite is out
of range.
-/

namespace GuardedProxy.Json

structure Numeral where
  negative : Bool
  whole : List Char
  fraction : List Char
  /-- The digits of the exponent and whether it is negative. -/
  exponent : Option (Bool × List Char)
deriving DecidableEq, Repr

inductive Number
  | integer (value : Int)
  | float (value : Float)
deriving Repr

def digitValue (c : Char) : Nat := c.toNat - '0'.toNat

/-- The largest significand. -/
def maxSignificand : Nat := Nat.pow 2 64 - 1

/-- Gathers whole digits. Gives the significand and how many digits did not fit. -/
def gatherWhole (significand : Nat) : List Char → Nat × Nat
  | [] => (significand, 0)
  | c :: rest =>
    let next := significand * 10 + digitValue c
    if next ≤ maxSignificand then gatherWhole next rest else (significand, rest.length + 1)

/-- Gathers fraction digits. Gives the significand and how many digits fitted. -/
def gatherFraction (significand : Nat) : List Char → Nat × Nat
  | [] => (significand, 0)
  | c :: rest =>
    let next := significand * 10 + digitValue c
    if next ≤ maxSignificand then
      let (significand, count) := gatherFraction next rest
      (significand, count + 1)
    else (significand, 0)

def powerOfTen (n : Nat) : Float := Float.ofScientific 1 false n

/-- Divides by a power of ten, in steps that each are a finite double. -/
def scaleDown (value : Float) (n : Nat) : Float :=
  if n ≤ 308 then value / powerOfTen n
  else if value == 0.0 then value
  else scaleDown (value / powerOfTen 308) (n - 308)
termination_by n

/-- Scales a significand, unless the result is out of range. -/
def scale (significand : Nat) (exponent : Int) : Option Float :=
  let value := significand.toUInt64.toFloat
  if exponent < 0 then some (scaleDown value exponent.natAbs)
  else if exponent ≤ 308 then
    let scaled := value * powerOfTen exponent.toNat
    if scaled.isInf then none else some scaled
  else if significand = 0 then some value else none

/-- Exponents that do not fit 32 bits are not added up. -/
def maxExponent : Nat := Nat.pow 2 31 - 1

/-- The value of the digits of an exponent, or some number that is too large as well. -/
def exponentValue (digits : List Char) : Nat :=
  digits.foldl (fun value c ↦ if maxExponent < value then value else value * 10 + digitValue c) 0

namespace Numeral

/-- The double of a numeral without its sign. -/
def magnitude (numeral : Numeral) : Option Float :=
  let (significand, excess) := gatherWhole 0 numeral.whole
  let (significand, places) := gatherFraction significand numeral.fraction
  let start : Int := (excess : Int) - places
  match numeral.exponent with
  | none => scale significand start
  | some (isNegative, digits) =>
    let exponent := exponentValue digits
    if maxExponent < exponent then
      if significand = 0 ∨ isNegative then some 0.0 else none
    else scale significand (if isNegative then start - exponent else start + exponent)

def float (numeral : Numeral) : Option Number :=
  numeral.magnitude.map fun value ↦ .float (if numeral.negative then -value else value)

/-- The number that a numeral denotes, unless it is out of range. -/
def number (numeral : Numeral) : Option Number :=
  let (value, excess) := gatherWhole 0 numeral.whole
  if numeral.fraction.isEmpty ∧ numeral.exponent.isNone ∧ excess = 0 then
    if numeral.negative then
      if 0 < value ∧ value ≤ Nat.pow 2 63 then some (.integer (-value)) else numeral.float
    else some (.integer value)
  else numeral.float

end Numeral

/-- Whether a minus sign stands here, and what follows the sign, if there is one. -/
def readSign : List Char → Bool × List Char
  | '+' :: rest => (false, rest)
  | '-' :: rest => (true, rest)
  | rest => (false, rest)

/-- An exponent mark with its digits, if one stands here. A mark needs a digit. -/
def readExponent (cs : List Char) : Option (Option (Bool × List Char) × List Char) :=
  match cs with
  | c :: rest =>
    if c = 'e' ∨ c = 'E' then
      let (isNegative, rest) := readSign rest
      match rest.takeWhile Char.isDigit with
      | [] => none
      | digits => some (some (isNegative, digits), rest.dropWhile Char.isDigit)
    else some (none, cs)
  | [] => some (none, cs)

/-- A point with fraction digits, if one stands here. A point needs a digit. -/
def readFraction (cs : List Char) : Option (List Char × List Char) :=
  match cs with
  | '.' :: rest =>
    match rest.takeWhile Char.isDigit with
    | [] => none
    | digits => some (digits, rest.dropWhile Char.isDigit)
  | cs => some ([], cs)

/-- Whole digits. A zero stands alone. -/
def readWhole (cs : List Char) : Option (List Char × List Char) :=
  match cs.takeWhile Char.isDigit with
  | [] => none
  | digits =>
    if digits.head? = some '0' ∧ 1 < digits.length then none
    else some (digits, cs.dropWhile Char.isDigit)

/-- Reads the longest numeral at the front of a text. -/
def readNumeral (cs : List Char) : Option (Numeral × List Char) := do
  let negative := cs.head? = some '-'
  let (whole, rest) ← readWhole (if negative then cs.tail else cs)
  let (fraction, rest) ← readFraction rest
  let (exponent, rest) ← readExponent rest
  some (⟨negative, whole, fraction, exponent⟩, rest)

end GuardedProxy.Json
