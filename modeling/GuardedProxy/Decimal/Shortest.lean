/-!
# The shortest decimal of a binary fraction

A double has the value `m · 2 ^ q`. Every real number that lies nearer to it than to its neighbours
reads back as it, a number half way only when `m` is even. Among the decimals that read back the
shortest is taken, among several of one length the nearest, and of two equally near the even one.
-/

namespace GuardedProxy.Decimal

/-- The number `digits · 10 ^ exponent`. -/
structure Scaled where
  digits : Nat
  exponent : Int
deriving DecidableEq, Repr

/-- The interval of numbers that read back as a double, in units of `2 ^ exponent`. -/
structure Interval where
  low : Nat
  middle : Nat
  high : Nat
  exponent : Int
  closed : Bool

/-- The interval around `m · 2 ^ q`. The lower half is half as wide at a power of two, below which
doubles lie twice as close, unless the double is as small as its exponent allows. -/
def Interval.around (m : Nat) (q : Int) : Interval :=
  let narrow := m = Nat.pow 2 52 ∧ -1074 < q
  ⟨if narrow then 4 * m - 1 else 4 * m - 2, 4 * m, 4 * m + 2, q - 2, m % 2 = 0⟩

/-- `x · 2 ^ p` on the common scale with `d · 10 ^ k`. -/
def binaryOnScale (p k : Int) (x : Nat) : Nat := x * Nat.pow 2 p.toNat * Nat.pow 10 (-k).toNat

/-- `d · 10 ^ k` on the common scale with `x · 2 ^ p`. -/
def decimalOnScale (p k : Int) (d : Nat) : Nat := d * Nat.pow 10 k.toNat * Nat.pow 2 (-p).toNat

namespace Interval

def holds (interval : Interval) (candidate : Scaled) : Bool :=
  let low := binaryOnScale interval.exponent candidate.exponent interval.low
  let high := binaryOnScale interval.exponent candidate.exponent interval.high
  let value := decimalOnScale interval.exponent candidate.exponent candidate.digits
  if interval.closed then low ≤ value && value ≤ high else low < value && value < high

/-- How far a decimal lies from the middle, on the scale of its own exponent. -/
def distance (interval : Interval) (candidate : Scaled) : Nat :=
  let middle := binaryOnScale interval.exponent candidate.exponent interval.middle
  let value := decimalOnScale interval.exponent candidate.exponent candidate.digits
  (middle - value) + (value - middle)

/-- The largest multiple of `10 ^ k` that is not above the middle. -/
def floorAt (interval : Interval) (k : Int) : Scaled :=
  ⟨binaryOnScale interval.exponent k interval.middle / decimalOnScale interval.exponent k 1, k⟩

/-- The better of the two multiples of `10 ^ k` around the middle that read back. -/
def bestAt (interval : Interval) (k : Int) : Option Scaled :=
  let below := interval.floorAt k
  let above : Scaled := ⟨below.digits + 1, k⟩
  match interval.holds below, interval.holds above with
  | true, true =>
    let left := interval.distance below
    let right := interval.distance above
    if left < right ∨ (left = right ∧ below.digits % 2 = 0) then some below else some above
  | true, false => some below
  | false, true => some above
  | false, false => none

/-- The exponent of the first decimal digit of the middle. -/
def leadingExponent (interval : Interval) : Int :=
  let candidates := (List.range 640).map fun (n : Nat) ↦ (310 : Int) - n
  (candidates.find? fun k ↦ 1 ≤ (interval.floorAt k).digits).getD (-324)

end Interval

/-- The shortest decimal that reads back as `m · 2 ^ q`. Seventeen digits always suffice. -/
def shortest (m : Nat) (q : Int) : Scaled :=
  let interval := Interval.around m q
  let top := interval.leadingExponent
  ((List.range 17).findSome? fun (n : Nat) ↦ interval.bestAt (top - n)).getD
    (interval.floorAt (top - 16))

end GuardedProxy.Decimal
