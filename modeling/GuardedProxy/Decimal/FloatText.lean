import GuardedProxy.Decimal.Shortest

/-!
# Floating point numbers as text

A double is written with the fewest digits that read back. Exponents in a middle range are written
positionally, always with a fraction part. Beyond it one digit stands before the point, and the
exponent follows with its sign.
-/

namespace GuardedProxy.Decimal

/-- The exponents of the first digit for which a number is written positionally. -/
structure PositionalRange where
  lowest : Int
  highest : Int

def positional : PositionalRange := ⟨-5, 15⟩

def zeros (n : Nat) : String := String.ofList (List.replicate n '0')

/-- Writes digits whose first one has the given exponent with a point among them. -/
def positionalText (digits : List Char) (leading : Int) : String :=
  if leading < 0 then
    "0." ++ zeros (-leading - 1).toNat ++ String.ofList digits
  else
    let whole := leading.toNat + 1
    let fraction := digits.drop whole
    String.ofList (digits.take whole) ++ zeros (whole - digits.length) ++ "." ++
      (if fraction.isEmpty then "0" else String.ofList fraction)

def exponentText (digits : List Char) (leading : Int) : String :=
  let fraction := digits.drop 1
  String.ofList (digits.take 1) ++
    (if fraction.isEmpty then "" else "." ++ String.ofList fraction) ++
    (if leading < 0 then "e-" else "e+") ++ toString leading.natAbs

/-- The digits without the zeros at their end. -/
def significant (digits : List Char) : List Char := (digits.reverse.dropWhile (· = '0')).reverse

def scaledText (number : Scaled) : String :=
  let digits := Nat.toDigits 10 number.digits
  let leading := number.exponent + digits.length - 1
  if positional.lowest ≤ leading ∧ leading ≤ positional.highest then
    positionalText (significant digits) leading
  else
    exponentText (significant digits) leading

/-- A finite double as text. -/
def floatText (x : Float) : String :=
  let bits := x.toBits.toNat
  let sign := if bits / Nat.pow 2 63 = 1 then "-" else ""
  let biased : Nat := bits / Nat.pow 2 52 % Nat.pow 2 11
  let fraction : Nat := bits % Nat.pow 2 52
  if biased = 0 ∧ fraction = 0 then sign ++ "0.0"
  else if biased = 0 then sign ++ scaledText (shortest fraction (-1074))
  else sign ++ scaledText (shortest (Nat.pow 2 52 + fraction) ((biased : Int) - 1075))

end GuardedProxy.Decimal
