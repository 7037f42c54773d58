import TypedDefaults.Decimal.Binary64

/-!
# The shortest text of a binary number

A finite number is written with the fewest decimal digits that read back as
the same number, and of those with the digits nearest to it. The digits are
found by trying one digit, two digits and so on: on each decimal grid only the
two neighbours of the number can be the answer, and seventeen digits always
suffice. Numbers from 10^-4 up to 10^16 are written with a point and at least
one digit on both sides of it; others with an exponent of at least two digits.
-/

namespace TypedDefaults.Binary64

/-- How many digits always identify a number. -/
def enoughDigits : Nat := 17

/-- The ratio that a positive finite number is. -/
def ratio (mantissa : Nat) (exponent : Int) : Nat × Nat :=
  if 0 ≤ exponent then (mantissa * twoTo exponent.toNat, 1) else (mantissa, twoTo (-exponent).toNat)

/-- The ratio divided by a power of ten. -/
def overPowerOfTen (numerator denominator : Nat) (power : Int) : Nat × Nat :=
  if 0 ≤ power then (numerator, denominator * tenTo power.toNat)
  else (numerator * tenTo (-power).toNat, denominator)

/-- The decimal digits of a natural number, most significant first. -/
def decimalDigits (value : Nat) : List Nat :=
  (Nat.toDigits 10 value).map fun digit => digit.toNat - 0x30

/-- The number of digits before the point of a positive ratio; zero and below for fractions that
start after the point. -/
def pointPosition (numerator denominator : Nat) : Int :=
  let whole := numerator / denominator
  if 0 < whole then Int.ofNat (decimalDigits whole).length
  else 1 - Int.ofNat (decimalDigits ((denominator - 1) / numerator)).length

/-- The neighbours of a ratio on the grid of whole numbers, nearest first; of two equally near ones
the even one. -/
def neighbours (numerator denominator : Nat) : List Nat :=
  let below := numerator / denominator
  if roundQuotient numerator denominator = below then [below, below + 1] else [below + 1, below]

/-- The digits and the point position of the shortest text of a positive finite number, looked for
from `count` digits on. -/
def shortestFrom (mantissa : Nat) (exponent : Int) (point : Int) : Nat → Nat → List Nat × Int
  | count, remaining =>
    let (numerator, denominator) := ratio mantissa exponent
    let unit := point - Int.ofNat count
    let (top, bottom) := overPowerOfTen numerator denominator unit
    let fits (candidate : Nat) : Bool :=
      ofDecimal false (decimalDigits candidate) unit = finite false mantissa exponent
    match (neighbours top bottom).find? fits, remaining with
    | some candidate, _ =>
      let digits := decimalDigits candidate
      (digits, Int.ofNat digits.length + unit)
    | none, 0 => (decimalDigits (top / bottom), point)
    | none, more + 1 => shortestFrom mantissa exponent point (count + 1) more

/-- A digit as a character. -/
def digitCharacter (digit : Nat) : Char := Char.ofNat (0x30 + digit)

/-- Digits without zeros at the end. -/
def withoutTrailingZeros (digits : List Nat) : List Nat :=
  (digits.reverse.dropWhile (· = 0)).reverse

/-- Digits with a point after the first one and an exponent. -/
def scientific (digits : List Nat) (exponent : Int) : List Char :=
  let shown := digits.map digitCharacter
  let mantissa := match shown with
    | first :: second :: rest => first :: '.' :: second :: rest
    | shown => shown
  let size := Nat.toDigits 10 exponent.natAbs
  let padded := if size.length < 2 then '0' :: size else size
  mantissa ++ 'e' :: (if exponent < 0 then '-' else '+') :: padded

/-- Digits with a point at the given position. -/
def positional (digits : List Nat) (point : Int) : List Char :=
  let shown := digits.map digitCharacter
  if point ≤ 0 then '0' :: '.' :: List.replicate (-point).toNat '0' ++ shown
  else
    let whole := shown.take point.toNat
    let fraction := shown.drop point.toNat
    whole ++ List.replicate (point.toNat - shown.length) '0' ++
      '.' :: (if fraction.isEmpty then ['0'] else fraction)

/-- The text of a positive finite number. -/
def positiveText (mantissa : Nat) (exponent : Int) : List Char :=
  let (numerator, denominator) := ratio mantissa exponent
  let start := pointPosition numerator denominator
  let (digits, point) := shortestFrom mantissa exponent start 1 (enoughDigits - 1)
  let digits := withoutTrailingZeros digits
  if -4 < point ∧ point ≤ 16 then positional digits point
  else scientific digits (point - 1)

/-- The shortest text of a number. -/
def text : Binary64 → String
  | finite negative mantissa exponent =>
    let magnitude := if mantissa = 0 then ['0', '.', '0'] else positiveText mantissa exponent
    String.ofList (if negative then '-' :: magnitude else magnitude)
  | infinite negative => if negative then "-inf" else "inf"
  | notANumber => "nan"

end TypedDefaults.Binary64
