/-!
# Binary floating point of 64 bits

A finite number is an integer of at most 53 bits times a power of two. The
representation is canonical: the mantissa has exactly 53 bits, or the exponent
is the least one, -1074. Decimal numerals are rounded to the nearest
representable number in exact integer arithmetic, a half going to the even
mantissa; numerals too large become infinite.
-/

namespace TypedDefaults

/-- A number of the 64-bit binary format. A finite one stands for
`± mantissa * 2 ^ exponent`. -/
inductive Binary64 where
  | finite (negative : Bool) (mantissa : Nat) (exponent : Int)
  | infinite (negative : Bool)
  | notANumber
  deriving DecidableEq, Repr, Inhabited

namespace Binary64

/-- The exponent of the finest numbers. -/
def leastExponent : Int := -1074

/-- The greatest exponent of a finite number. -/
def greatestExponent : Int := 971

/-- A power of two. -/
def twoTo (power : Nat) : Nat := Nat.pow 2 power

/-- A power of ten. -/
def tenTo (power : Nat) : Nat := Nat.pow 10 power

/-- The quotient rounded to the nearest natural number, a half going to the even neighbour. -/
def roundQuotient (numerator denominator : Nat) : Nat :=
  let quotient := numerator / denominator
  let double := 2 * (numerator % denominator)
  if double < denominator then quotient
  else if denominator < double then quotient + 1
  else if quotient % 2 = 0 then quotient else quotient + 1

/-- The numerator and denominator of a ratio divided by a power of two. -/
def scaledDown (numerator denominator : Nat) (exponent : Int) : Nat × Nat :=
  if 0 ≤ exponent then (numerator, denominator * twoTo exponent.toNat)
  else (numerator * twoTo (-exponent).toNat, denominator)

/-- The exponent that leaves a positive ratio a mantissa of 53 bits, or the least one if the ratio
is too small for that. -/
def exponentFor (numerator denominator : Nat) : Int :=
  let guess : Int := Int.ofNat numerator.log2 - Int.ofNat denominator.log2 - 53
  let (top, bottom) := scaledDown numerator denominator guess
  max leastExponent (if top / bottom < twoTo 53 then guess else guess + 1)

/-- The number nearest to a ratio with a positive denominator. -/
def ofRatio (negative : Bool) (numerator denominator : Nat) : Binary64 :=
  if numerator = 0 then finite negative 0 leastExponent
  else
    let exponent := exponentFor numerator denominator
    let (top, bottom) := scaledDown numerator denominator exponent
    let rounded := roundQuotient top bottom
    let (mantissa, exponent) :=
      if rounded = twoTo 53 then (twoTo 52, exponent + 1) else (rounded, exponent)
    if greatestExponent < exponent then infinite negative else finite negative mantissa exponent

/-- The number with the given decimal digits, most significant first. -/
def digitsValue (digits : List Nat) : Nat := digits.foldl (fun value digit => value * 10 + digit) 0

/-- The number nearest to `± digits * 10 ^ exponent`. Numerals whose size alone decides the answer
are not computed out. -/
def ofDecimal (negative : Bool) (digits : List Nat) (exponent : Int) : Binary64 :=
  let significant := digits.dropWhile (· = 0)
  let magnitude : Int := Int.ofNat significant.length + exponent
  if significant.isEmpty || magnitude < -400 then finite negative 0 leastExponent
  else if 400 < magnitude then infinite negative
  else
    let value := digitsValue significant
    if 0 ≤ exponent then ofRatio negative (value * tenTo exponent.toNat) 1
    else ofRatio negative value (tenTo (-exponent).toNat)

/-- The integer that a number is, if it is one. -/
def toInt? : Binary64 → Option Int
  | finite negative mantissa exponent =>
    let signed (magnitude : Nat) : Int :=
      if negative then -Int.ofNat magnitude else Int.ofNat magnitude
    if 0 ≤ exponent then some (signed (mantissa * twoTo exponent.toNat))
    else if mantissa % twoTo (-exponent).toNat = 0 then
      some (signed (mantissa / twoTo (-exponent).toNat))
    else none
  | infinite _ => none
  | notANumber => none

/-- The rounded quotient is within half a unit of the quotient. -/
theorem roundQuotient_near (numerator denominator : Nat) (positive : 0 < denominator) :
    2 * (roundQuotient numerator denominator * denominator) ≤ 2 * numerator + denominator ∧
      2 * numerator ≤ 2 * (roundQuotient numerator denominator * denominator) + denominator := by
  have division := Nat.div_add_mod numerator denominator
  have remainder := Nat.mod_lt numerator positive
  have commuted : denominator * (numerator / denominator) = numerator / denominator * denominator :=
    Nat.mul_comm _ _
  have next : (numerator / denominator + 1) * denominator =
      numerator / denominator * denominator + denominator := Nat.succ_mul _ _
  unfold roundQuotient
  simp only
  split
  · omega
  · split
    · omega
    · split <;> omega

end Binary64

end TypedDefaults
