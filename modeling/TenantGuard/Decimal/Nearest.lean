import TenantGuard.Decimal.Shortest

/-!
# The binary number nearest to a decimal

A decimal is read as the nearest binary floating-point number; of two equally
near the one with the even mantissa is taken.  The computation is exact, so it
does not matter how many digits the decimal has.
-/

namespace TenantGuard.Decimal

/-- The quotient rounded to the nearest natural, halves to the even one. -/
def Ratio.rounded (ratio : Ratio) : Nat :=
  let below := ratio.numerator / ratio.denominator
  let excess := 2 * (ratio.numerator % ratio.denominator)
  if ratio.denominator < excess ∨ (excess = ratio.denominator ∧ below % 2 = 1) then below + 1
  else below

/-- The fraction divided by `2 ^ exponent`. -/
def Ratio.halved (ratio : Ratio) (exponent : Int) : Ratio :=
  ⟨ratio.numerator <<< (-exponent).toNat, ratio.denominator <<< exponent.toNat⟩

/-- The exponent of the last place of a mantissa of 53 digits. -/
def Ratio.lastPlace (ratio : Ratio) : Int :=
  let length := (ratio.numerator.log2 : Int) - ratio.denominator.log2
  let scaled := ratio.halved (length - 52)
  let place :=
    if scaled.denominator <<< 52 ≤ scaled.numerator then length - 52 else length - 53
  -- it cannot fall below that of the smallest number
  max place (-1074)

def infinityBits : Nat :=
  2047 <<< 52

/-- The code of the number nearest to a positive fraction. -/
def Ratio.nearestBits (ratio : Ratio) : Nat :=
  let place := ratio.lastPlace
  -- the leading digit of the mantissa carries into the exponent field
  min infinityBits ((place + 1074).toNat <<< 52 + (ratio.halved place).rounded)

/-- The number nearest to `digits · 10 ^ place`. -/
def nearest (digits : Nat) (place : Int) : Float :=
  let magnitude := (decimalLength digits : Int) + place
  -- decimals far outside the range need no computation
  let bits :=
    if digits = 0 ∨ magnitude < -400 then 0
    else if 400 < magnitude then infinityBits
    else (Ratio.scaled ⟨digits, 1⟩ (-place)).nearestBits
  Float.ofBits bits.toUInt64

end TenantGuard.Decimal
