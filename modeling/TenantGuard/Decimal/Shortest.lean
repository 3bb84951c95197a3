/-!
# The shortest decimal that reads back

A binary floating-point number stands for every real that rounds to it.  Among
the decimals in that interval the shortest are those with the fewest digits, and
of those the nearest to the number itself is chosen.  Everything is computed on
naturals, so the digits are exact.
-/

namespace TenantGuard.Decimal

structure Ratio where
  numerator : Nat
  denominator : Nat

/-- The fraction `mantissa · 2 ^ exponent`. -/
def Ratio.ofBinary (mantissa : Nat) (exponent : Int) : Ratio :=
  ⟨mantissa <<< exponent.toNat, 1 <<< (-exponent).toNat⟩

/-- The fraction divided by `10 ^ exponent`. -/
def Ratio.scaled (ratio : Ratio) (exponent : Int) : Ratio :=
  ⟨ratio.numerator * Nat.pow 10 (-exponent).toNat,
    ratio.denominator * Nat.pow 10 exponent.toNat⟩

def decimalLength (value : Nat) : Nat :=
  (Nat.toDigits 10 value).length

/-- The exponent of the leading decimal digit. -/
def Ratio.magnitude (ratio : Ratio) : Int :=
  if ratio.denominator ≤ ratio.numerator then
    (decimalLength (ratio.numerator / ratio.denominator) : Int) - 1
  else
    let length := decimalLength (ratio.denominator / ratio.numerator)
    if ratio.numerator * Nat.pow 10 (length - 1) = ratio.denominator then
      1 - (length : Int)
    else
      -(length : Int)

/-- The reals that round to a positive binary number `mantissa · 2 ^ exponent`,
in quarters of its last place. -/
structure Interval where
  value : Nat
  low : Nat
  high : Nat
  /-- The binary exponent of one quarter. -/
  exponent : Int
  closed : Bool

/-- The interval of a finite positive number, given by its fields. -/
def Interval.ofFields (fraction biased : Nat) : Interval :=
  let mantissa := if biased = 0 then fraction else fraction + (1 <<< 52)
  let exponent : Int := (if biased = 0 then 1 else (biased : Int)) - 1075
  { value := 4 * mantissa
    -- below a power of two the neighbours lie twice as dense
    low := 4 * mantissa - (if fraction = 0 ∧ 1 < biased then 1 else 2)
    high := 4 * mantissa + 2
    exponent := exponent - 2
    closed := mantissa % 2 = 0 }

def Interval.contains (interval : Interval) (digits : Nat) (place : Int) : Bool :=
  let low := (Ratio.ofBinary interval.low interval.exponent).scaled place
  let high := (Ratio.ofBinary interval.high interval.exponent).scaled place
  let scaled := digits * low.denominator
  if interval.closed then
    low.numerator ≤ scaled && scaled ≤ high.numerator
  else
    low.numerator < scaled && scaled < high.numerator

/-- The decimal with its last digit at `place` that is nearest to the number and
lies in the interval. -/
def Interval.nearestAt (interval : Interval) (place : Int) : Option Nat :=
  let ratio := (Ratio.ofBinary interval.value interval.exponent).scaled place
  let below := ratio.numerator / ratio.denominator
  let excess := 2 * (ratio.numerator % ratio.denominator)
  -- of two equally near the even one is tried first
  let nearest :=
    if excess < ratio.denominator ∨ (excess = ratio.denominator ∧ below % 2 = 0) then
      [below, below + 1]
    else
      [below + 1, below]
  nearest.find? fun digits => interval.contains digits place

def trimZeros : Nat → Nat → Int → Nat × Int
  | 0, digits, place => (digits, place)
  | fuel + 1, digits, place =>
      if digits % 10 = 0 ∧ digits ≠ 0 then trimZeros fuel (digits / 10) (place + 1)
      else (digits, place)

/-- The digits of the shortest decimal in the interval, and the exponent of the last. -/
def Interval.shortest (interval : Interval) : Nat × Int :=
  let magnitude := (Ratio.ofBinary interval.value interval.exponent).magnitude
  -- seventeen digits always suffice
  let found := (List.range 17).findSome? fun (count : Nat) =>
    let place := magnitude - count
    (interval.nearestAt place).map fun digits => (digits, place)
  match found with
  | some (digits, place) => trimZeros 20 digits place
  | none => (0, 0)

/-- Where the notation of a decimal changes, and how its parts are written: the
point stands inside or beside the digits while the leading digit's exponent lies
strictly between `smallest` and `largest`, and an exponent is written outside. -/
structure Notation where
  smallest : Int
  largest : Int

def Notation.text (style : Notation) (digits : Nat) (place : Int) : String :=
  let written := toString digits
  let point := (written.length : Int) + place
  if style.smallest < point ∧ point < style.largest then
    if 0 ≤ place then
      written ++ "".pushn '0' place.toNat ++ ".0"
    else if 0 < point then
      let whole := written.take point.toNat
      let rest := written.drop point.toNat
      whole.toString ++ "." ++ rest.toString
    else
      "0." ++ "".pushn '0' (-point).toNat ++ written
  else
    let exponent := toString (point - 1)
    match written.toList with
    | [only] => only.toString ++ "e" ++ exponent
    | first :: rest => first.toString ++ "." ++ String.ofList rest ++ "e" ++ exponent
    | [] => ""

def Notation.textOf (style : Notation) (value : Float) : String :=
  let bits := value.toBits.toNat
  let sign := if bits >>> 63 = 1 then "-" else ""
  let biased := bits >>> 52 % 2048
  let fraction := bits % (1 <<< 52)
  if biased = 0 ∧ fraction = 0 then
    sign ++ "0.0"
  else
    let (digits, place) := (Interval.ofFields fraction biased).shortest
    sign ++ style.text digits place

end TenantGuard.Decimal
