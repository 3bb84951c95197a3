import TenantGuard.Decimal.Nearest
import TenantGuard.Yaml.Character

/-!
# What scalars say

Plain scalars of certain forms are null, truth values or numbers.  Whole numbers
may be written in base ten, sixteen, eight or two; in base ten a leading zero
makes a text of them.
-/

namespace TenantGuard.Yaml.Scalar

/-- The tag of a kind of value. -/
def coreTag (kind : String) : String :=
  "tag:yaml.org,2002:" ++ kind

def isNull (text : String) : Bool :=
  text = "null" || text = "Null" || text = "NULL" || text = "~"

def bool? (text : String) : Option Bool :=
  if text = "true" || text = "True" || text = "TRUE" then some true
  else if text = "false" || text = "False" || text = "FALSE" then some false
  else none

/-- The number that digits write in a base. -/
def numeral? (base : Nat) (digits : List Char) : Option Nat := do
  let values ← digits.mapM hexDigit?
  if !values.isEmpty && values.all (· < base) then
    some (values.foldl (fun number digit => base * number + digit) 0)
  else none

/-- Whether digits have a leading zero that is not the only digit. -/
def isPadded (digits : List Char) : Bool :=
  digits.length > 1 && digits.head? = some '0' && digits.all Char.isDigit

/-- A whole number without a sign. -/
def magnitude? : List Char → Option Nat
  | '0' :: 'x' :: digits => numeral? 16 digits
  | '0' :: 'o' :: digits => numeral? 8 digits
  | '0' :: 'b' :: digits => numeral? 2 digits
  | digits => if isPadded digits then none else numeral? 10 digits

/-- A whole number that cannot be written with a minus sign. -/
def natural? (text : String) : Option Nat :=
  match text.toList with
  | '+' :: rest => magnitude? rest
  | rest => magnitude? rest

def integer? (text : String) : Option Int :=
  match text.toList with
  | '-' :: rest => (magnitude? rest).map fun number => -(number : Int)
  | _ => (natural? text).map Int.ofNat

/-- The exponent after the digits of a decimal. -/
def exponent? : List Char → Option Int
  | [] => some 0
  | letter :: rest =>
      if letter = 'e' || letter = 'E' then
        match rest with
        | '-' :: digits => (numeral? 10 digits).map fun number => -(number : Int)
        | '+' :: digits => (numeral? 10 digits).map Int.ofNat
        | digits => (numeral? 10 digits).map Int.ofNat
      else none

/-- A decimal without a sign: digits with at most one point among or beside
them, and perhaps an exponent. -/
def decimal? (text : List Char) : Option Float := do
  let whole := text.takeWhile Char.isDigit
  let (fraction, rest) :=
    match text.dropWhile Char.isDigit with
    | '.' :: rest => (rest.takeWhile Char.isDigit, rest.dropWhile Char.isDigit)
    | rest => ([], rest)
  let digits ← numeral? 10 (whole ++ fraction)
  let exponent ← exponent? rest
  let number := Decimal.nearest digits (exponent - fraction.length)
  if number.isFinite then some number else none

/-- A number with a point or an exponent, an infinity, or what is no number.
Decimals beyond the range of numbers are none. -/
def real? (text : String) : Option Float :=
  if [".nan", ".NaN", ".NAN"].contains text then some (0.0 / 0.0)
  else if [".inf", ".Inf", ".INF", "+.inf", "+.Inf", "+.INF"].contains text then
    some (1.0 / 0.0)
  else if ["-.inf", "-.Inf", "-.INF"].contains text then some (-1.0 / 0.0)
  else
    match text.toList with
    | '-' :: rest => (decimal? rest).map fun number => -number
    | '+' :: rest => decimal? rest
    | rest => decimal? rest

/-- Whether the text is digits, after a sign, that no number begins with. -/
def isPaddedNumber (text : String) : Bool :=
  match text.toList with
  | '-' :: rest => isPadded rest
  | '+' :: rest => isPadded rest
  | rest => isPadded rest

end TenantGuard.Yaml.Scalar
