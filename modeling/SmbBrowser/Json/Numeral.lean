/-! Decimal numerals: reading digits, and which numerals a 64-bit float can hold. -/

namespace SmbBrowser.Json

/-- The value of a row of decimal digits, most significant first. -/
def digitsValue (digits : List Char) : Nat :=
  digits.foldl (fun value c => 10 * value + (c.toNat - '0'.toNat)) 0

/-- A number written as its sign, whole part, fraction and exponent. -/
structure Numeral where
  /-- A minus sign stands in front. -/
  negative : Bool
  /-- The digits in front of the point. -/
  whole : List Char
  /-- The digits behind the point, if there is a point. -/
  fraction : Option (List Char)
  /-- Whether the exponent is negative, and its digits, if there is an exponent. -/
  exponent : Option (Bool × List Char)

namespace Numeral

/-- A numeral of digits alone. -/
def isNatural (numeral : Numeral) : Bool :=
  !numeral.negative && numeral.fraction.isNone && numeral.exponent.isNone

/-- Takes digits on top of a value while it stays below sixty-four bits; the digits left over follow. -/
def absorb : Nat → List Char → Nat × List Char
  | value, [] => (value, [])
  | value, c :: rest =>
    let next := 10 * value + (c.toNat - '0'.toNat)
    if next < UInt64.size then absorb next rest else (value, c :: rest)

/-- The digits that count, as one whole number, and the power of ten it counts in. -/
def scaled (numeral : Numeral) : Nat × Int :=
  let fraction := numeral.fraction.getD []
  let (value, dropped) := absorb 0 numeral.whole
  let (value, ignored) := absorb value fraction
  let shift : Int := match numeral.exponent with
    | none => 0
    | some (true, digits) => -(digitsValue digits : Int)
    | some (false, digits) => digitsValue digits
  -- A digit dropped in front of the point still counts ten times, one behind it does not count.
  (value, dropped.length - (fraction.length - ignored.length : Nat) + shift)

/-- A whole number rounded to the fifty-three bits of a float; a tie goes to the even neighbour. -/
def roundToFloat (value : Nat) : Nat :=
  let unit := Nat.pow 2 (value.log2 + 1 - 53)
  let quotient := value / unit
  let remainder := 2 * (value % unit)
  let isUp := unit < remainder || (remainder = unit && quotient % 2 = 1)
  (if isUp then quotient + 1 else quotient) * unit

/-- The least whole number that rounds to infinity as a 64-bit float. -/
def floatLimit : Nat := Nat.pow 2 1024 - Nat.pow 2 970

/-- The largest power of ten that is a 64-bit float. -/
def maxScale : Int := 308

/-- A numeral fits a 64-bit float when the product of its two rounded factors does. -/
def isFinite (numeral : Numeral) : Bool :=
  let (value, scale) := numeral.scaled
  if value = 0 || scale < 0 then true
  else if maxScale < scale then false
  else roundToFloat value * roundToFloat (Nat.pow 10 scale.toNat) < floatLimit

end Numeral

end SmbBrowser.Json
