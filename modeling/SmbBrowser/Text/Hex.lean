/-! Hexadecimal numerals padded to a least width, and the characters that codes name. -/

namespace SmbBrowser.Text

/-- A numeral in lower-case hexadecimal with at least `width` digits. -/
def hex (width value : Nat) : String :=
  -- Zeros fill the places that the digits leave free.
  let digits := Nat.toDigits 16 value
  String.ofList (List.replicate (width - digits.length) '0' ++ digits)

/-- A numeral in upper-case hexadecimal with at least `width` digits. -/
def upperHex (width value : Nat) : String :=
  String.ofList ((hex width value).toList.map Char.toUpper)

/-- The value of one hexadecimal digit, in either case. -/
def hexDigit? (c : Char) : Option Nat :=
  if '0' ≤ c ∧ c ≤ '9' then some (c.toNat - '0'.toNat)
  else if 'a' ≤ c ∧ c ≤ 'f' then some (c.toNat - 'a'.toNat + 10)
  else if 'A' ≤ c ∧ c ≤ 'F' then some (c.toNat - 'A'.toNat + 10)
  else none

/-- The character with a given code, if the code is one. -/
def charOfCode? (code : Nat) : Option Char :=
  if valid : code.isValidChar then some (Char.ofNatAux code valid) else none

end SmbBrowser.Text
