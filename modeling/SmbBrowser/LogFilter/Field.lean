import SmbBrowser.LogFilter.Pattern.Reader

/-! Fields of spans: a name, and behind an equals sign the number or the pattern its value must match. -/

namespace SmbBrowser.LogFilter

/-- Nothing, or an exponent with at least one digit. -/
def isExponent : List Char → Bool
  | [] => true
  | mark :: rest =>
    let digits := match rest with
      | '+' :: digits => digits
      | '-' :: digits => digits
      | digits => digits
    (mark = 'e' || mark = 'E') && !digits.isEmpty && digits.all Char.isDigit

/-- Digits with a point somewhere among or around them, or without one, and perhaps an exponent. -/
def isDecimal (word : List Char) : Bool :=
  let rest := word.dropWhile Char.isDigit
  let (hasFraction, rest) := match rest with
    | '.' :: rest => ((rest.head?.map Char.isDigit).getD false, rest.dropWhile Char.isDigit)
    | rest => (false, rest)
  ((word.head?.map Char.isDigit).getD false || hasFraction) && isExponent rest

/-- A number with or without sign; infinity and the lack of a number are spelled as words. -/
def isNumber (word : List Char) : Bool :=
  let unsigned := match word with
    | '+' :: rest => rest
    | '-' :: rest => rest
    | rest => rest
  ["inf", "infinity", "nan"].contains (String.ofList (unsigned.map Char.toLower))
    || isDecimal unsigned

/-- A value is a number or a pattern that can be used. -/
def isFieldValue (value : List Char) : Bool :=
  isNumber value || (Pattern.parse? value).any Pattern.isUsable

/-- A field is anything with a value between its first two equals signs, or without equals sign. -/
def isField (field : List Char) : Bool :=
  match field.dropWhile (· ≠ '=') with
  | [] => true
  | _ :: rest => isFieldValue (rest.takeWhile (· ≠ '='))

end SmbBrowser.LogFilter
