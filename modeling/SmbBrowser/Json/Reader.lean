import SmbBrowser.Json
import SmbBrowser.Json.Numeral
import SmbBrowser.Text.Hex

/-! Reading JSON text: every reader takes a value from the front and returns what follows it. -/

namespace SmbBrowser.Json

/-- The four characters that may stand between the parts of a value. -/
def isSpace (c : Char) : Bool := c = ' ' || c = '\t' || c = '\n' || c = '\r'

/-- The input from its first character that is no space. -/
def skipSpace (input : List Char) : List Char := input.dropWhile isSpace

/-- One unit of a text between quotes: a character, or the code of a `\u` escape. -/
inductive TextUnit where
  | char (c : Char)
  | code (value : Nat)

/-- The value of four hexadecimal digits. -/
def hexQuad? (a b c d : Char) : Option Nat := do
  let a ← Text.hexDigit? a
  let b ← Text.hexDigit? b
  let c ← Text.hexDigit? c
  let d ← Text.hexDigit? d
  return ((a * 16 + b) * 16 + c) * 16 + d

/-- The character a one-letter escape stands for. -/
def shortEscape? : Char → Option Char
  | '"' => some '"'
  | '\\' => some '\\'
  | '/' => some '/'
  | 'b' => some '\x08'
  | 'f' => some '\x0c'
  | 'n' => some '\n'
  | 'r' => some '\r'
  | 't' => some '\t'
  | _ => none

/-- The units up to the closing quote; a control character may only stand there as an escape. -/
def readUnits : List Char → Option (List TextUnit × List Char)
  | [] => none
  | '"' :: rest => some ([], rest)
  | '\\' :: 'u' :: a :: b :: c :: d :: rest =>
    match hexQuad? a b c d with
    | none => none
    | some code => (readUnits rest).map fun (units, rest) => (.code code :: units, rest)
  | '\\' :: c :: rest =>
    match shortEscape? c with
    | none => none
    | some c => (readUnits rest).map fun (units, rest) => (.char c :: units, rest)
  | c :: rest =>
    if c.toNat < 0x20 then none
    else (readUnits rest).map fun (units, rest) => (.char c :: units, rest)

/-- The first half of a surrogate pair. -/
def isHighSurrogate (code : Nat) : Bool := 0xD800 ≤ code && code < 0xDC00

/-- The second half of a surrogate pair. -/
def isLowSurrogate (code : Nat) : Bool := 0xDC00 ≤ code && code < 0xE000

/-- The characters that units stand for; half of a surrogate pair stands for none. -/
def joinUnits : List TextUnit → Option (List Char)
  | [] => some []
  | .char c :: rest => (joinUnits rest).map (c :: ·)
  | .code high :: .code low :: rest =>
    if isHighSurrogate high then
      -- Two halves in the right order make one character beyond the first sixteen bits.
      if isLowSurrogate low then
        (joinUnits rest).map (Char.ofNat (0x10000 + (high - 0xD800) * 0x400 + (low - 0xDC00)) :: ·)
      else none
    else if isLowSurrogate high then none
    else (joinUnits (.code low :: rest)).map (Char.ofNat high :: ·)
  | .code code :: rest =>
    if isHighSurrogate code || isLowSurrogate code then none
    else (joinUnits rest).map (Char.ofNat code :: ·)

/-- A text, behind its opening quote. -/
def readText (input : List Char) : Option (Option String × List Char) :=
  (readUnits input).map fun (units, rest) => ((joinUnits units).map String.ofList, rest)

/-- The digits at the front; there must be one. -/
def readDigits (input : List Char) : Option (List Char × List Char) :=
  match input.takeWhile Char.isDigit with
  | [] => none
  | digits => some (digits, input.dropWhile Char.isDigit)

/-- The whole part of a number: a zero stands alone. -/
def readWhole : List Char → Option (List Char × List Char)
  | '0' :: rest => some (['0'], rest)
  | input => readDigits input

/-- The digits behind a point, if there is a point. -/
def readFraction : List Char → Option (Option (List Char) × List Char)
  | '.' :: rest => (readDigits rest).map fun (digits, rest) => (some digits, rest)
  | input => some (none, input)

/-- The sign and the digits of an exponent, if there is one. -/
def readExponent : List Char → Option (Option (Bool × List Char) × List Char)
  | [] => some (none, [])
  | e :: rest =>
    if e = 'e' || e = 'E' then
      let (negative, rest) := match rest with
        | '-' :: rest => (true, rest)
        | '+' :: rest => (false, rest)
        | rest => (false, rest)
      (readDigits rest).map fun (digits, rest) => (some (negative, digits), rest)
    else some (none, e :: rest)

/-- The parts of a number. -/
def readNumeral (input : List Char) : Option (Numeral × List Char) := do
  let (negative, rest) := match input with
    | '-' :: rest => (true, rest)
    | rest => (false, rest)
  let (whole, rest) ← readWhole rest
  let (fraction, rest) ← readFraction rest
  let (exponent, rest) ← readExponent rest
  return ({ negative, whole, fraction, exponent }, rest)

/-- A number: its value if it is a row of digits for sixty-four bits, else its spelling. -/
def readNumber (input : List Char) : Option (Json × List Char) := do
  let (numeral, rest) ← readNumeral input
  let value := digitsValue numeral.whole
  if numeral.isNatural && value < UInt64.size then
    return (.natural value, rest)
  else
    -- The spelling is what the reader took from the front.
    return (.decimal (String.ofList (input.take (input.length - rest.length))), rest)

/-- The rest of the input behind a word that must stand at its front. -/
def expect (word : String) (input : List Char) : Option (List Char) :=
  word.toList.isPrefixOf? input

/-- Items with commas between them up to the closing character; `budget` bounds their number. -/
def readItems {α : Type} (item : List Char → Option (α × List Char)) (close : Char) :
    Nat → List Char → Option (List α × List Char)
  | 0, _ => none
  | budget + 1, input =>
    match item input with
    | none => none
    | some (value, rest) =>
      match skipSpace rest with
      | [] => none
      | c :: rest =>
        if c = close then some ([value], rest)
        else if c = ',' then
          (readItems item close budget rest).map fun (values, rest) => (value :: values, rest)
        else none

/-- The items of a container, behind its opening character. -/
def readContainer {α : Type} (item : List Char → Option (α × List Char)) (close : Char)
    (input : List Char) : Option (List α × List Char) :=
  match skipSpace input with
  | [] => none
  | c :: rest =>
    if c = close then some ([], rest)
    -- Every item takes a character, so the length bounds their number.
    else readItems item close (c :: rest).length (c :: rest)

/-- A key, a colon and a value. -/
def readMember (value : List Char → Option (Json × List Char)) (input : List Char) :
    Option ((Option String × Json) × List Char) :=
  match skipSpace input with
  | '"' :: rest => do
    let (key, rest) ← readText rest
    match skipSpace rest with
    | ':' :: rest => do
      let (member, rest) ← value rest
      return ((key, member), rest)
    | _ => none
  | _ => none

/-- A value with at most `levels` containers inside each other, and the spaces in front of it. -/
def readValue : Nat → List Char → Option (Json × List Char)
  | levels, input =>
    match skipSpace input with
    | '"' :: rest => (readText rest).map fun (content, rest) => (.text content, rest)
    | '[' :: rest =>
      match levels with
      | 0 => none
      | levels + 1 =>
        (readContainer (readValue levels) ']' rest).map fun (items, rest) => (.array items, rest)
    | '\x7b' :: rest =>
      match levels with
      | 0 => none
      | levels + 1 =>
        (readContainer (readMember (readValue levels)) '\x7d' rest).map
          fun (members, rest) => (.object members, rest)
    | 'n' :: rest => (expect "ull" rest).map fun rest => (.null, rest)
    | 't' :: rest => (expect "rue" rest).map fun rest => (.bool true, rest)
    | 'f' :: rest => (expect "alse" rest).map fun rest => (.bool false, rest)
    | input => readNumber input

/-- The value a text spells, with nothing but spaces around it. -/
def parse? (input : String) : Option Json :=
  let chars := input.toList
  -- No value nests deeper than its text is long.
  match readValue chars.length chars with
  | some (json, rest) => if skipSpace rest = [] then some json else none
  | none => none

end SmbBrowser.Json
