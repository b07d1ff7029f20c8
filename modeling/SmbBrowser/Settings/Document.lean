import SmbBrowser.Settings
import SmbBrowser.Text.Hex

/-! Settings documents: lines that assign whole numbers and truth values to names, and comments. -/

namespace SmbBrowser.Settings

/-- What a line may assign to a name. -/
inductive Value where
  | integer (value : Int)
  | boolean (value : Bool)
  deriving DecidableEq

namespace Document

/-- A space or a tab. -/
def isSpace (c : Char) : Bool := c = ' ' || c = '\t'

/-- A document may hold a tab and every character from the space on, save the delete character. -/
def isPlain (c : Char) : Bool := c = '\t' || (0x20 ≤ c.toNat && c.toNat ≠ 0x7f)

/-- The rest of a line from its first character that is no space. -/
def skipSpace (line : List Char) : List Char := line.dropWhile isSpace

/-- A name without quotes is made of letters, digits, underscores and dashes. -/
def isBare (c : Char) : Bool := c.isAlphanum || c = '_' || c = '-'

/-- The value of a row of hexadecimal digits. -/
def hexValue? (digits : List Char) : Option Nat :=
  digits.foldlM (fun value c => (Text.hexDigit? c).map (16 * value + ·)) 0

/-- A name between double quotes, behind its opening quote, and what follows it. -/
def quotedName? : List Char → Option (List Char × List Char)
  | [] => none
  | '"' :: rest => some ([], rest)
  | '\\' :: 'u' :: a :: b :: c :: d :: rest => do
    let char ← Text.charOfCode? (← hexValue? [a, b, c, d])
    return (← quotedName? rest).map (char :: ·) id
  | '\\' :: 'U' :: a :: b :: c :: d :: e :: f :: g :: h :: rest => do
    let char ← Text.charOfCode? (← hexValue? [a, b, c, d, e, f, g, h])
    return (← quotedName? rest).map (char :: ·) id
  | '\\' :: c :: rest => do
    let char ← [('b', '\x08'), ('t', '\t'), ('n', '\n'), ('f', '\x0c'), ('r', '\r'), ('"', '"'),
      ('\\', '\\')].lookup c
    return (← quotedName? rest).map (char :: ·) id
  | c :: rest => if isPlain c then (quotedName? rest).map (·.map (c :: ·) id) else none

/-- A name between single quotes, behind its opening quote, and what follows it. -/
def literalName? : List Char → Option (List Char × List Char)
  | [] => none
  | '\'' :: rest => some ([], rest)
  | c :: rest => if isPlain c then (literalName? rest).map (·.map (c :: ·) id) else none

/-- The name at the front of a line, in any of its three forms. -/
def name? : List Char → Option (List Char × List Char)
  | '"' :: rest => quotedName? rest
  | '\'' :: rest => literalName? rest
  | line =>
    match line.takeWhile isBare with
    | [] => none
    | name => some (name, line.dropWhile isBare)

/-- Single underscores may stand between digits. -/
def digits? (isDigit : Char → Bool) : List Char → Option (List Char)
  | [] => none
  | [c] => if isDigit c then some [c] else none
  | c :: '_' :: rest => if isDigit c then (digits? isDigit rest).map (c :: ·) else none
  | c :: rest => if isDigit c then (digits? isDigit rest).map (c :: ·) else none

/-- The value of digits below a base. -/
def radixValue? (base : Nat) (numeral : List Char) : Option Nat := do
  let digits ← digits? (fun c => (Text.hexDigit? c).any (· < base)) numeral
  digits.foldlM (fun value c => (Text.hexDigit? c).map (base * value + ·)) 0

/-- A decimal numeral has no zero in front of other digits. -/
def decimalValue? : List Char → Option Nat
  | '0' :: _ :: _ => none
  | numeral => radixValue? 10 numeral

/-- A whole number: signed decimal, or unsigned behind the mark of its base. -/
def integer? : List Char → Option Int
  | '0' :: 'x' :: numeral => (radixValue? 16 numeral).map Int.ofNat
  | '0' :: 'o' :: numeral => (radixValue? 8 numeral).map Int.ofNat
  | '0' :: 'b' :: numeral => (radixValue? 2 numeral).map Int.ofNat
  | '-' :: numeral => (decimalValue? numeral).map fun value => -(value : Int)
  | '+' :: numeral => (decimalValue? numeral).map Int.ofNat
  | numeral => (decimalValue? numeral).map Int.ofNat

/-- The largest whole number of a document, which has sixty-four bits with sign. -/
def maxInteger : Nat := 9223372036854775807

/-- The whole numbers of a document have sixty-four bits with sign. -/
def inRange (value : Int) : Bool := -maxInteger - 1 ≤ value && value ≤ maxInteger

/-- A truth value or a whole number. -/
def value? (word : List Char) : Option Value :=
  if word = "true".toList then some (.boolean true)
  else if word = "false".toList then some (.boolean false)
  else (integer? word).bind fun value => if inRange value then some (.integer value) else none

/-- Nothing but spaces and a comment. -/
def isIdle (line : List Char) : Bool :=
  match skipSpace line with
  | [] => true
  | '#' :: comment => comment.all isPlain
  | _ => false

/-- A word ends at a space or at a comment. -/
def isWord (c : Char) : Bool := !isSpace c && c ≠ '#'

/-- What a line assigns, if it assigns anything. -/
def line? (line : List Char) : Option (Option (String × Value)) :=
  if isIdle line then some none
  else do
    let (name, rest) ← name? (skipSpace line)
    match skipSpace rest with
    | '=' :: rest => do
      let rest := skipSpace rest
      let value ← value? (rest.takeWhile isWord)
      if isIdle (rest.dropWhile isWord) then
        return some (String.ofList name, value)
      else none
    | _ => none

/-- The lines of a text; a carriage return may stand in front of a line feed. -/
def lines : List Char → List (List Char)
  | [] => [[]]
  | '\r' :: '\n' :: rest => [] :: lines rest
  | '\n' :: rest => [] :: lines rest
  | c :: rest =>
    match lines rest with
    | [] => [[c]]
    | line :: more => (c :: line) :: more

/-- Everything a document assigns, in order. -/
def assignments? (text : String) : Option (List (String × Value)) := do
  let chars := match text.toList with
    -- A byte order mark may stand in front of everything.
    | '\uFEFF' :: rest => rest
    | chars => chars
  let assigned ← (lines chars).mapM line?
  return assigned.filterMap id

end Document

/-- The whole number below `bound` that a value holds, if it holds one. -/
def Value.below? (bound : Nat) : Value → Option Nat
  | .integer value => if 0 ≤ value ∧ value < bound then some value.toNat else none
  | .boolean _ => none

/-- The truth value that a value holds, if it holds one. -/
def Value.boolean? : Value → Option Bool
  | .boolean value => some value
  | .integer _ => none

/-- The settings with one of them changed; the value must be of the right sort and size. -/
def assign? (settings : Settings) : String × Value → Option Settings
  | ("list_count", value) =>
    (value.below? UInt16.size).map fun n => { settings with listCount := n.toUInt16 }
  | ("list_size", value) =>
    (value.below? UInt32.size).map fun n => { settings with listSize := n.toUInt32 }
  | ("max_buffer_size", value) =>
    (value.below? UInt64.size).map fun n => { settings with maxBufferSize := n.toUInt64 }
  | ("buffer_cache_size", value) =>
    (value.below? UInt64.size).map fun n => { settings with bufferCacheSize := n.toUInt64 }
  | ("trace_resource_usage", value) =>
    value.boolean?.map fun b => { settings with traceResourceUsage := b }
  | _ => none

/-- The settings a document assigns over the defaults; no name may be assigned twice. -/
def read? (text : String) : Option Settings := do
  let assigned ← Document.assignments? text
  guard (assigned.map (·.1)).Nodup
  assigned.foldlM assign? {}

/-- The usable settings of a text; `path` tells where the text came from. -/
def parse (path : Option String) (text : String) : Except SettingsFault Settings :=
  match read? text with
  | none => .error (.malformed path)
  | some settings => settings.validate.map fun () => settings

/-- One line of a document. -/
def renderLine (name value : String) : String := name ++ " = " ++ value ++ "\n"

/-- Settings as a document; a document cannot hold a number of sixty-four bits without sign. -/
def render (settings : Settings) : Except SettingsFault String :=
  if Document.maxInteger < settings.maxBufferSize.toNat
      ∨ Document.maxInteger < settings.bufferCacheSize.toNat then
    .error .unwritable
  else
    .ok (renderLine "list_count" (toString settings.listCount.toNat)
      ++ renderLine "list_size" (toString settings.listSize.toNat)
      ++ renderLine "max_buffer_size" (toString settings.maxBufferSize.toNat)
      ++ renderLine "buffer_cache_size" (toString settings.bufferCacheSize.toNat)
      ++ renderLine "trace_resource_usage" (if settings.traceResourceUsage then "true" else "false"))

end SmbBrowser.Settings
