import SmbBrowser.Json
import SmbBrowser.Text.Hex

/-! Writing JSON text, on one line or indented: every writer puts a value in front of what follows. -/

namespace SmbBrowser.Json

/-- One character of a text: quotes, backslashes and control characters are escaped, all else is not. -/
def escapeChar (c : Char) : List Char :=
  if c = '"' then ['\\', '"']
  else if c = '\\' then ['\\', '\\']
  else if c = '\x08' then ['\\', 'b']
  else if c = '\x0c' then ['\\', 'f']
  else if c = '\n' then ['\\', 'n']
  else if c = '\r' then ['\\', 'r']
  else if c = '\t' then ['\\', 't']
  else if c.toNat < 0x20 then '\\' :: 'u' :: (Text.hex 4 c.toNat).toList
  else [c]

/-- A text between quotes; one that is no string is written as half of a surrogate pair. -/
def writeText (content : Option String) (rest : List Char) : List Char :=
  match content with
  | some content => '"' :: (content.toList.flatMap escapeChar ++ '"' :: rest)
  | none => "\"\\ud800\"".toList ++ rest

mutual
/-- A value on one line. -/
def write : Json → List Char → List Char
  | .null, rest => "null".toList ++ rest
  | .bool true, rest => "true".toList ++ rest
  | .bool false, rest => "false".toList ++ rest
  | .natural value, rest => (toString value).toList ++ rest
  | .decimal lexeme, rest => lexeme.toList ++ rest
  | .text content, rest => writeText content rest
  | .array items, rest => '[' :: writeItems items (']' :: rest)
  | .object members, rest => '\x7b' :: writeMembers members ('\x7d' :: rest)

/-- Values with commas between them. -/
def writeItems : List Json → List Char → List Char
  | [], rest => rest
  | [item], rest => write item rest
  | item :: next :: items, rest => write item (',' :: writeItems (next :: items) rest)

/-- Members with commas between them. -/
def writeMembers : List (Option String × Json) → List Char → List Char
  | [], rest => rest
  | [(key, value)], rest => writeText key (':' :: write value rest)
  | (key, value) :: next :: members, rest =>
    writeText key (':' :: write value (',' :: writeMembers (next :: members) rest))
end

/-- The text of a value, on one line. -/
def compact (json : Json) : String := String.ofList (json.write [])

/-- An object with its members in ascending order of their keys. -/
def sortKeys : Json → Json
  | .object members =>
    .object (members.mergeSort fun first second => decide (first.1.getD "" ≤ second.1.getD ""))
  | json => json

/-- A line break and `depth` steps of two spaces. -/
def newLine (depth : Nat) : List Char := '\n' :: List.replicate (2 * depth) ' '

mutual
/-- A value whose parts stand on lines of their own, `depth` steps from the margin. -/
def writePretty (depth : Nat) : Json → List Char → List Char
  | .array [], rest => '[' :: ']' :: rest
  | .array items, rest =>
    '[' :: writePrettyItems (depth + 1) items (newLine depth ++ ']' :: rest)
  | .object [], rest => '\x7b' :: '\x7d' :: rest
  | .object members, rest =>
    '\x7b' :: writePrettyMembers (depth + 1) members (newLine depth ++ '\x7d' :: rest)
  | json, rest => write json rest

/-- Values on lines of their own. -/
def writePrettyItems (depth : Nat) : List Json → List Char → List Char
  | [], rest => rest
  | [item], rest => newLine depth ++ writePretty depth item rest
  | item :: next :: items, rest =>
    newLine depth ++ writePretty depth item (',' :: writePrettyItems depth (next :: items) rest)

/-- Members on lines of their own. -/
def writePrettyMembers (depth : Nat) : List (Option String × Json) → List Char → List Char
  | [], rest => rest
  | [(key, value)], rest =>
    newLine depth ++ writeText key (':' :: ' ' :: writePretty depth value rest)
  | (key, value) :: next :: members, rest =>
    newLine depth ++ writeText key
      (':' :: ' ' :: writePretty depth value (',' :: writePrettyMembers depth (next :: members) rest))
end

/-- The text of a value, indented. -/
def pretty (json : Json) : String := String.ofList (json.writePretty 0 [])

end SmbBrowser.Json
