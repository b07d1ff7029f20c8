import SmbBrowser.Command

/-! The words of a command line, in whatever order they come. -/

namespace SmbBrowser

/-- What the words of a command line say. -/
structure Arguments where
  /-- Where the settings are to be looked for. -/
  settingsPath : Option String := none
  /-- What is to be logged. -/
  logFilter : Option String := none
  /-- The name of the command. -/
  command : Option String := none
  /-- Where the transcript is to be looked for. -/
  transcriptPath : Option String := none
  /-- The rest of what is asked of a replay. -/
  replay : ReplayOptions := { transcript := .missing }

namespace Arguments

/-- An option and its value may come as one word, with an equals sign between them. -/
def splitWord (word : String) : List String :=
  let chars := word.toList
  let name := chars.takeWhile (· ≠ '=')
  if "--".toList.isPrefixOf chars && name.length < chars.length then
    [String.ofList name, String.ofList (chars.drop (name.length + 1))]
  else [word]

/-- Takes a word that is no option: the command first, then the transcript. -/
def accept (arguments : Arguments) (word : String) : Option Arguments :=
  match arguments.command, arguments.transcriptPath with
  | none, _ => some { arguments with command := some word }
  | some "replay", none => some { arguments with transcriptPath := some word }
  | _, _ => none

/-- The format of a name. -/
def format? : String → Option RowFormat
  | "text" => some .text
  | "json" => some .json
  | _ => none

/-- The arguments with an option set, if there is such an option. -/
def set? (arguments : Arguments) (option value : String) : Option Arguments :=
  let replay := arguments.replay
  match option with
  | "--config" => some { arguments with settingsPath := some value }
  | "--log" => some { arguments with logFilter := some value }
  | "--target" => some { arguments with replay := { replay with target := value } }
  | "--pattern" => some { arguments with replay := { replay with pattern := value } }
  | "--oem-domain" => some { arguments with replay := { replay with oemDomain := value } }
  | "--format" => do
    let format ← format? value
    return { arguments with replay := { replay with format } }
  | _ => none

/-- Reads the words one after the other; the first that makes no sense is given back. -/
def read (arguments : Arguments) : List String → Except String Arguments
  | [] => .ok arguments
  | "--workgroup" :: words =>
    read { arguments with replay := { arguments.replay with workgroup := true } } words
  | "--trace" :: words =>
    read { arguments with replay := { arguments.replay with trace := true } } words
  | word :: words =>
    if word.toList.head? = some '-' then
      match words with
      | [] => .error word
      | value :: words =>
        match arguments.set? word value with
        | some arguments => read arguments words
        | none => .error word
    else
      match arguments.accept word with
      | some arguments => read arguments words
      | none => .error word

/-- What the words of a command line say, or the first word that makes no sense. -/
def parse (words : List String) : Except String Arguments := read {} (words.flatMap splitWord)

end Arguments

end SmbBrowser
