import SmbBrowser.Settings.Document

/-! Settings files: what may be found at a path, and the settings that follow from it. -/

namespace SmbBrowser

/-- What is found at a path. -/
inductive FileContent where
  /-- Nothing is there. -/
  | missing
  /-- A directory is there. -/
  | directory
  /-- Something is there that cannot be read. -/
  | unreadable (cause : String)
  /-- A file of bytes is there. -/
  | bytes (content : ByteArray)

namespace FileContent

/-- The text of a file, or why there is none. -/
def text : FileContent → Except String String
  | .missing => .error "No such file or directory (os error 2)"
  | .directory => .error "Is a directory (os error 21)"
  | .unreadable cause => .error cause
  | .bytes content =>
    match String.fromUTF8? content with
    | some text => .ok text
    | none => .error "stream did not contain valid UTF-8"

end FileContent

/-- The settings found at a path: a missing file means the defaults. -/
def Settings.load (path : String) (content : FileContent) : Except SettingsFault Settings :=
  match content with
  | .missing => .ok {}
  | content =>
    match content.text with
    | .error cause => .error (.unreadable path cause)
    | .ok text => parse (some path) text

end SmbBrowser
