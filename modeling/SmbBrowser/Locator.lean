import SmbBrowser.Entry
import SmbBrowser.Fault
import SmbBrowser.Text.Blank
import SmbBrowser.Text.Quoted

/-!
Addresses of places on a network, each in two notations: a URL for the user, and for the server a
path inside a share.
-/

namespace SmbBrowser

/-- What a locator points at. -/
inductive LocatorKind where
  /-- The whole network. -/
  | root
  /-- A workgroup or domain. -/
  | workgroup
  /-- A server. -/
  | server
  /-- The top directory of a share. -/
  | share
  /-- A directory inside a share. -/
  | directory
  /-- A file inside a share. -/
  | file
  deriving DecidableEq, Inhabited

/-- The kind's name as a title. -/
def LocatorKind.title : LocatorKind → String
  | .root => "Root"
  | .workgroup => "Workgroup"
  | .server => "Server"
  | .share => "Share"
  | .directory => "Directory"
  | .file => "File"

/-- Every kind, from the outermost to the innermost. -/
def LocatorKind.all : List LocatorKind := [.root, .workgroup, .server, .share, .directory, .file]

/-- The address of a place. -/
structure Locator where
  /-- What it points at. -/
  kind : LocatorKind
  /-- The server or workgroup; the root has none. -/
  host : String
  /-- The share, for places inside a share. -/
  share : Option String
  /-- The path inside the share, with backslashes. -/
  uncPath : String
  /-- The full address, with slashes. -/
  url : String
  deriving DecidableEq, Inhabited

namespace Locator

/-- The whole network. -/
def root : Locator := ⟨.root, "", none, "\\", "smb://"⟩

/-- A workgroup. -/
def workgroup (name : String) : Locator := ⟨.workgroup, name, none, "\\", "smb://" ++ name ++ "/"⟩

/-- A server. -/
def server (host : String) : Locator := ⟨.server, host, none, "\\", "smb://" ++ host ++ "/"⟩

/-- The top directory of a share. -/
def ofShare (host share : String) : Locator :=
  ⟨.share, host, some share, "\\", "smb://" ++ host ++ "/" ++ share ++ "/"⟩

/-- A text with every slash turned into a backslash. -/
def backslashed (path : List Char) : List Char := path.map fun c => if c = '/' then '\\' else c

/-- A place inside a share; a slash at the end of the path marks a directory. -/
def path (host share path : String) : Locator :=
  let trimmed := Text.trimBoth (· = '/') path.toList
  if trimmed = [] then ofShare host share
  else
    let unc := "\\" ++ String.ofList (backslashed trimmed)
    let url := "smb://" ++ host ++ "/" ++ share ++ "/" ++ String.ofList trimmed
    if path.toList.getLast? = some '/' then
      ⟨.directory, host, some share, unc ++ "\\", url ++ "/"⟩
    else ⟨.file, host, some share, unc, url⟩

/-- A directory's address ends with a separator in both notations. -/
def checkSeparators (locator : Locator) : Except Fault Unit :=
  if locator.uncPath.toList.getLast? ≠ some '\\' then
    .error (.invalid ("UNC path of a listed directory must end with '\\': " ++ locator.uncPath))
  else if locator.url.toList.getLast? ≠ some '/' then
    .error (.invalid ("URL of a listed directory must end with '/': " ++ locator.url))
  else .ok ()

/-- Why a place cannot be listed that is no directory. -/
def notADirectory (locator : Locator) : Fault := .invalid (locator.url ++ " is not a directory")

/-- A name can be part of an address when it is not empty and holds no separator and no NUL. -/
def isUsableName (name : String) : Bool :=
  name ≠ "" && name.toList.all fun c => c ≠ '/' && c ≠ '\\' && c.toNat ≠ 0

/-- The address of an entry found by listing a place. -/
def child (locator : Locator) (entry : Entry) : Except Fault Locator :=
  let name := entry.name
  if !isUsableName name then
    .error (.invalid ("unusable entry name " ++ Text.quoted name))
  else
    match locator.kind with
    | .root | .workgroup =>
      .ok (if entry.kind = .workgroup then workgroup name else server name)
    | .server => .ok (ofShare locator.host name)
    | .share | .directory =>
      .ok
        (if entry.isDirectory then
          { locator with
            kind := .directory
            uncPath := locator.uncPath ++ name ++ "\\"
            url := locator.url ++ name ++ "/" }
        else
          { locator with
            kind := .file
            uncPath := locator.uncPath ++ name
            url := locator.url ++ name })
    | .file => .error locator.notADirectory

/-- The addresses met on the way down, where each that can be had is the parent of the next. -/
def descend (locator : Locator) : List Entry → List (Except Fault Locator)
  | [] => []
  | entry :: entries =>
    match locator.child entry with
    | .error fault => .error fault :: locator.descend entries
    | .ok child => .ok child :: child.descend entries

end Locator

end SmbBrowser
