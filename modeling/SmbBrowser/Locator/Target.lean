import SmbBrowser.Locator

/-! Reading an address from a URL. -/

namespace SmbBrowser.Locator

/-- The pieces of a text between slashes. -/
def segments : List Char → List (List Char)
  | [] => [[]]
  | '/' :: rest => [] :: segments rest
  | c :: rest =>
    match segments rest with
    | [] => [[c]]
    | segment :: more => (c :: segment) :: more

/-- Segments with a slash between each two. -/
def joinSegments : List (List Char) → List Char
  | [] => []
  | [segment] => segment
  | segment :: next :: more => segment ++ '/' :: joinSegments (next :: more)

/--
The address a URL spells.

A lone host is a server, or a workgroup if `asWorkgroup` is set; empty segments do not count.
-/
def parse (target : String) (asWorkgroup : Bool) : Except Fault Locator :=
  match "smb://".toList.isPrefixOf? target.toList with
  | none => .error (.invalid ("target must start with smb://: " ++ target))
  | some rest =>
    match (segments rest).filter (· ≠ []) with
    | [] => .ok root
    | [host] =>
      let host := String.ofList host
      .ok (if asWorkgroup then workgroup host else server host)
    | [host, share] => .ok (ofShare (String.ofList host) (String.ofList share))
    | host :: share :: inner =>
      -- The slash that ended the URL still marks a directory.
      let inside := joinSegments inner ++ if rest.getLast? = some '/' then ['/'] else []
      .ok (path (String.ofList host) (String.ofList share) (String.ofList inside))

end SmbBrowser.Locator
