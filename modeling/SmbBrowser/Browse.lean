import SmbBrowser.Listing.Sorts
import SmbBrowser.Resource.Stream

/-! Listing a place: which sort of listing a place calls for, and its entries or resources. -/

namespace SmbBrowser

/-- What the caller wants of a listing. -/
structure ListOptions where
  /-- The wildcard that the server matches names against. -/
  pattern : String := "*"
  /-- The kinds of directory entries to include. -/
  searchAttributes : UInt16 := Attributes.defaultSearch
  /-- The caller's own choice of names, if there is one. -/
  nameFilter : Option NameFilter := none

namespace Session

/-- The listing that a place calls for: directories are listed in the way of the dialect. -/
def listingOf (session : Session) (locator : Locator) (options : ListOptions) :
    Except Fault Listing :=
  match locator.kind with
  | .root => .ok (.network (.domains session.oemDomain session.settings))
  | .workgroup => .ok (.network (.ofWorkgroup locator.host session.settings))
  | .server => .ok (.host {})
  | .share | .directory =>
    match session.server.dialect with
    | .smb1 =>
      (SearchListing.new locator options.pattern options.searchAttributes session.settings).map
        .search
    | .smb2 => (DirectoryListing.new locator options.pattern session.settings).map .directory
  | .file => .error locator.notADirectory

/-- A cursor over the entries of a place; a place that cannot be listed is refused unasked. -/
def list (session : Session) (locator : Locator) (options : ListOptions) :
    Except Fault (Cursor Listing) × Session :=
  match session.listingOf locator options with
  | .error fault => (.error fault, session)
  | .ok listing => Cursor.ofListing listing options.nameFilter session

/-- A stream of the resources of a place. -/
def listResources (session : Session) (locator : Locator) (options : ListOptions)
    (filter : Option (Resource → Except Fault Bool)) :
    Except Fault (ResourceStream (Cursor Listing) Resource) × Session :=
  match session.acquire with
  | (.error fault, session) => (.error fault, session)
  | (.ok tree, session) =>
    match session.list locator options with
    | (.error fault, session) =>
      let (released, session) := session.releaseTree tree
      let session := session.noteFailure .streamOpenReleaseFailed released
      (.error fault, session.forgetTree tree)
    | (.ok cursor, session) =>
      -- The stream holds the tree, and its adapter knows it a second time.
      let stream : ResourceStream (Cursor Listing) Resource :=
        { source := cursor
          adapter := .resources locator tree
          filter
          held := some tree
          known := some tree }
      (.ok stream, session.keepTree tree)

end Session

end SmbBrowser
