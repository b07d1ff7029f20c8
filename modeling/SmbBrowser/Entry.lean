/-! What a listing is made of: entries, and the server and share records that become entries. -/

namespace SmbBrowser

/-! The bits that describe an entry. -/

namespace Attributes

def readOnly : UInt32 := 0x01
def hidden : UInt32 := 0x02
def system : UInt32 := 0x04
def volume : UInt32 := 0x08
def directory : UInt32 := 0x10
def archive : UInt32 := 0x20
def normal : UInt32 := 0x80

/-- A directory listing includes directories, hidden and system entries unless told otherwise. -/
def defaultSearch : UInt16 := (directory ||| hidden ||| system).toUInt16

end Attributes

/-- What an entry stands for. -/
inductive EntryKind where
  /-- A file or a directory on a share. -/
  | filesystem
  /-- A workgroup or domain. -/
  | workgroup
  /-- A server. -/
  | server
  /-- A disk share. -/
  | share
  /-- A share of named pipes. -/
  | namedPipe
  /-- A printer. -/
  | printer
  /-- A communication device. -/
  | comm
  deriving DecidableEq, Inhabited

namespace EntryKind

/-- The kind's name in a transcript. -/
def name : EntryKind → String
  | .filesystem => "filesystem"
  | .workgroup => "workgroup"
  | .server => "server"
  | .share => "share"
  | .namedPipe => "named_pipe"
  | .printer => "printer"
  | .comm => "comm"

/-- The kind's name as a title. -/
def title : EntryKind → String
  | .filesystem => "Filesystem"
  | .workgroup => "Workgroup"
  | .server => "Server"
  | .share => "Share"
  | .namedPipe => "NamedPipe"
  | .printer => "Printer"
  | .comm => "Comm"

/-- Every kind, in the order of declaration. -/
def all : List EntryKind := [.filesystem, .workgroup, .server, .share, .namedPipe, .printer, .comm]

end EntryKind

/-- One entry of a listing; times are milliseconds since 1970. -/
structure Entry where
  /-- The name, without any path in front. -/
  name : String
  /-- What the entry stands for. -/
  kind : EntryKind := .filesystem
  /-- The bits that describe the entry. -/
  attributes : UInt32 := 0
  /-- When it was made. -/
  created : UInt64 := 0
  /-- When it was last written. -/
  lastModified : UInt64 := 0
  /-- When it was last read. -/
  lastAccess : UInt64 := 0
  /-- Its length in bytes. -/
  size : UInt64 := 0
  /-- Its position in the server's listing, from which the listing can go on. -/
  fileIndex : UInt32 := 0
  deriving DecidableEq, Inhabited

namespace Entry

/-- An entry is a directory when its directory bit is set. -/
def isDirectory (entry : Entry) : Bool := entry.attributes &&& Attributes.directory != 0

/-- An entry is hidden when its hidden bit is set. -/
def isHidden (entry : Entry) : Bool := entry.attributes &&& Attributes.hidden != 0

/-- Every directory lists itself and its parent; neither is worth handing out. -/
def isSelfOrParent (entry : Entry) : Bool := entry.name = "." || entry.name = ".."

end Entry

/-- What a server says about itself or about a domain. -/
structure ServerRecord where
  /-- The name of the server or domain. -/
  name : String
  /-- The bits that say what it is. -/
  serverType : UInt32 := 0
  /-- A free comment. -/
  comment : String := ""
  deriving DecidableEq, Inhabited

namespace ServerRecord

/-- Every kind of server. -/
def anyType : UInt32 := 0xFFFFFFFF

/-- The bit of a domain or workgroup. -/
def domainType : UInt32 := 0x80000000

/-- A record with the domain bit stands for a workgroup, any other for a server. -/
def toEntry (record : ServerRecord) : Entry :=
  { name := record.name
    kind := if record.serverType &&& domainType != 0 then .workgroup else .server
    attributes := Attributes.readOnly ||| Attributes.directory }

end ServerRecord

/-- What a server says about one of its shares. -/
structure ShareRecord where
  /-- The name of the share. -/
  name : String
  /-- The code that says what is shared. -/
  shareType : UInt32 := 0
  /-- A free remark. -/
  remark : String := ""
  deriving DecidableEq, Inhabited

namespace ShareRecord

/-- The low half of a share's type says what is shared; an unknown code counts as a disk. -/
def kind (record : ShareRecord) : EntryKind :=
  match record.shareType &&& 0xFFFF with
  | 1 => .printer
  | 2 => .comm
  | 3 => .namedPipe
  | _ => .share

/-- A share whose name ends in a dollar sign is hidden. -/
def toEntry (record : ShareRecord) : Entry :=
  let base := Attributes.readOnly ||| Attributes.directory
  { name := record.name
    kind := record.kind
    attributes :=
      if record.name.toList.getLast? = some '$' then base ||| Attributes.hidden else base }

end ShareRecord

end SmbBrowser
