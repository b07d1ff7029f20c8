import SmbBrowser.Entry
import SmbBrowser.Identifier
import SmbBrowser.Status

/-! What a client asks of a server, what the server answers, and how a request is to be delivered. -/

namespace SmbBrowser

/-! The bits of a directory query. -/

namespace QueryFlags

def restartScans : UInt8 := 0x01
def returnSingleEntry : UInt8 := 0x02
def indexSpecified : UInt8 := 0x04
def reopen : UInt8 := 0x10

end QueryFlags

/-! The bits and codes used when a file is opened. -/

namespace Access

def readData : UInt32 := 0x00000001
def readAttributes : UInt32 := 0x00000080
def shareRead : UInt32 := 0x01
def shareWrite : UInt32 := 0x02
def shareDelete : UInt32 := 0x04
def openExisting : UInt32 := 0x01
def directoryFile : UInt32 := 0x00000001
def nonDirectoryFile : UInt32 := 0x00000040

end Access

/-- How a request is to be delivered. -/
structure Delivery where
  /-- The request must not be sent again on a fresh connection. -/
  noRetry : Bool := false
  /-- The answer may take as long as it likes. -/
  noTimeout : Bool := false
  deriving DecidableEq, Inhabited

namespace Delivery

/-- An ordinary request. -/
def plain : Delivery := {}

/-- A request that only cleans up, and would clean up the wrong thing on a fresh connection. -/
def cleanup : Delivery := { noRetry := true }

end Delivery

/-- The start of a server-side search. -/
structure FindFirst where
  /-- The directory, with a backslash at its end. -/
  path : String
  /-- The wildcard that names must match. -/
  pattern : String
  /-- The kinds of entries to include. -/
  searchAttributes : UInt16
  /-- The most entries of a page. -/
  maxItems : UInt16
  /-- The most bytes of a page. -/
  maxBuffer : UInt32
  deriving DecidableEq

/-- The continuation of a server-side search. -/
structure FindNext where
  /-- The search. -/
  sid : SearchId
  /-- The server's own mark of the last entry seen. -/
  resumeKey : UInt32
  /-- The name of the last entry seen. -/
  lastName : String
  /-- The most entries of a page. -/
  maxItems : UInt16
  /-- The most bytes of a page. -/
  maxBuffer : UInt32
  deriving DecidableEq

/-- A page of a server-side search. -/
structure FindPage where
  /-- The status that came with the page. -/
  status : NtStatus := .success
  /-- The search, which only the first page names. -/
  sid : SearchId := ⟨0⟩
  /-- The server closed the search behind this page. -/
  endOfSearch : Bool := false
  /-- The mark to go on from. -/
  resumeKey : UInt32 := 0
  /-- The name to go on from. -/
  lastName : String := ""
  /-- The entries of the page. -/
  entries : List Entry := []
  deriving DecidableEq

/-- The opening of a file or directory. -/
structure Create where
  /-- The path inside the share, without a backslash at either end. -/
  path : String
  /-- What the opener wants to do. -/
  desiredAccess : UInt32
  /-- The attributes of a new file. -/
  fileAttributes : UInt32
  /-- What others may do meanwhile. -/
  shareAccess : UInt32
  /-- What to do about a file that is there, or is not. -/
  createDisposition : UInt32
  /-- Further conditions on the file. -/
  createOptions : UInt32
  deriving DecidableEq

/-- An opened file. -/
structure Created where
  /-- The name of the open file. -/
  fid : FileId
  /-- Its attributes. -/
  attributes : UInt32 := 0
  deriving DecidableEq

/-- A query for a page of an open directory. -/
structure QueryDirectory where
  /-- The directory; none stands for the one opened earlier in the same chain. -/
  fid : Option FileId
  /-- The wildcard that names must match. -/
  pattern : String
  /-- The bits of the query. -/
  flags : UInt8
  /-- The position to go on from. -/
  fileIndex : UInt32
  /-- The most bytes of a page. -/
  outputBufferLength : UInt32
  deriving DecidableEq

/-- A page of an open directory. -/
structure DirectoryPage where
  /-- The status that came with the page. -/
  status : NtStatus := .success
  /-- The entries of the page. -/
  entries : List Entry := []
  deriving DecidableEq

/-- The two ways to ask for servers. -/
inductive ServerCommand where
  /-- The first page. -/
  | netServerEnum2
  /-- A further page, from a name on. -/
  | netServerEnum3
  deriving DecidableEq, Inhabited

/-- The command's name in a transcript. -/
def ServerCommand.name : ServerCommand → String
  | .netServerEnum2 => "net_server_enum2"
  | .netServerEnum3 => "net_server_enum3"

/-- The command's name as a title. -/
def ServerCommand.title : ServerCommand → String
  | .netServerEnum2 => "NetServerEnum2"
  | .netServerEnum3 => "NetServerEnum3"

/-- A query for the servers or domains of a network. -/
structure ServerQuery where
  /-- First page or further page. -/
  command : ServerCommand
  /-- The domain to look in. -/
  domain : String
  /-- The types to look for. -/
  serverTypes : UInt32
  /-- The name to go on from. -/
  lastName : Option String
  /-- The most bytes of a page. -/
  maxBuffer : UInt32
  deriving DecidableEq

/-- A page of servers. -/
structure ServerPage where
  /-- Whether the page is whole, partial or a failure. -/
  status : Win32Status := .success
  /-- The records of the page. -/
  entries : List ServerRecord := []
  deriving DecidableEq

/-- The shares of a server. -/
structure SharePage where
  /-- Whether the call succeeded. -/
  status : Win32Status := .success
  /-- The records. -/
  entries : List ShareRecord := []
  deriving DecidableEq

/-- What a client asks. -/
inductive Request where
  /-- Connect to a share. -/
  | treeConnect (path : String)
  /-- Give the connected tree back. -/
  | treeDisconnect
  /-- Start a search. -/
  | findFirst (query : FindFirst)
  /-- Continue a search. -/
  | findNext (query : FindNext)
  /-- Give a search back. -/
  | findClose (sid : SearchId)
  /-- Open a file or directory. -/
  | create (file : Create)
  /-- Read a page of an open directory. -/
  | queryDirectory (query : QueryDirectory)
  /-- Give an open file back. -/
  | close (fid : FileId)
  /-- Several related requests at once. -/
  | chain (requests : List Request)
  /-- Ask for servers or domains. -/
  | serverEnum (query : ServerQuery)
  /-- Ask for shares. -/
  | shareEnum
  deriving Inhabited

/-- The name of a request's kind in transcripts and logs. -/
def Request.kind : Request → String
  | .treeConnect _ => "tree_connect"
  | .treeDisconnect => "tree_disconnect"
  | .findFirst _ => "find_first2"
  | .findNext _ => "find_next2"
  | .findClose _ => "find_close2"
  | .create _ => "create"
  | .queryDirectory _ => "query_directory"
  | .close _ => "close"
  | .chain _ => "chain"
  | .serverEnum _ => "net_server_enum"
  | .shareEnum => "net_share_enum"

/-- The outcome of one request of a chain. -/
structure ChainedReply (Body : Type) where
  /-- The status of this request. -/
  status : NtStatus
  /-- Its answer, if it has one. -/
  response : Option Body := none

/-- What a server answers. -/
inductive Response where
  /-- The share is connected. -/
  | treeConnect (tid : TreeId)
  /-- Done, with nothing to say. -/
  | empty
  /-- A page of a search. -/
  | find (page : FindPage)
  /-- The file is open. -/
  | create (file : Created)
  /-- A page of an open directory. -/
  | queryDirectory (page : DirectoryPage)
  /-- One outcome for each request of a chain. -/
  | chain (replies : List (ChainedReply Response))
  /-- A page of servers. -/
  | serverList (page : ServerPage)
  /-- The shares. -/
  | shareList (page : SharePage)

instance : Inhabited Response := ⟨.empty⟩

/-- The name of a response's kind in transcripts. -/
def Response.kind : Response → String
  | .treeConnect _ => "tree_connect"
  | .empty => "empty"
  | .find _ => "find"
  | .create _ => "create"
  | .queryDirectory _ => "query_directory"
  | .chain _ => "chain"
  | .serverList _ => "server_list"
  | .shareList _ => "share_list"

/-- What an opener asks for; a handle remembers it. -/
structure OpenMode where
  /-- What the opener wants to do. -/
  access : UInt32 := 0
  /-- The attributes of a new file. -/
  attributes : UInt32 := 0
  /-- Further conditions on the file. -/
  createOptions : UInt32 := 0
  /-- What others may do meanwhile. -/
  shareAccess : UInt32 := 0
  deriving DecidableEq, Inhabited

namespace OpenMode

/-- A directory is opened for listing, and others may do with it what they like. -/
def directory : OpenMode :=
  { access := Access.readData ||| Access.readAttributes
    createOptions := Access.directoryFile
    shareAccess := Access.shareRead ||| Access.shareWrite ||| Access.shareDelete }

/-- The request that opens an existing file in this mode. -/
def toCreate (mode : OpenMode) (path : String) : Create :=
  { path
    desiredAccess := mode.access
    fileAttributes := mode.attributes
    shareAccess := mode.shareAccess
    createDisposition := Access.openExisting
    createOptions := mode.createOptions }

end OpenMode

end SmbBrowser
