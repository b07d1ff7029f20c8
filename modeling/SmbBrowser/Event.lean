import SmbBrowser.Fault
import SmbBrowser.Message

/-! What a client writes to its log: one event for each thing worth knowing, with its level and fields. -/

namespace SmbBrowser

/-- How urgent an event is. -/
inductive Level where
  | error
  | warn
  | info
  | debug
  | trace
  deriving DecidableEq

/-- The level's name. -/
def Level.name : Level → String
  | .error => "ERROR"
  | .warn => "WARN"
  | .info => "INFO"
  | .debug => "DEBUG"
  | .trace => "TRACE"

/-- The value of a field of an event. -/
inductive FieldValue where
  | text (value : String)
  | number (value : Nat)
  | flag (value : Bool)
  deriving DecidableEq

/-- Something that happened. -/
inductive Event where
  /-- A buffer of a size that the pool does not keep came back. -/
  | foreignBuffer (size expected : Nat)
  /-- A handle was released although nobody held it. -/
  | releaseUnderflow (resource : String) (closed : Bool)
  /-- The last holder released a handle. -/
  | handleClosing (resource : String)
  /-- A handle was forgotten while it was still held. -/
  | handleLeaked (resource : String) (refs : Nat) (traced : Bool)
  /-- A request was answered as the transcript has it. -/
  | exchanged (request : String) (tid : Option TreeId)
  /-- A request came that the transcript does not expect. -/
  | exchangeMismatch (expected got : String)
  /-- A request came after the end of the transcript. -/
  | transcriptExhausted (got : String)
  /-- A share was connected. -/
  | treeConnected (share : String) (tid : TreeId) (generation : Nat)
  /-- The connection was given up for lost. -/
  | treeInvalidated (share : String)
  /-- The transport failed under a request. -/
  | exchangeFailed (request error : String)
  /-- The server said that the connection is gone. -/
  | connectionLost (request : String) (status : NtStatus)
  /-- A tree of a lost connection was given up without a word to the server. -/
  | staleDisconnect (tid : TreeId)
  /-- A tree was given up. -/
  | treeDisconnected (share : String) (tid : TreeId)
  /-- A file was opened. -/
  | fileOpened (path : String) (fid : FileId)
  /-- A file of a lost connection was given up without a word to the server. -/
  | fileGone (path : String) (fid : FileId)
  /-- No entry matches a search. -/
  | searchEmpty (path : String)
  /-- A search could not be given back. -/
  | searchCloseFailed (sid : SearchId) (fault : Fault)
  /-- No entry matches a directory query. -/
  | queryEmpty (path : String)
  /-- A directory whose first query failed could not be given back. -/
  | orphanCloseFailed (path : String) (fault : Fault)
  /-- A page of servers came. -/
  | serverPage (command : ServerCommand) (domain : String) (records : Nat) (status : Win32Status)
  /-- A cursor found nothing. -/
  | cursorEmpty (listing : String)
  /-- A cursor could not be opened. -/
  | cursorOpenFailed (listing : String) (fault : Fault)
  /-- A cursor could not go on. -/
  | cursorAdvanceFailed (listing : String) (fault : Fault)
  /-- A listing could not be given back. -/
  | cursorFinishFailed (listing : String) (fault : Fault)
  /-- The tree of a cursor could not be released. -/
  | cursorReleaseFailed (listing : String) (fault : Fault)
  /-- A cursor was closed. -/
  | cursorClosed (listing : String)
  /-- A name filter failed. -/
  | nameFilterFailed (name : String) (fault : Fault)
  /-- The tree of a stream that was not opened could not be released. -/
  | streamOpenReleaseFailed (fault : Fault)
  /-- The tree of a stream could not be released. -/
  | streamReleaseFailed (fault : Fault)
  /-- An entry could not be turned into what a stream yields. -/
  | adaptFailed (name : String) (fault : Fault)
  /-- The filter of a stream failed. -/
  | streamFilterFailed (name : String) (fault : Fault)
  /-- The tree of a resource could not be released. -/
  | resourceReleaseFailed (url : String) (fault : Fault)
  deriving DecidableEq

namespace Event

/-- How urgent each event is; a traced handle that leaks is worth a warning. -/
def level : Event → Level
  | .releaseUnderflow .. | .nameFilterFailed .. | .adaptFailed .. | .streamFilterFailed .. => .error
  | .handleLeaked _ _ traced => if traced then .warn else .debug
  | .exchangeMismatch .. | .transcriptExhausted .. | .treeInvalidated .. | .exchangeFailed ..
  | .connectionLost .. | .orphanCloseFailed .. | .cursorAdvanceFailed .. | .cursorFinishFailed ..
  | .cursorReleaseFailed .. | .streamOpenReleaseFailed .. | .streamReleaseFailed ..
  | .resourceReleaseFailed .. => .warn
  | .treeConnected .. | .treeDisconnected .. => .info
  | .foreignBuffer .. => .trace
  | _ => .debug

/-- The name of each event. -/
def name : Event → String
  | .foreignBuffer .. => "buffer_pool.release.foreign_size"
  | .releaseUnderflow .. => "handle.release.underflow"
  | .handleClosing .. => "handle.release.close"
  | .handleLeaked .. => "handle.leaked"
  | .exchanged .. => "replay.exchange"
  | .exchangeMismatch .. => "replay.mismatch"
  | .transcriptExhausted .. => "replay.exhausted"
  | .treeConnected .. => "tree.connect"
  | .treeInvalidated .. => "tree.invalidate"
  | .exchangeFailed .. => "tree.exchange.io_failed"
  | .connectionLost .. => "tree.exchange.connection_lost"
  | .staleDisconnect .. => "tree.disconnect.stale"
  | .treeDisconnected .. => "tree.disconnect"
  | .fileOpened .. => "file.open"
  | .fileGone .. => "file.close.connection_gone"
  | .searchEmpty .. => "find_first2.no_match"
  | .searchCloseFailed .. => "find_close2.failed"
  | .queryEmpty .. => "query_directory.no_match"
  | .orphanCloseFailed .. => "query_directory.orphan_close_failed"
  | .serverPage .. => "server_enum.page"
  | .cursorEmpty .. => "cursor.open.empty"
  | .cursorOpenFailed .. => "cursor.open.failed"
  | .cursorAdvanceFailed .. => "cursor.advance.failed"
  | .cursorFinishFailed .. => "cursor.close.internal_failed"
  | .cursorReleaseFailed .. => "cursor.close.release_failed"
  | .cursorClosed .. => "cursor.close"
  | .nameFilterFailed .. => "cursor.filter.failed"
  | .streamOpenReleaseFailed .. => "resources.open.release_failed"
  | .streamReleaseFailed .. => "resources.close.release_failed"
  | .adaptFailed .. => "resources.adapt.failed"
  | .streamFilterFailed .. => "resources.filter.failed"
  | .resourceReleaseFailed .. => "resource.release_failed"

/-- A tree that a request may have been sent on. -/
def treeText : Option TreeId → String
  | none => "None"
  | some tid => "Some(TreeId(" ++ tid.display ++ "))"

/-- The fields of each event. -/
def fields : Event → List (String × FieldValue)
  | .foreignBuffer size expected => [("len", .number size), ("expected", .number expected)]
  | .releaseUnderflow resource closed => [("resource", .text resource), ("closed", .flag closed)]
  | .handleClosing resource => [("resource", .text resource)]
  | .handleLeaked resource refs traced =>
    [("resource", .text resource), ("refs", .number refs)]
      ++ if traced then [("origin", .flag true)] else []
  | .exchanged request tid => [("request", .text request), ("tid", .text (treeText tid))]
  | .exchangeMismatch expected got => [("expected", .text expected), ("got", .text got)]
  | .transcriptExhausted got => [("got", .text got)]
  | .treeConnected share tid generation =>
    [("share", .text share), ("tid", .number tid.number.toNat), ("generation", .number generation)]
  | .treeInvalidated share => [("share", .text share)]
  | .exchangeFailed request error => [("request", .text request), ("error", .text error)]
  | .connectionLost request status =>
    [("request", .text request), ("status", .text status.display)]
  | .staleDisconnect tid => [("tid", .number tid.number.toNat)]
  | .treeDisconnected share tid => [("share", .text share), ("tid", .number tid.number.toNat)]
  | .fileOpened path fid | .fileGone path fid => [("path", .text path), ("fid", .text fid.display)]
  | .searchEmpty path | .queryEmpty path => [("path", .text path)]
  | .searchCloseFailed sid fault =>
    [("sid", .number sid.number.toNat), ("error", .text fault.message)]
  | .orphanCloseFailed path fault => [("path", .text path), ("error", .text fault.message)]
  | .serverPage command domain records status =>
    [("command", .text command.title), ("domain", .text domain), ("records", .number records),
      ("status", .text status.display)]
  | .cursorEmpty listing | .cursorClosed listing => [("listing", .text listing)]
  | .cursorOpenFailed listing fault | .cursorAdvanceFailed listing fault
  | .cursorFinishFailed listing fault | .cursorReleaseFailed listing fault =>
    [("listing", .text listing), ("error", .text fault.message)]
  | .nameFilterFailed name fault | .adaptFailed name fault | .streamFilterFailed name fault =>
    [("name", .text name), ("error", .text fault.message)]
  | .streamOpenReleaseFailed fault | .streamReleaseFailed fault => [("error", .text fault.message)]
  | .resourceReleaseFailed url fault => [("url", .text url), ("error", .text fault.message)]

end Event

end SmbBrowser
