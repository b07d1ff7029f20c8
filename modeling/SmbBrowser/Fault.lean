import SmbBrowser.Settings
import SmbBrowser.Status

/-! What can go wrong between a client and a server, by cause, with the wording of each cause. -/

namespace SmbBrowser

/-- The cause of a failed operation. -/
inductive Fault where
  /-- The transport failed. -/
  | io (text : String)
  /-- The server answered with an NT status other than success. -/
  | status (code : NtStatus)
  /-- The server answered an administration call with a Win32 error. -/
  | win32 (code : Win32Status)
  /-- The server lacks what the operation needs. -/
  | unsupported (what : String)
  /-- A handle is closed, or its connection is gone. -/
  | invalidHandle (why : String)
  /-- The caller passed something unusable. -/
  | invalid (why : String)
  /-- The answer does not fit the request. -/
  | protocol (what : String)
  /-- The settings are at fault. -/
  | settings (fault : SettingsFault)
  deriving DecidableEq

namespace Fault

/-- The wording of a fault. -/
def message : Fault → String
  | .io text => "IO: " ++ text
  | .status code => "server returned " ++ code.display
  | .win32 code => "server returned " ++ code.display
  | .unsupported what => "operation not supported by server: " ++ what
  | .invalidHandle why => "handle no longer valid: " ++ why
  | .invalid why => "invalid argument: " ++ why
  | .protocol what => "protocol violation: " ++ what
  | .settings fault => fault.message

/-- The NT status a fault carries, if it carries one. -/
def status? : Fault → Option NtStatus
  | .status code => some code
  | _ => none

/-- A fault that only says that a listing has come to its end. -/
def endsListing (fault : Fault) : Bool := fault.status?.any NtStatus.endsListing

/-- The transport failed, or the server says that the tree connection is gone. -/
def losesConnection : Fault → Bool
  | .io _ => true
  | .status code => code.dropsConnection
  | _ => false

/-- The handle was closed before. -/
def handleClosed : Fault := .invalidHandle "handle already closed"

/-- The handle belongs to an earlier connection. -/
def connectionReset : Fault := .invalidHandle "connection was reset"

end Fault

end SmbBrowser
