import SmbBrowser.Text.Hex

/-! The two families of status codes a file server answers with: NT statuses and Win32 errors. -/

namespace SmbBrowser

/-- A 32-bit NT status, whose two top bits are its severity. -/
structure NtStatus where
  /-- The raw code. -/
  code : UInt32
  deriving DecidableEq, Inhabited

namespace NtStatus

def success : NtStatus := ⟨0x00000000⟩
def pending : NtStatus := ⟨0x00000103⟩
def bufferOverflow : NtStatus := ⟨0x80000005⟩
def noMoreFiles : NtStatus := ⟨0x80000006⟩
def invalidHandle : NtStatus := ⟨0xC0000008⟩
def invalidParameter : NtStatus := ⟨0xC000000D⟩
def noSuchFile : NtStatus := ⟨0xC000000F⟩
def accessDenied : NtStatus := ⟨0xC0000022⟩
def objectNameInvalid : NtStatus := ⟨0xC0000033⟩
def objectNameNotFound : NtStatus := ⟨0xC0000034⟩
def objectPathNotFound : NtStatus := ⟨0xC000003A⟩
def sharingViolation : NtStatus := ⟨0xC0000043⟩
def notSupported : NtStatus := ⟨0xC00000BB⟩
def networkNameDeleted : NtStatus := ⟨0xC00000C9⟩
def badNetworkName : NtStatus := ⟨0xC00000CC⟩
def notADirectory : NtStatus := ⟨0xC0000103⟩
def fileClosed : NtStatus := ⟨0xC0000128⟩
def userSessionDeleted : NtStatus := ⟨0xC0000203⟩
def connectionDisconnected : NtStatus := ⟨0xC000020C⟩
def networkSessionExpired : NtStatus := ⟨0xC000035C⟩

/-- Success codes fill the first quarter of the code space. The informational codes, which fill the
second one, are not among them. -/
def isSuccess (status : NtStatus) : Bool := status.code < 0x40000000

/-- Warnings fill the third quarter of the code space. -/
def isWarning (status : NtStatus) : Bool := 0x80000000 ≤ status.code && status.code < 0xC0000000

/-- Errors fill the last quarter of the code space. -/
def isError (status : NtStatus) : Bool := 0xC0000000 ≤ status.code

/-- A listing that meets one of these statuses has simply come to its end. -/
def endsListing (status : NtStatus) : Bool := status = noMoreFiles || status = noSuchFile

/-- After one of these statuses the tree connection is gone. -/
def dropsConnection (status : NtStatus) : Bool :=
  [networkNameDeleted, userSessionDeleted, connectionDisconnected, networkSessionExpired].contains
    status

/-- The symbolic names of the statuses that have one. -/
def names : List (NtStatus × String) :=
  [(success, "STATUS_SUCCESS"),
    (pending, "STATUS_PENDING"),
    (bufferOverflow, "STATUS_BUFFER_OVERFLOW"),
    (noMoreFiles, "STATUS_NO_MORE_FILES"),
    (invalidHandle, "STATUS_INVALID_HANDLE"),
    (invalidParameter, "STATUS_INVALID_PARAMETER"),
    (noSuchFile, "STATUS_NO_SUCH_FILE"),
    (accessDenied, "STATUS_ACCESS_DENIED"),
    (objectNameInvalid, "STATUS_OBJECT_NAME_INVALID"),
    (objectNameNotFound, "STATUS_OBJECT_NAME_NOT_FOUND"),
    (objectPathNotFound, "STATUS_OBJECT_PATH_NOT_FOUND"),
    (sharingViolation, "STATUS_SHARING_VIOLATION"),
    (notSupported, "STATUS_NOT_SUPPORTED"),
    (networkNameDeleted, "STATUS_NETWORK_NAME_DELETED"),
    (badNetworkName, "STATUS_BAD_NETWORK_NAME"),
    (notADirectory, "STATUS_NOT_A_DIRECTORY"),
    (fileClosed, "STATUS_FILE_CLOSED"),
    (userSessionDeleted, "STATUS_USER_SESSION_DELETED"),
    (connectionDisconnected, "STATUS_CONNECTION_DISCONNECTED"),
    (networkSessionExpired, "STATUS_NETWORK_SESSION_EXPIRED")]

/-- The symbolic name of a status, if it has one. -/
def name? (status : NtStatus) : Option String := names.lookup status

/-- A status is shown as its eight-digit code, behind its name if it has one. -/
def display (status : NtStatus) : String :=
  let code := "0x" ++ Text.upperHex 8 status.code.toNat
  match status.name? with
  | some name => name ++ " (" ++ code ++ ")"
  | none => code

end NtStatus

/-- A 32-bit Win32 error, the status of the remote administration calls. -/
structure Win32Status where
  /-- The raw code. -/
  code : UInt32
  deriving DecidableEq, Inhabited

namespace Win32Status

def success : Win32Status := ⟨0⟩
def accessDenied : Win32Status := ⟨5⟩
def requestNotAccepted : Win32Status := ⟨71⟩
def moreData : Win32Status := ⟨234⟩
def serviceNotInstalled : Win32Status := ⟨2184⟩
def noBrowserServersFound : Win32Status := ⟨6118⟩

/-- The symbolic names of the errors that have one. -/
def names : List (Win32Status × String) :=
  [(success, "ERROR_SUCCESS"),
    (accessDenied, "ERROR_ACCESS_DENIED"),
    (requestNotAccepted, "ERROR_REQ_NOT_ACCEP"),
    (moreData, "ERROR_MORE_DATA"),
    (serviceNotInstalled, "ERROR_SERVICE_NOT_INSTALLED"),
    (noBrowserServersFound, "ERROR_NO_BROWSER_SERVERS_FOUND")]

/-- The symbolic name of an error, if it has one. -/
def name? (status : Win32Status) : Option String := names.lookup status

/-- An error is shown as its decimal code, behind its name if it has one. -/
def display (status : Win32Status) : String :=
  let code := toString status.code.toNat
  match status.name? with
  | some name => name ++ " (" ++ code ++ ")"
  | none => "win32 error " ++ code

end Win32Status

end SmbBrowser
