import SmbBrowser.Session.Tree

/-!
File handles: each holds a reference to the tree that it was opened on, and its last release closes
the file on the server unless the tree is gone.
-/

namespace SmbBrowser.Session

/-- The handle at a place. -/
def file? (session : Session) (file : FileRef) : Option (Handle OpenFile) :=
  session.files[file.index]?

/-- Stores a handle at its place. -/
def putFile (session : Session) (file : FileRef) (handle : Handle OpenFile) : Session :=
  { session with files := session.files.setIfInBounds file.index handle }

/-- A file as it is named in the log. -/
def describeFile (file : OpenFile) : String :=
  "file " ++ file.path ++ " fid=" ++ file.fid.display

/-- Gives a file back to the server while its tree is valid, and the tree's reference in any case. -/
def closeFile (file : OpenFile) (session : Session) : Except Fault Unit × Session :=
  let (result, session) :=
    if session.isTreeValid file.tree then
      let (answer, session) := session.send file.tree (.close file.fid) .cleanup
      (answer.map fun _ => (), session)
    else (.ok (), session.note (.fileGone file.path file.fid))
  let (released, session) := session.releaseTree file.tree
  -- The first of two failures is the one that counts.
  (result.bind fun () => released, session)

/-- Where a file handle lives. -/
def fileHome (file : FileRef) : Handle.Home OpenFile Session where
  put handle session := session.putFile file handle
  note event session := session.note event
  describe resource _ := describeFile resource
  close := closeFile

/-- The handle is open and held, on the connection that it was made on. -/
def isFileValid (session : Session) (file : FileRef) : Bool :=
  (session.file? file).any (·.isValid session.link)

/-- One more reference to a file, held by one more place. -/
def acquireFile (session : Session) (file : FileRef) : Except Fault Unit × Session :=
  match session.file? file with
  | none => (.error .handleClosed, session)
  | some handle =>
    match handle.acquire with
    | .error fault => (.error fault, session)
    | .ok handle => (.ok (), session.putFile file handle)

/-- Gives one reference to a file back. -/
def releaseFile (session : Session) (file : FileRef) : Except Fault Unit × Session :=
  match session.file? file with
  | none => (.ok (), session)
  | some handle => handle.release (fileHome file) session

/-- One place fewer that knows a file; a file that is no longer known forgets its tree. -/
def forgetFile (session : Session) (file : FileRef) : Session :=
  match session.file? file with
  | none => session
  | some handle =>
    let handle := handle.forget
    let session := session.putFile file handle
    if handle.keepers = 0 then
      let session :=
        if handle.isLeaked then
          session.note (.handleLeaked (describeFile handle.resource) handle.refs handle.traced)
        else session
      session.forgetTree handle.resource.tree
    else session

/-- Makes a handle on a file that the server has opened. -/
def adoptFile (session : Session) (tree : TreeRef) (fid : FileId) (path : String)
    (mode : OpenMode) : Except Fault FileRef × Session :=
  match session.acquireTree tree with
  | (.error fault, session) => (.error fault, session)
  | (.ok (), session) =>
    let session := session.note (.fileOpened path fid)
    let handle : Handle OpenFile :=
      { resource := { tree, fid, path, mode }
        generation := some session.generation
        traced := session.settings.traceResourceUsage }
    (.ok ⟨session.files.size⟩, { session with files := session.files.push handle })

/-- Opens a file on a tree and makes a handle on it. -/
def openFile (session : Session) (tree : TreeRef) (path : String) (mode : OpenMode) :
    Except Fault FileRef × Session :=
  match session.send tree (.create (mode.toCreate path)) .plain with
  | (.error fault, session) => (.error fault, session)
  | (.ok (.create file), session) => session.adoptFile tree file.fid path mode
  | (.ok _, session) => (.error (.protocol "unexpected reply to CREATE"), session)

end SmbBrowser.Session
