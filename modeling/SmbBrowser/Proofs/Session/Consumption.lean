import SmbBrowser.Session.Weight

/-!
What the script is used up by: whatever is asked takes at most the front of the script off, and
nothing adds to it.
-/

namespace SmbBrowser.Session

/-- Behind some use of a session its script is what is left of the script before. -/
def UsesUp (before after : Session) : Prop := after.server.script <:+ before.server.script

namespace UsesUp

/-- A session uses nothing up by itself. -/
theorem refl (session : Session) : session.UsesUp session :=
  -- A script is a back part of itself.
  List.suffix_refl _

/-- What is left of what was left is left of the whole. -/
theorem trans {before middle after : Session} (first : before.UsesUp middle)
    (second : middle.UsesUp after) : before.UsesUp after :=
  -- Back parts of back parts are back parts.
  List.IsSuffix.trans second first

/-- Whoever does not touch the server uses nothing of its script up. -/
theorem of_server_eq {before after : Session} (same : after.server = before.server) :
    before.UsesUp after := by
  -- The script is a part of the server.
  simp only [UsesUp, same, List.suffix_rfl]

/-- The script never grows. -/
theorem length_le {before after : Session} (uses : before.UsesUp after) :
    after.server.script.length ≤ before.server.script.length :=
  -- A back part is no longer than the whole.
  List.IsSuffix.length_le uses

end UsesUp

variable (session : Session) (tree : TreeRef) (file : FileRef)

/-! Handles are counted without asking anybody. -/

/-- Sharing a tree asks the server for nothing. -/
theorem server_acquireTree : (session.acquireTree tree).2.server = session.server := by
  -- Refused or granted, the share is a matter of the table.
  unfold acquireTree
  split
  · rfl
  · split <;> rfl

/-- Forgetting a tree asks the server for nothing. -/
theorem server_forgetTree : (session.forgetTree tree).server = session.server := by
  unfold forgetTree
  split
  · rfl
  · -- The last who forgets a tree writes that down.
    simp only
    split <;> rfl

/-- Forgetting a file asks the server for nothing. -/
theorem server_forgetFile : (session.forgetFile file).server = session.server := by
  unfold forgetFile
  split
  · rfl
  · simp only
    split
    · -- The last who forgets a file forgets its tree as well.
      rw [server_forgetTree]
      split <;> rfl
    · rfl

/-- Adopting an open file asks the server for nothing. -/
theorem server_adoptFile (fid : FileId) (path : String) (mode : OpenMode) :
    (session.adoptFile tree fid path mode).2.server = session.server := by
  have shared := session.server_acquireTree tree
  -- The file has been opened already, and all that is done is to share its tree.
  unfold adoptFile
  split <;> rename_i taken <;> rw [taken] at shared <;> exact shared

/-! Requests take at most the front of the script off. -/

variable (tid : Option TreeId) (request : Request) (delivery : Delivery)

/-- An exchange takes the next outcome off the script, or leaves it alone. -/
theorem exchange_usesUp : session.UsesUp (session.exchange tid request delivery).2 := by
  -- What the answer says of the connection does not reach the server.
  simp only [UsesUp, exchange, server_heed]
  exact session.server.exchange_suffix tid request delivery _

/-- Sending a request on a tree uses the script up by one exchange at most. -/
theorem send_usesUp : session.UsesUp (session.send tree request delivery).2 := by
  unfold send
  split
  · exact .refl session
  · split
    · exact .refl session
    · -- The tree is valid, so that there is an exchange.
      exact session.exchange_usesUp _ request delivery

/-- Connecting a tree uses the script up by one exchange at most. -/
theorem connect_usesUp : session.UsesUp session.connect.2 := by
  have asked := session.exchange_usesUp none (.treeConnect session.sharePath) .plain
  unfold connect
  -- The exchange is all that is asked, whatever its answer is.
  split <;> rename_i answered <;> rw [answered] at asked <;> exact asked

/-- Acquiring a tree uses the script up by one exchange at most. -/
theorem acquire_usesUp : session.UsesUp session.acquire.2 := by
  unfold acquire
  split
  · rename_i tree _
    have shared := UsesUp.of_server_eq (session.server_acquireTree tree)
    -- The tree that is current may not be shareable, and a new one is connected then.
    split <;> rename_i taken <;> rw [taken] at shared
    · exact shared
    · exact shared.trans (connect_usesUp _)
  · exact session.connect_usesUp

/-- Giving a tree back to the server uses the script up by one exchange at most. -/
theorem disconnect_usesUp (tree : ConnectedTree) :
    session.UsesUp (disconnect tree session).2 := by
  -- Whether or not anybody is told, the tree is detached at the end.
  have detached (session : Session) : (session.detach tree.generation).server = session.server := by
    unfold detach
    split <;> rfl
  unfold disconnect
  simp only
  split
  · have asked := session.exchange_usesUp (some tree.tid) .treeDisconnect .cleanup
    exact asked.trans (.of_server_eq (detached _))
  · exact .of_server_eq (detached _)

/-- Releasing a tree adds nothing to the script. -/
theorem releaseTree_usesUp : session.UsesUp (session.releaseTree tree).2 := by
  unfold releaseTree
  split
  · exact .refl session
  · unfold Handle.release
    split
    · exact .refl session
    · split
      · -- Only the last release asks the server.
        exact disconnect_usesUp _ _
      · exact .refl session

/-- Closing a file adds nothing to the script. -/
theorem closeFile_usesUp (file : OpenFile) : session.UsesUp (closeFile file session).2 := by
  unfold closeFile
  simp only
  split
  · -- The tree is given back behind the file, and may be disconnected with it.
    exact (session.send_usesUp file.tree (.close file.fid) .cleanup).trans (releaseTree_usesUp _ _)
  · exact releaseTree_usesUp _ _

/-- Releasing a file adds nothing to the script. -/
theorem releaseFile_usesUp : session.UsesUp (session.releaseFile file).2 := by
  unfold releaseFile
  split
  · exact .refl session
  · unfold Handle.release
    split
    · exact .refl session
    · split
      · -- Only the last release asks the server.
        exact closeFile_usesUp _ _
      · exact .refl session

/-- A request on a tree that is answered takes exactly the front of the script off, unless the
other side answers it on its own. -/
theorem script_send_ok {session after : Session} {tree : TreeRef} {request : Request}
    {delivery : Delivery} {response : Response} (scripted : request.isTreeRequest = false)
    (answered : session.send tree request delivery = (.ok response, after)) :
    session.server.script = ⟨request.kind, .ok response⟩ :: after.server.script := by
  unfold send at answered
  split at answered
  · simp at answered
  · split at answered
    · simp at answered
    · -- Only what is sent on a tree that is still there is answered.
      rename_i handle _ _ _
      obtain ⟨answer, rfl⟩ := Prod.mk.inj answered
      simp only [server_heed]
      exact Playback.exchange_ok scripted (Prod.ext (Prod.ext answer rfl) rfl)

end SmbBrowser.Session
