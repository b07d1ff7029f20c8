import SmbBrowser.Proofs.Session.Deal
import SmbBrowser.Proofs.Session.Tables

/-!
What is said about pages: of all that passes between the two sides, the requests for pages of a
listing and what came of them. Only sending such a request adds to it.
-/

namespace SmbBrowser

/-- A request for a page of a listing. -/
def Request.asksForPage : Request → Bool
  | .findFirst _ | .findNext _ | .chain _ | .queryDirectory _ | .serverEnum _ | .shareEnum => true
  | _ => false

/-- The request for a page that was sent, and what came of it. -/
def Passage.word? : Passage → Option (Request × Except Fault Response)
  | .asked sent answer => if sent.request.asksForPage then some (sent.request, answer) else none
  | .lost => none

/-- The status with which a request was refused. -/
def refusal? : Except Fault Response → Option NtStatus
  | .error fault => fault.status?
  | .ok _ => none

/-- An answer with a refusing status is the failure of that status. -/
theorem eq_of_refusal? {answer : Except Fault Response} {status : NtStatus}
    (refused : refusal? answer = some status) : answer = .error (.status status) := by
  rcases answer with fault | response
  · -- Of the failures only a status is a refusal.
    cases fault with
    | status code => rw [Option.some.inj refused]
    | _ => simp [refusal?, Fault.status?] at refused
  · simp [refusal?] at refused

/-- The page of a search that came of a request. -/
def foundPage? : Except Fault Response → Option FindPage
  | .ok (.find page) => some page
  | _ => none

/-- An answer with a page of a search is that page. -/
theorem eq_of_foundPage? {answer : Except Fault Response} {page : FindPage}
    (found : foundPage? answer = some page) : answer = .ok (.find page) := by
  rcases answer with fault | response
  · simp [foundPage?] at found
  · -- Of the responses only this one carries such a page.
    cases response with
    | find other => rw [Option.some.inj found]
    | _ => simp [foundPage?] at found

namespace Session

/-- What was said about pages so far. -/
def talk (session : Session) : List (Request × Except Fault Response) :=
  session.passages.toList.filterMap Passage.word?

variable {session after : Session} {tree : TreeRef} {request : Request} {delivery : Delivery}
  {answer : Except Fault Response}

/-- Writing an event down is no word about pages. -/
@[simp]
theorem talk_note (session : Session) (event : Event) :
    (session.note event).talk = session.talk :=
  -- Nothing passes at the server.
  rfl

/-- Running a hook is no word about pages. -/
@[simp]
theorem talk_noteHook (session : Session) (listing : String) (hook : Hook) :
    (session.noteHook listing hook).talk = session.talk :=
  -- Nothing passes at the server.
  rfl

/-- Writing a failure down is no word about pages. -/
@[simp]
theorem talk_noteFailure (session : Session) (event : Fault → Event)
    (result : Except Fault Unit) : (session.noteFailure event result).talk = session.talk := by
  -- Whether or not there is a failure, only the log changes.
  cases result <;> rfl

/-- Losing the connection is no word about pages. -/
theorem talk_invalidate (session : Session) : session.invalidate.talk = session.talk := by
  -- The loss is among the passages, but is no request.
  have lost : (session.passages.push .lost).toList.filterMap Passage.word? =
      session.passages.toList.filterMap Passage.word? := by
    simp [Passage.word?]
  unfold invalidate
  simp only
  split
  · exact lost
  · exact lost

/-- A request is added to what was said if it asks for a page. -/
theorem talk_exchange (session : Session) (tid : Option TreeId) (request : Request)
    (delivery : Delivery) :
    (session.exchange tid request delivery).2.talk =
      session.talk ++
        if request.asksForPage then [(request, (session.exchange tid request delivery).1)]
        else [] := by
  -- What the answer says about the connection is no word about pages.
  have heeded (session : Session) (answer : Except Fault Response) :
      (session.heed request answer).talk = session.talk := by
    unfold heed
    split
    · exact talk_invalidate _
    · split
      · exact talk_invalidate _
      · rfl
    · rfl
  unfold exchange
  refine (heeded _ _).trans ?_
  simp only [talk, pass, note, Array.toList_push, List.filterMap_append, List.filterMap_cons,
    List.filterMap_nil, Passage.word?]
  split <;> simp_all

/-- A request for a page is sent and added to what was said, or its handle is worth nothing. -/
theorem talk_send (asks : request.asksForPage = true)
    (sent : session.send tree request delivery = (answer, after)) :
    after.talk = session.talk ++ [(request, answer)] ∨
      after.talk = session.talk ∧ ∃ why, answer = .error (.invalidHandle why) := by
  unfold send at sent
  split at sent
  · simp only [Prod.mk.injEq] at sent
    obtain ⟨rfl, rfl⟩ := sent
    exact .inr ⟨rfl, _, rfl⟩
  · rename_i handle found
    split at sent
    · rename_i fault invalid
      simp only [Prod.mk.injEq] at sent
      obtain ⟨rfl, rfl⟩ := sent
      -- A handle is refused because it was closed or because its connection is gone.
      unfold Handle.ensureValid at invalid
      split at invalid
      · simp only [Except.error.injEq] at invalid
        exact .inr ⟨rfl, _, congrArg Except.error invalid.symm⟩
      · split at invalid
        · simp at invalid
        · simp only [Except.error.injEq] at invalid
          exact .inr ⟨rfl, _, congrArg Except.error invalid.symm⟩
    · have said := session.talk_exchange (some handle.resource.tid) request delivery
      rw [if_pos asks, sent] at said
      exact .inl said

/-- Any other request is no word about pages. -/
theorem talk_exchange_other (session : Session) (tid : Option TreeId) (delivery : Delivery)
    (other : request.asksForPage = false) :
    (session.exchange tid request delivery).2.talk = session.talk := by
  -- What an exchange adds to the talk depends on its request alone.
  rw [talk_exchange, if_neg (by simp [other]), List.append_nil]

/-- Sending any other request on a tree is no word about pages. -/
theorem talk_send_other (session : Session) (tree : TreeRef) (delivery : Delivery)
    (other : request.asksForPage = false) :
    (session.send tree request delivery).2.talk = session.talk := by
  unfold send
  -- Either nothing is sent, or it comes to an exchange.
  split
  · rfl
  · split
    · rfl
    · exact talk_exchange_other _ _ _ other

/-- Giving a tree back to the server is no word about pages. -/
theorem talk_disconnect (tree : ConnectedTree) (session : Session) :
    (disconnect tree session).2.talk = session.talk := by
  -- Giving the tree up in the session passes nothing.
  have detached (session : Session) : (session.detach tree.generation).talk = session.talk := by
    unfold detach
    split <;> rfl
  unfold disconnect
  simp only [talk_note, detached]
  split
  · exact talk_exchange_other _ _ _ rfl
  · rfl

/-- Releasing a tree is no word about pages. -/
@[simp]
theorem talk_releaseTree (session : Session) (tree : TreeRef) :
    (session.releaseTree tree).2.talk = session.talk := by
  unfold releaseTree
  split
  · rfl
  · rename_i handle found
    rcases handle.release_cases (treeHome tree) session with
      ⟨_, event, outcome⟩ | ⟨_, event, outcome⟩ | ⟨_, outcome⟩
    · rw [outcome]
      rfl
    · -- The last release sends a request, which asks for no page.
      rw [outcome]
      exact talk_disconnect handle.resource _
    · rw [outcome]
      rfl

/-- Forgetting a tree is no word about pages. -/
@[simp]
theorem talk_forgetTree (session : Session) (tree : TreeRef) :
    (session.forgetTree tree).talk = session.talk := by
  -- A place less that knows a tree is a matter of the tables and the log.
  obtain ⟨log, forgotten⟩ := session.forgetTree_eq tree
  rw [forgotten]
  rfl

/-- Acquiring the tree is no word about pages. -/
theorem talk_acquire (acquired : session.acquire = (.ok tree, after)) :
    after.talk = session.talk := by
  rcases session.acquire_cases with ⟨shared, later, _, taken, outcome⟩ | ⟨_, outcome⟩
  · rw [outcome] at acquired
    simp only [Prod.mk.injEq, Except.ok.injEq] at acquired
    obtain ⟨rfl, rfl⟩ := acquired
    obtain ⟨_, rfl⟩ := acquireTree_ok taken
    rfl
  · -- Connecting the share sends one request.
    rw [outcome] at acquired
    obtain ⟨tid, later, log, answered, _, rfl⟩ := connect_ok acquired
    have connected := session.talk_exchange_other none .plain
      (show (Request.treeConnect session.sharePath).asksForPage = false from rfl)
    rw [answered] at connected
    exact connected

/-- Nor is it when no tree can be had. -/
theorem talk_acquire_refused {fault : Fault}
    (refused : session.acquire = (.error fault, after)) : after.talk = session.talk := by
  -- Sharing cannot fail, so the tree was to be connected, and that asks for no page.
  rcases session.acquire_cases with ⟨_, _, _, _, outcome⟩ | ⟨_, outcome⟩
  · simp [outcome] at refused
  · rw [outcome] at refused
    obtain ⟨answer, answered, _⟩ := connect_error refused
    have connected := session.talk_exchange_other none .plain
      (show (Request.treeConnect session.sharePath).asksForPage = false from rfl)
    rw [answered] at connected
    exact connected

/-- Adopting an open file is no word about pages. -/
@[simp]
theorem talk_adoptFile (session : Session) (tree : TreeRef) (fid : FileId) (path : String)
    (mode : OpenMode) : (session.adoptFile tree fid path mode).2.talk = session.talk := by
  -- If it is refused nothing changes, and if not, tables and log do.
  rcases adopted : session.adoptFile tree fid path mode with ⟨fault | file, after⟩
  · rw [adoptFile_refused adopted]
  · obtain ⟨_, _, log, rfl⟩ := adoptFile_ok adopted
    rfl

/-- Closing a file is no word about pages. -/
theorem talk_closeFile (file : OpenFile) (session : Session) :
    (closeFile file session).2.talk = session.talk := by
  unfold closeFile
  simp only [talk_releaseTree]
  -- The server is asked to close the file, or not.
  split
  · exact talk_send_other _ _ _ rfl
  · rfl

/-- Releasing a file is no word about pages. -/
@[simp]
theorem talk_releaseFile (session : Session) (file : FileRef) :
    (session.releaseFile file).2.talk = session.talk := by
  unfold releaseFile
  split
  · rfl
  · rename_i handle found
    rcases handle.release_cases (fileHome file) session with
      ⟨_, event, outcome⟩ | ⟨_, event, outcome⟩ | ⟨_, outcome⟩
    · rw [outcome]
      rfl
    · -- The last release closes the file, which asks for no page.
      rw [outcome]
      exact talk_closeFile handle.resource _
    · rw [outcome]
      rfl

/-- Forgetting a file is no word about pages. -/
@[simp]
theorem talk_forgetFile (session : Session) (file : FileRef) :
    (session.forgetFile file).talk = session.talk := by
  -- Where there is no such file nothing is forgotten.
  cases found : session.file? file with
  | none => simp [forgetFile, found]
  | some handle =>
    obtain ⟨log, forgotten⟩ := forgetFile_eq found
    rw [forgotten]
    rfl

end Session

end SmbBrowser
