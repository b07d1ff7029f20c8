import SmbBrowser.Proofs.Session.Stroke

/-!
What becomes of failures. The log of a session is only written to; a failure that is met on the way
is disclosed if it is answered or if its wording is in an event that was written since.
-/

namespace SmbBrowser

/-- An event has the wording of a failure in its error field. -/
def Event.Tells (event : Event) (fault : Fault) : Prop :=
  ("error", .text fault.message) ∈ event.fields

/-- The failure that an event is about, if it is about one. -/
def Event.fault? : Event → Option Fault
  | .searchCloseFailed _ fault | .orphanCloseFailed _ fault | .cursorOpenFailed _ fault
  | .cursorAdvanceFailed _ fault | .cursorFinishFailed _ fault | .cursorReleaseFailed _ fault
  | .nameFilterFailed _ fault | .streamOpenReleaseFailed fault | .streamReleaseFailed fault
  | .adaptFailed _ fault | .streamFilterFailed _ fault
  | .resourceReleaseFailed _ fault => some fault
  | _ => none

/-- An event that is about a failure has its wording. -/
theorem Event.Tells.of_fault? {event : Event} {fault : Fault} (about : event.fault? = some fault) :
    event.Tells fault := by
  -- Each event that is about a failure shows it in one of its fields.
  cases event <;> simp_all [fault?, Tells, fields]

/-- The failure that something came to, if it failed. -/
def failureOf {Result : Type} : Except Fault Result → Option Fault
  | .ok _ => none
  | .error fault => some fault

/-- Something failed with a failure exactly if this is its result. -/
theorem failureOf_eq_some {Result : Type} {result : Except Fault Result} {fault : Fault} :
    failureOf result = some fault ↔ result = .error fault := by
  -- What succeeded has no failure.
  cases result <;> simp [failureOf]

namespace Session

/-- What is written in the log stays there: at most more is written. -/
def KeepsLog (before after : Session) : Prop := before.log.toList <+: after.log.toList

/-- What was written from one moment to another. -/
def written (before after : Session) : List Event := after.log.toList.drop before.log.size

/-- A failure was written down from one moment to another. -/
def WritesDown (before after : Session) (fault : Fault) : Prop :=
  ∃ event ∈ before.written after, event.Tells fault

/-- The log was only written to, and each failure that was met is answered or was written down. -/
structure Discloses (before after : Session) (answer : Option Fault) (met : List Fault) : Prop where
  /-- What was written stays written. -/
  keeps : before.KeepsLog after
  /-- No failure vanishes. -/
  told : ∀ fault ∈ met, answer = some fault ∨ before.WritesDown after fault

section Log

variable {before middle after : Session}

/-- A session keeps its own log. -/
theorem KeepsLog.refl (session : Session) : session.KeepsLog session :=
  -- Nothing was written.
  List.prefix_rfl

/-- What is kept twice is kept on the whole. -/
theorem KeepsLog.trans (first : before.KeepsLog middle) (second : middle.KeepsLog after) :
    before.KeepsLog after :=
  -- A front of a front is a front.
  List.IsPrefix.trans first second

/-- What is written in two steps is what is written in each. -/
theorem written_trans (first : before.KeepsLog middle) (second : middle.KeepsLog after) :
    before.written after = before.written middle ++ middle.written after := by
  -- The last log is the first one with what was written in either step behind it.
  obtain ⟨early, first⟩ := first
  obtain ⟨late, second⟩ := second
  simp only [written, ← Array.length_toList, ← second, ← first, List.append_assoc,
    List.drop_append, List.drop_length, List.length_append]
  simp

/-- Writing events down keeps what was written. -/
theorem KeepsLog.noteAll (session : Session) (events : List Event) :
    session.KeepsLog (session.noteAll events) :=
  -- They are put behind the others.
  ⟨events, by simp [Session.noteAll]⟩

/-- What is written by writing events down is these events. -/
theorem written_noteAll (session : Session) (events : List Event) :
    session.written (session.noteAll events) = events := by
  -- The log before them is dropped from the log behind them.
  simp [written, Session.noteAll, ← Array.length_toList]

/-- Writing an event down keeps what was written. -/
theorem KeepsLog.note (session : Session) (event : Event) : session.KeepsLog (session.note event) :=
  -- It is put behind the others.
  ⟨[event], by simp [Session.note]⟩

/-- What is written by writing an event down is this event. -/
theorem written_note (session : Session) (event : Event) :
    session.written (session.note event) = [event] := by
  -- The log before it is dropped from the log behind it.
  simp [written, Session.note, ← Array.length_toList]

/-- What was written down early stays written down. -/
theorem WritesDown.early {fault : Fault} (told : before.WritesDown middle fault)
    (first : before.KeepsLog middle) (second : middle.KeepsLog after) :
    before.WritesDown after fault := by
  -- The early part of what was written on the whole has the event.
  obtain ⟨event, listed, tells⟩ := told
  exact ⟨event, by rw [written_trans first second]; exact List.mem_append_left _ listed, tells⟩

/-- What is written down late is written down on the whole. -/
theorem WritesDown.late {fault : Fault} (told : middle.WritesDown after fault)
    (first : before.KeepsLog middle) (second : middle.KeepsLog after) :
    before.WritesDown after fault := by
  -- The late part of what was written on the whole has the event.
  obtain ⟨event, listed, tells⟩ := told
  exact ⟨event, by rw [written_trans first second]; exact List.mem_append_right _ listed, tells⟩

/-- An event with the wording of a failure writes the failure down. -/
theorem writesDown_note (session : Session) {event : Event} {fault : Fault}
    (tells : event.Tells fault) : session.WritesDown (session.note event) fault :=
  -- It is the one event that was written.
  ⟨event, by simp [written_note], tells⟩

end Log

namespace Discloses

variable {before middle after : Session} {answer later : Option Fault} {met more : List Fault}

/-- Where no failure is met there is nothing to tell. -/
theorem nothing (keeps : before.KeepsLog after) : before.Discloses after answer [] :=
  -- The list of what was met is empty.
  ⟨keeps, by simp⟩

/-- A failure that is answered is told. -/
theorem answered (answer : Option Fault) (keeps : before.KeepsLog after) :
    before.Discloses after answer answer.toList :=
  -- What was met is the answer itself.
  ⟨keeps, fun _ listed => .inl (Option.mem_toList.mp listed)⟩

/-- Nothing is taken back by what is written later, which has to tell what is no longer answered. -/
theorem pass (first : before.Discloses middle answer met) (keeps : middle.KeepsLog after)
    (passed : ∀ fault, answer = some fault → later = some fault ∨ middle.WritesDown after fault) :
    before.Discloses after later met := by
  refine ⟨first.keeps.trans keeps, fun fault listed => ?_⟩
  -- What was written down stays so; what was answered is answered on or written down now.
  rcases first.told fault listed with isAnswer | told
  · exact (passed fault isAnswer).imp_right fun told => told.late first.keeps keeps
  · exact .inr (told.early first.keeps keeps)

/-- More that was met in the same time is told as well. -/
theorem also (first : before.Discloses after answer met)
    (second : before.Discloses after answer more) :
    before.Discloses after answer (met ++ more) :=
  -- Each failure is in one of the two lists.
  ⟨first.keeps, fun fault listed =>
    (List.mem_append.mp listed).elim (first.told fault) (second.told fault)⟩

/-- What is still answered need not be told again. -/
theorem kept (first : before.Discloses middle answer met) (keeps : middle.KeepsLog after) :
    before.Discloses after answer met :=
  -- The answer is passed on as it is.
  first.pass keeps fun _ isAnswer => .inl isAnswer

/-- Nothing is hidden by what was written earlier. -/
theorem behind (keeps : before.KeepsLog middle) (second : middle.Discloses after answer met) :
    before.Discloses after answer met :=
  -- What was written down in the later part was written down on the whole.
  ⟨keeps.trans second.keeps, fun fault listed =>
    (second.told fault listed).imp_right fun told => told.late keeps second.keeps⟩

/-- One thing is done after another: what the first one answers has to be told by the second. -/
theorem append (first : before.Discloses middle answer met)
    (second : middle.Discloses after later more)
    (passed : ∀ fault, answer = some fault → later = some fault ∨ middle.WritesDown after fault) :
    before.Discloses after later (met ++ more) := by
  refine ⟨first.keeps.trans second.keeps, fun fault listed => ?_⟩
  rcases List.mem_append.mp listed with early | late
  · -- What the first one answered is passed on, and what it wrote down stays.
    exact (first.pass second.keeps passed).told fault early
  · exact (second.behind first.keeps).told fault late

/-- What is done without an answer passes nothing on. -/
theorem followed (first : before.Discloses middle none met)
    (second : middle.Discloses after later more) : before.Discloses after later (met ++ more) :=
  -- There is no answer that would be lost.
  first.append second (by simp)

/-- A failure that is written down need not be answered. -/
theorem note {fault : Fault} {event : Event} (first : before.Discloses middle (some fault) met)
    (tells : event.Tells fault) : before.Discloses (middle.note event) later met := by
  refine first.pass (.note middle event) fun other isAnswer => .inr ?_
  -- The only failure that was answered is the one that is written down.
  obtain rfl := Option.some.inj isAnswer
  exact writesDown_note middle tells

/-- Once it is written down what came of something, it need not be answered. -/
theorem noteFailure {result : Except Fault Unit}
    (first : before.Discloses middle (failureOf result) met) (event : Fault → Event)
    (tells : ∀ fault, (event fault).Tells fault) (later : Option Fault) :
    before.Discloses (middle.noteFailure event result) later met := by
  -- What succeeded answered no failure, and a failure is written down.
  cases result with
  | ok _ => exact first.pass (.refl middle) (by simp [failureOf])
  | error fault => exact first.note (tells fault)

end Discloses

/-! Whatever is done with a session, its log is only written to. -/

section Operations

variable (session : Session)

/-- Losing the connection writes to the log at most. -/
theorem invalidate_keepsLog : session.KeepsLog session.invalidate := by
  unfold invalidate
  simp only
  -- Only a connection that was up is told of as lost.
  split
  · exact .note (pass { session with resets := session.resets + 1, connected := false } .lost) _
  · exact .refl session

/-- Heeding what an answer says of the connection writes to the log at most. -/
theorem heed_keepsLog (request : Request) (answer : Except Fault Response) :
    session.KeepsLog (session.heed request answer) := by
  unfold heed
  -- Either the answer says nothing of it, or its loss is written down.
  split
  · exact (KeepsLog.note session _).trans (invalidate_keepsLog _)
  · split
    · exact (KeepsLog.note session _).trans (invalidate_keepsLog _)
    · exact .refl session
  · exact .refl session

/-- An exchange writes to the log at most. -/
theorem exchange_keepsLog (tid : Option TreeId) (request : Request) (delivery : Delivery) :
    session.KeepsLog (session.exchange tid request delivery).2 := by
  -- Taking a buffer and asking the server writes nothing.
  have taken (pool : ScratchPool) (server : Playback) (passage : Passage) :
      session.KeepsLog ({ session with pool, server }.pass passage) := .refl session
  exact ((taken _ _ _).trans (.note _ _)).trans (heed_keepsLog _ _ _)

/-- Sending a request on a tree writes to the log at most. -/
theorem send_keepsLog (tree : TreeRef) (request : Request) (delivery : Delivery) :
    session.KeepsLog (session.send tree request delivery).2 := by
  -- An invalid tree is refused, and nothing is written then.
  rcases session.send_cases tree request delivery with ⟨owner, _, _, sent⟩ | ⟨_, fault, refused⟩
  · rw [sent]
    exact session.exchange_keepsLog _ request delivery
  · rw [refused]
    exact .refl session

/-- Giving a tree back to the server writes to the log at most. -/
theorem disconnect_keepsLog (tree : ConnectedTree) :
    session.KeepsLog (disconnect tree session).2 := by
  -- Giving the tree up in the session writes nothing.
  have detached (session : Session) : session.KeepsLog (session.detach tree.generation) := by
    unfold detach
    split <;> exact .refl session
  unfold disconnect
  simp only
  refine .trans ?_ ((detached _).trans (.note _ _))
  split
  · exact session.exchange_keepsLog _ _ _
  · exact .note session _

/-- Sharing a tree writes nothing. -/
theorem acquireTree_keepsLog (tree : TreeRef) : session.KeepsLog (session.acquireTree tree).2 := by
  unfold acquireTree
  -- Refused or granted, the log is not touched.
  split
  · exact .refl session
  · split <;> exact .refl session

/-- Releasing a tree writes to the log at most. -/
theorem releaseTree_keepsLog (tree : TreeRef) : session.KeepsLog (session.releaseTree tree).2 := by
  unfold releaseTree
  split
  · exact .refl session
  · rename_i handle _
    rcases handle.release_cases (treeHome tree) session with
      ⟨_, event, outcome⟩ | ⟨_, event, outcome⟩ | ⟨_, outcome⟩ <;> rw [outcome]
    · exact .note session event
    · -- The last release is written down before the tree is given back.
      have noted : session.KeepsLog ((session.putTree tree handle.released).note event) :=
        .note (session.putTree tree handle.released) event
      exact noted.trans (disconnect_keepsLog _ _)
    · exact .refl session

/-- What giving a tree back fails with is written down, and need not be answered. -/
theorem releaseTree_discloses (tree : TreeRef) (event : Fault → Event)
    (tells : ∀ fault, (event fault).Tells fault) (answer : Option Fault) :
    session.Discloses
      ((session.releaseTree tree).2.noteFailure event (session.releaseTree tree).1) answer
      (failureOf (session.releaseTree tree).1).toList :=
  -- The failure is the answer of the release, and the event takes its place.
  (Discloses.answered _ (session.releaseTree_keepsLog tree)).noteFailure event tells
    answer

/-- One more place that knows a tree writes nothing. -/
theorem keepTree_keepsLog (tree : TreeRef) : session.KeepsLog (session.keepTree tree) := by
  -- It is a change of the table.
  rw [keepTree_eq]
  exact .refl session

/-- Forgetting a tree writes to the log at most. -/
theorem forgetTree_keepsLog (tree : TreeRef) : session.KeepsLog (session.forgetTree tree) := by
  unfold forgetTree
  split
  · exact .refl session
  · rename_i handle _
    simp only
    split
    · -- The tree was forgotten with a reference left, which is written down.
      exact .note (session.putTree tree handle.forget) _
    · exact .refl session

/-- Connecting a tree writes to the log at most. -/
theorem connect_keepsLog : session.KeepsLog session.connect.2 := by
  have asked := session.exchange_keepsLog none (.treeConnect session.sharePath) .plain
  unfold connect
  split <;> rename_i answered <;> rw [answered] at asked
  · exact asked
  · -- A tree that was connected is written down.
    exact asked.trans (.note _ _)
  · exact asked

/-- Acquiring a tree writes to the log at most. -/
theorem acquire_keepsLog : session.KeepsLog session.acquire.2 := by
  -- The current tree is shared, or a new one is connected.
  rcases session.acquire_cases with ⟨tree, after, _, taken, outcome⟩ | ⟨_, outcome⟩ <;> rw [outcome]
  · have shared := session.acquireTree_keepsLog tree
    rwa [taken] at shared
  · exact session.connect_keepsLog

/-- Closing a file writes to the log at most. -/
theorem closeFile_keepsLog (file : OpenFile) : session.KeepsLog (closeFile file session).2 := by
  unfold closeFile
  simp only
  -- Whether or not the server is asked, the tree is released behind it.
  refine .trans ?_ (releaseTree_keepsLog _ _)
  split
  · exact session.send_keepsLog _ _ _
  · exact .note session _

/-- Releasing a file writes to the log at most. -/
theorem releaseFile_keepsLog (file : FileRef) : session.KeepsLog (session.releaseFile file).2 := by
  unfold releaseFile
  split
  · exact .refl session
  · rename_i handle _
    rcases handle.release_cases (fileHome file) session with
      ⟨_, event, outcome⟩ | ⟨_, event, outcome⟩ | ⟨_, outcome⟩ <;> rw [outcome]
    · exact .note session event
    · -- The last release is written down before the file is closed.
      have noted : session.KeepsLog ((session.putFile file handle.released).note event) :=
        .note (session.putFile file handle.released) event
      exact noted.trans (closeFile_keepsLog _ _)
    · exact .refl session

/-- Why the server does not take back a file that is given up with this reference. -/
def takeBackFailures (file : FileRef) : List Fault :=
  match session.file? file with
  | none => []
  | some handle =>
    let session := (session.putFile file handle.released).note
      (.handleClosing (describeFile handle.resource))
    if handle.refs = 1 ∧ session.isTreeValid handle.resource.tree then
      (failureOf
        (session.send handle.resource.tree (.close handle.resource.fid) .cleanup).1).toList
    else []

/-- That the server does not take a file back is answered, whatever comes of the file's tree. -/
theorem releaseFile_failed (file : FileRef) {fault : Fault}
    (met : fault ∈ session.takeBackFailures file) :
    (session.releaseFile file).1 = .error fault := by
  unfold takeBackFailures at met
  unfold releaseFile
  cases found : session.file? file with
  | none => simp [found] at met
  | some handle =>
    simp only [found, List.mem_ite_nil_right, Option.mem_toList, failureOf_eq_some] at met
    obtain ⟨⟨last, valid⟩, failed⟩ := met
    simp only [handle.release_last (fileHome file) last session]
    unfold fileHome closeFile
    -- Of two failures the one of the request counts.
    simp only [valid, failed, if_true]
    rfl

/-- Forgetting a file writes to the log at most. -/
theorem forgetFile_keepsLog (file : FileRef) : session.KeepsLog (session.forgetFile file) := by
  unfold forgetFile
  split
  · exact .refl session
  · rename_i handle _
    have stored : session.KeepsLog (session.putFile file handle.forget) := .refl session
    simp only
    split
    · -- The last who forgets a file may lose a reference to it, and forgets its tree as well.
      refine (stored.trans ?_).trans (forgetTree_keepsLog _ _)
      split
      · exact .note _ _
      · exact .refl _
    · exact stored

/-- Adopting an open file writes to the log at most. -/
theorem adoptFile_keepsLog (tree : TreeRef) (fid : FileId) (path : String) (mode : OpenMode) :
    session.KeepsLog (session.adoptFile tree fid path mode).2 := by
  have shared := session.acquireTree_keepsLog tree
  unfold adoptFile
  -- A tree that cannot be shared leaves nothing to be written.
  split <;> rename_i taken <;> rw [taken] at shared
  · exact shared
  · exact shared.trans (.note _ _)

end Operations

end Session

end SmbBrowser
