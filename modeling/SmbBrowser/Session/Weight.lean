import SmbBrowser.Session.File

/-!
What a session can still be told. An answer is always taken off the script, so a session that
keeps asking comes to an end.
-/

namespace SmbBrowser

/-- A request that the other side answers even without a script. -/
def Request.isTreeRequest : Request → Bool
  | .treeConnect _ => true
  | .treeDisconnect => true
  | _ => false

namespace Playback

/-- Answering a request never adds to the script. -/
theorem exchange_suffix (server : Playback) (tid : Option TreeId) (request : Request)
    (delivery : Delivery) (scratch : Nat) :
    (server.exchange tid request delivery scratch).2.script <:+ server.script := by
  unfold exchange
  cases script : server.script with
  | nil => cases request <;> simp [unscripted]
  | cons next rest =>
    -- Either the front of the script is taken, or the script stays as it is.
    simp only
    split
    · simp
    · cases request <;> simp [unscripted]

/-- An answer that is not given unasked was at the front of the script. -/
theorem exchange_ok {server after : Playback} {tid : Option TreeId} {request : Request}
    {delivery : Delivery} {scratch : Nat} {response : Response} {event : Event}
    (scripted : request.isTreeRequest = false)
    (answered : server.exchange tid request delivery scratch = ((.ok response, event), after)) :
    server.script = ⟨request.kind, .ok response⟩ :: after.script := by
  unfold exchange at answered
  cases script : server.script with
  | nil => cases request <;> simp_all [unscripted, Request.isTreeRequest]
  | cons next rest =>
    simp only [script] at answered
    split at answered
    · rename_i expected
      -- The front of the script is what was answered.
      obtain ⟨expect, reply⟩ := next
      cases reply <;> simp_all [result]
      obtain ⟨_, rfl⟩ := answered
      rfl
    · cases request <;> simp_all [unscripted, Request.isTreeRequest]

end Playback

namespace Session

/-- How much the other side can still add to a listing. -/
def weight (session : Session) : Nat := scriptWeight session.server.script

/-- Writing an event down costs the script nothing. -/
@[simp]
theorem weight_note (session : Session) (event : Event) :
    (session.note event).weight = session.weight :=
  -- The log is no part of the script.
  rfl

/-- Writing events down costs the script nothing. -/
@[simp]
theorem weight_noteAll (session : Session) (events : List Event) :
    (session.noteAll events).weight = session.weight :=
  -- However many they are, they go to the log.
  rfl

/-- Writing a failure down costs the script nothing. -/
@[simp]
theorem weight_noteFailure (session : Session) (event : Fault → Event)
    (result : Except Fault Unit) : (session.noteFailure event result).weight = session.weight := by
  -- Whether or not there is a failure, only the log changes.
  cases result <;> rfl

/-- Writing down the call of a listing costs the script nothing. -/
@[simp]
theorem weight_noteHook (session : Session) (listing : String) (hook : Hook) :
    (session.noteHook listing hook).weight = session.weight :=
  -- A call is an event, too.
  rfl

/-- What an answer says about the connection does not touch the script. -/
theorem server_heed (session : Session) (request : Request) (answer : Except Fault Response) :
    (session.heed request answer).server = session.server := by
  unfold heed
  split <;> try split
  -- Either nothing is heeded, or the connection is given up, which the script does not see.
  all_goals first
    | rfl
    | (simp only [invalidate]; split <;> rfl)

/-- A suffix of a script weighs no more than the script. -/
theorem scriptWeight_le {short long : List Exchange} (suffix : short <:+ long) :
    scriptWeight short ≤ scriptWeight long := by
  obtain ⟨front, rfl⟩ := suffix
  -- Each exchange in front of the suffix only adds to the weight.
  induction front with
  | nil => exact Nat.le_refl _
  | cons exchange front ih => exact Nat.le_trans ih (Nat.le_add_left _ _)

/-- Sending a request never adds to the script. -/
theorem weight_exchange_le (session : Session) (tid : Option TreeId) (request : Request)
    (delivery : Delivery) : (session.exchange tid request delivery).2.weight ≤ session.weight := by
  -- What is left of the script is a suffix of it.
  refine scriptWeight_le ?_
  simp only [exchange, server_heed]
  exact session.server.exchange_suffix tid request delivery _

/-- An answered request takes its answer off the script. -/
theorem weight_exchange_ok {session after : Session} {tid : Option TreeId} {request : Request}
    {delivery : Delivery} {response : Response} (scripted : request.isTreeRequest = false)
    (answered : session.exchange tid request delivery = (.ok response, after)) :
    after.weight + 1 + response.entryCount = session.weight := by
  simp only [exchange, Prod.mk.injEq] at answered
  obtain ⟨answer, rfl⟩ := answered
  generalize outcome : session.server.exchange tid request delivery session.pool.take.1.size = sent
    at answer
  obtain ⟨⟨_, event⟩, server⟩ := sent
  simp only at answer
  subst answer
  -- An answer that is scripted was the front of the script, and that is gone now.
  have front := Playback.exchange_ok scripted outcome
  simp only [weight, server_heed, note, pass, front, scriptWeight, Exchange.weight]
  omega

/-- A request answered on a tree takes its answer off the script. -/
theorem weight_send_ok {session after : Session} {tree : TreeRef} {request : Request}
    {delivery : Delivery} {response : Response} (scripted : request.isTreeRequest = false)
    (answered : session.send tree request delivery = (.ok response, after)) :
    after.weight + 1 + response.entryCount = session.weight := by
  unfold send at answered
  -- An answer means that the tree could be asked, and that it was an exchange.
  split at answered
  · simp at answered
  · split at answered
    · simp at answered
    · exact weight_exchange_ok scripted answered

/-- One more reference to a tree costs the script nothing. -/
@[simp]
theorem weight_acquireTree (session : Session) (tree : TreeRef) :
    (session.acquireTree tree).2.weight = session.weight := by
  unfold acquireTree
  -- The server is not asked, whether or not the tree can be shared.
  split
  · rfl
  · split <;> rfl

/-- Forgetting a tree costs the script nothing. -/
@[simp]
theorem weight_forgetTree (session : Session) (tree : TreeRef) :
    (session.forgetTree tree).weight = session.weight := by
  unfold forgetTree
  split
  · rfl
  · -- The last who forgets a tree writes that down.
    simp only
    split <;> rfl

/-- Giving a tree up never adds to the script. -/
theorem weight_disconnect_le (tree : ConnectedTree) (session : Session) :
    (disconnect tree session).2.weight ≤ session.weight := by
  -- Giving the tree up in the session does not reach the script.
  have detached (session : Session) : (session.detach tree.generation).weight = session.weight := by
    unfold detach
    split <;> rfl
  unfold disconnect
  simp only [weight_note, detached]
  split
  · exact weight_exchange_le session _ _ _
  · exact Nat.le_refl _

/-- Releasing a tree never adds to the script. -/
theorem weight_releaseTree_le (session : Session) (tree : TreeRef) :
    (session.releaseTree tree).2.weight ≤ session.weight := by
  unfold releaseTree
  split
  · exact Nat.le_refl _
  · unfold Handle.release
    split
    · exact Nat.le_refl _
    · split
      · -- Only the last release asks the server.
        exact weight_disconnect_le _ _
      · exact Nat.le_refl _

end Session

end SmbBrowser
