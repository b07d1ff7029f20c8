import SmbBrowser.Proofs.ScratchPool
import SmbBrowser.Proofs.Session.LiveTree
import SmbBrowser.Proofs.Workbench.Moments

/-!
The buffers that a session lends to its requests. A request takes one buffer and brings it back
before anything else is sent, so that at most one buffer is ever made, and it lies in the pool
between two requests.
-/

namespace SmbBrowser

/-- What a session keeps to whose pool has so many places for buffers of one size: every request was
lent a buffer of that size, and once there was a request the buffer lies in the pool again, if the
pool has a place for it. -/
structure Session.Lending (capacity size : Nat) (session : Session) : Prop where
  sound : session.pool.Sound capacity size
  idle : session.pool.free = if session.server.sent.isEmpty then 0 else min 1 capacity
  lent : ∀ sent ∈ session.server.sent, sent.scratch = size

namespace Session

/-- What an answer says about the connection does not touch the pool. -/
theorem pool_heed (session : Session) (request : Request) (answer : Except Fault Response) :
    (session.heed request answer).pool = session.pool := by
  -- At most the connection is given up, and that touches counters and the log.
  have lost (session : Session) : session.invalidate.pool = session.pool := by
    obtain ⟨log, invalidated⟩ := session.invalidate_eq
    rw [invalidated]
  unfold heed
  split
  · rw [lost]
    rfl
  · split
    · rw [lost]
      rfl
    · rfl
  · rfl

/-- A request leaves the pool as the giving back of the buffer does that was taken for it. -/
theorem pool_exchange (session : Session) (tid : Option TreeId) (request : Request)
    (delivery : Delivery) :
    (session.exchange tid request delivery).2.pool =
      (session.pool.take.2.giveBack session.pool.take.1).2 := by
  -- The buffer is taken before the request and given back whatever the answer is.
  simp only [exchange, pool_heed]
  rfl

namespace Lending

variable {capacity size : Nat} {session after : Session}

/-- Before anything is sent there is no buffer yet. -/
theorem new (settings : Settings) (transcript : Transcript) (sharePath oemDomain : String) :
    Lending settings.bufferCacheSize.toNat settings.maxBufferSize.toNat
      (.new settings (.ofTranscript transcript) sharePath oemDomain) where
  -- Nothing was sent, so nothing was lent and nothing lies in the pool.
  sound := .new _ _
  idle := rfl
  lent sent listed := by simp [Session.new, Playback.ofTranscript] at listed

/-- Only the pool and what was sent matter. -/
theorem of_same (lending : Lending capacity size session) (pool : after.pool = session.pool)
    (sent : after.server.sent = session.server.sent) : Lending capacity size after where
  -- Each of the three conditions speaks of one or the other.
  sound := pool ▸ lending.sound
  idle := by rw [pool, sent, lending.idle]
  lent request listed := lending.lent request (sent ▸ listed)

/-- A request borrows a buffer of the right size and brings it back. -/
theorem exchange (lending : Lending capacity size session) (tid : Option TreeId)
    (request : Request) (delivery : Delivery) :
    Lending capacity size (session.exchange tid request delivery).2 := by
  obtain ⟨zeroed, sound, left⟩ := lending.sound.take
  have fits : session.pool.take.1.size = size := by
    rw [zeroed]
    exact Array.size_replicate
  obtain ⟨again, brought⟩ := sound.giveBack session.pool.take.1
  have pool := session.pool_exchange tid request delivery
  have sent := session.sent_exchange tid request delivery
  refine ⟨?_, ?_, ?_⟩
  · rw [pool]
    exact again
  · -- Whether a buffer lay in the pool before or was made, one lies there if there is a place.
    have before : session.pool.free ≤ min 1 capacity := by
      rw [lending.idle]
      split
      · exact Nat.zero_le _
      · exact Nat.le_refl _
    have some : (session.server.sent.push
        { tid, request, delivery, scratch := session.pool.take.1.size }).isEmpty = false := by
      simp
    rw [pool, sent, brought, left, some, fits, if_neg Bool.false_ne_true]
    split
    · omega
    · omega
  · intro request listed
    rw [sent, Array.mem_push] at listed
    rcases listed with earlier | rfl
    · exact lending.lent request earlier
    · exact fits

/-- A request on a tree borrows a buffer, or is not sent. -/
theorem send (lending : Lending capacity size session) (tree : TreeRef) (request : Request)
    (delivery : Delivery) : Lending capacity size (session.send tree request delivery).2 := by
  -- A tree that is invalid has its request refused on this side.
  rcases session.send_cases tree request delivery with ⟨handle, _, _, sent⟩ | ⟨_, fault, refused⟩
  · rw [sent]
    exact lending.exchange _ request delivery
  · rw [refused]
    exact lending

/-- Connecting the share borrows a buffer, whatever is answered. -/
theorem connect (lending : Lending capacity size session) :
    Lending capacity size session.connect.2 := by
  have asked := lending.exchange none (.treeConnect session.sharePath) .plain
  unfold Session.connect
  -- The handle that is made is no business of the pool.
  split <;> rename_i answered <;> rw [answered] at asked
  · exact asked
  · exact asked.of_same rfl rfl
  · exact asked

/-- Giving a tree back borrows a buffer, unless the connection was lost before. -/
theorem disconnect (lending : Lending capacity size session) (tree : ConnectedTree) :
    Lending capacity size (Session.disconnect tree session).2 := by
  obtain ⟨asked, either, server, pool⟩ := disconnect_asks tree session
  -- Whether the server is asked or not, what follows is a matter of counters.
  rcases either with rfl | rfl
  · exact (lending.exchange _ .treeDisconnect .cleanup).of_same pool (congrArg _ server)
  · exact lending.of_same pool (congrArg _ server)

/-- Closing a file borrows a buffer, unless its tree is gone. -/
theorem closeOnServer (lending : Lending capacity size session) (file : OpenFile) :
    Lending capacity size (session.closeOnServer file) := by
  -- The tree decides by itself whether the request is sent.
  unfold Session.closeOnServer
  split
  · exact lending.send file.tree (.close file.fid) .cleanup
  · exact lending.of_same rfl rfl

end Lending

end Session

/-- Every stroke borrows a buffer and brings it back, or does without. -/
theorem Stroke.lending {licence : Licence} {capacity size : Nat} {before after : Session}
    (stroke : Stroke licence before after) (lending : before.Lending capacity size) :
    after.Lending capacity size := by
  cases stroke with
  | write log hooks script => exact lending.of_same rfl rfl
  | lose =>
    obtain ⟨log, lost⟩ := before.invalidate_eq
    rw [lost]
    exact lending.of_same rfl rfl
  | connect alone => exact lending.connect
  | ask request delivery licensed found valid => exact lending.exchange _ request delivery
  | recountTree change found recounted => exact lending.of_same rfl rfl
  | closeTree found last =>
    -- The handle is closed before the server is asked.
    apply Session.Lending.disconnect
    exact lending.of_same rfl rfl
  | bypass licensed found => exact lending.disconnect _
  | recountFile change found recounted => exact lending.of_same rfl rfl
  | makeFile file traced => exact lending.of_same rfl rfl
  | closeFile found last =>
    apply Session.Lending.closeOnServer
    exact lending.of_same rfl rfl

/-- Whatever is done and answered, every request was lent a buffer of the size that the settings
say. After every operation no buffer lies in the pool if nothing was sent yet, and one otherwise if
buffers are kept at all. -/
theorem Account.run_lends (settings : Settings) (transcript : Transcript)
    (sharePath oemDomain : String) (operations : List Operation) :
    let session := sessionAfter settings (.ofTranscript transcript) sharePath oemDomain operations
    (∀ sent ∈ session.server.sent, sent.scratch = settings.maxBufferSize.toNat) ∧
      session.pool.free =
        if session.server.sent.isEmpty then 0 else min 1 settings.bufferCacheSize.toNat := by
  intro session
  have permitted : ∀ operation ∈ operations, Licence.anything.Permits operation :=
    fun operation _ => Licence.permits_anything operation
  -- Every stroke keeps the account of loans, whatever the licence.
  have lending : session.Lending settings.bufferCacheSize.toNat settings.maxBufferSize.toNat :=
    sessionAfter_keeps settings (.ofTranscript transcript) sharePath oemDomain trivial
      Stroke.lending permitted (.new settings transcript sharePath oemDomain)
  exact ⟨lending.lent, lending.idle⟩

end SmbBrowser
