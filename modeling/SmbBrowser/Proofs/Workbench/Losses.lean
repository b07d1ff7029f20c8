import SmbBrowser.Proofs.Session.Loss
import SmbBrowser.Proofs.Workbench.Moments

/-!
Losses in the run of a workbench: whatever is being done when a request fails so that the connection
is lost, nothing that was open then is used any more.
-/

namespace SmbBrowser

namespace Account

variable (settings : Settings) (server : Playback) (sharePath oemDomain : String)

/-- Whatever was done before, every request of a run that failed because the connection was lost was
the exchange of one moment; at every moment behind it the session is bereft of what it had then, and
of what it had when the rest of the run began. -/
theorem run_bereft (operations more : List Operation) :
    let start := sessionAfter settings server sharePath oemDomain operations
    let finish := sessionAfter settings server sharePath oemDomain (operations ++ more)
    (∀ before after later, Strokes .anything start before → Stroke .anything before after →
      before.TellsLoss after → Strokes .anything after later → before.Bereft after later) ∧
    ∀ early sent fault late,
      finish.passages.toList =
        start.passages.toList ++ early ++ .asked sent (.error fault) :: late →
      fault.losesConnection = true →
      ∃ before after, Strokes .anything start before ∧
        before.passages.toList = start.passages.toList ++ early ∧
        Stroke .anything before after ∧ before.TellsLoss after ∧
        Strokes .anything after finish ∧ before.Bereft after finish ∧
        start.Bereft after finish := by
  intro start finish
  have permitted (operations : List Operation) :
      ∀ operation ∈ operations, Licence.anything.Permits operation :=
    fun operation _ => Licence.permits_anything operation
  have begun : Ranked start :=
    sessionAfter_keeps settings server sharePath oemDomain trivial Stroke.ranked
      (permitted operations) (.new settings server sharePath oemDomain)
  have bereft (before after later : Session) (reached : Strokes .anything start before)
      (stroke : Stroke .anything before after) (told : before.TellsLoss after)
      (behind : Strokes .anything after later) : before.Bereft after later := by
    have ranked : Ranked before := reached.keeps Stroke.ranked begun
    exact (stroke.loses ranked told).bereft behind
  refine ⟨bereft, fun early sent fault late told loses => ?_⟩
  have strokes : Strokes .anything start finish :=
    sessionAfter_strokes settings server sharePath oemDomain trivial
      (permitted (operations ++ more))
  -- The failure was told of in one stroke, whatever was done before and behind it.
  obtain ⟨before, after, reached, passed, stroke, answered, behind⟩ := strokes.exchange told
  have tells : before.TellsLoss after :=
    ⟨_, _, answered, asked_mem_exchanged sent (.error fault), loses⟩
  have lost := bereft before after _ reached stroke tells behind
  have further : before.Aged finish := stroke.aged.trans (Strokes.aged behind)
  exact ⟨before, after, reached, passed, stroke, tells, behind, lost,
    lost.earlier (Strokes.aged reached) further⟩

/-- A tree with a file on it, on a connection that will break when the shares are asked for. -/
def breaking : List Operation :=
  [.connect "tree", .expect ⟨"create", .ok (.create { fid := .legacy 9 })⟩,
    .openFile "tree" "file" "readme" .directory, .expect ⟨"net_share_enum", .io "gone"⟩]

/-- The tree and the file are valid before the shares are asked for, and invalid behind that. -/
theorem run_bereft_breaking :
    let server := Playback.ofTranscript { dialect := .smb2 }
    let start := sessionAfter { maxBufferSize := 1 } server "" "" breaking
    let finish := sessionAfter { maxBufferSize := 1 } server "" ""
      (breaking ++ [.send "tree" .shareEnum .plain])
    (start.isTreeValid ⟨0⟩ = true ∧ start.isFileValid ⟨0⟩ = true) ∧
      (finish.isTreeValid ⟨0⟩ = false ∧ finish.isFileValid ⟨0⟩ = false) ∧
      ∃ before after, Strokes .anything start before ∧ Stroke .anything before after ∧
        before.TellsLoss after ∧ before.Bereft after after ∧ start.Bereft after finish := by
  intro server start finish
  obtain ⟨each, told⟩ := run_bereft { maxBufferSize := 1 } server "" "" breaking
    [.send "tree" .shareEnum .plain]
  -- Nothing but the failure and its loss passes behind what was done before.
  obtain ⟨before, after, reached, _, stroke, tells, _, _, bereft⟩ :=
    told [] ⟨some ⟨1⟩, .shareEnum, .plain, 1⟩ (.io "gone") [.lost] (by rfl) (by decide)
  exact ⟨⟨by decide, by decide⟩, ⟨by decide, by decide⟩, before, after, reached, stroke, tells,
    each before after after reached stroke tells .refl, bereft⟩

/-- A listing whose chain is answered with a lost connection in the place of the directory. -/
def unnoticed : List Operation :=
  [.connect "tree", .expect ⟨"chain", .ok (.chain [{ status := .networkNameDeleted }])⟩,
    .list "listing" (.ofShare "srv" "data") {}]

/-- What the outcome of one request of a chain says is not heeded: the tree stays valid, is shared
further, and is given back to the server at last. -/
theorem run_unnoticed :
    let server := Playback.ofTranscript { dialect := .smb2 }
    let before := sessionAfter { maxBufferSize := 1 } server "" "" (unnoticed.take 2)
    let after := sessionAfter { maxBufferSize := 1 } server "" "" unnoticed
    let later := sessionAfter { maxBufferSize := 1 } server "" "" (unnoticed ++ [.release "tree"])
    (∃ sent reply, after.passages.toList =
        before.passages.toList ++ [.asked sent (.ok (.chain [reply]))] ∧
      reply.status.dropsConnection = true) ∧
    before.isTreeValid ⟨0⟩ = true ∧ after.isTreeValid ⟨0⟩ = true ∧
    after.acquire.2.server.sentKinds = after.server.sentKinds ∧
    later.server.sentKinds = ["tree_connect", "chain", "tree_disconnect"] := by
  intro server before after later
  -- The chain's answer is read off the passages, and everything else is computed.
  exact ⟨⟨_, _, rfl, by decide⟩, by decide, by decide, by decide, by decide⟩

end Account

end SmbBrowser
