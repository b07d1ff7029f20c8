import SmbBrowser.Proofs.Session.Orderly
import SmbBrowser.Proofs.Workbench.Account

/-!
Requests from a workbench: whatever is done there, however often trees are released and whatever
fails meanwhile, nothing is ever sent on a tree that was overtaken, lost or given back.
-/

namespace SmbBrowser

/-- An operation that leaves connecting and giving back to the handles. -/
def Operation.leavesTrees : Operation → Bool
  | .closeTree _ => false
  | .send _ request _ => !request.isTreeRequest
  | _ => true

/-- Whoever leaves the trees alone needs no licence but to release too often. -/
theorem Operation.permits_of_leavesTrees {operation : Operation}
    (leaves : operation.leavesTrees = true) : Licence.careless.Permits operation := by
  -- The two that are excluded are the only ones that would need another licence.
  cases operation with
  | closeTree name => simp [leavesTrees] at leaves
  | send name request delivery =>
    refine ⟨fun isTree => ?_, fun _ => trivial⟩
    simp [leavesTrees, isTree] at leaves
  | _ => trivial

/-- Whatever is done on a workbench, both sides remember the same requests, and each of them but
those that connect a tree was sent on the tree that was live by then. -/
theorem Workbench.run_asksLiveTrees (settings : Settings) (transcript : Transcript)
    (sharePath oemDomain : String) (operations : List Operation)
    (leaves : ∀ operation ∈ operations, operation.leavesTrees = true) :
    let session := (run operations
      { session := .new settings (.ofTranscript transcript) sharePath oemDomain }).2.session
    requestsOf session.passages.toList = session.server.sent.toList ∧
      AsksLiveTrees session.passages.toList := by
  -- The counts of the places that know a handle and the order of the session are kept together.
  have keeps {before after : Session × Multiset Stake} (deal : Deal .careless before after)
      (kept : Known before.1.trees before.1.files before.2 ∧ Orderly before.1) :
      Known after.1.trees after.1.files after.2 ∧ Orderly after.1 :=
    ⟨deal.known kept.1, deal.orderly kept.1 kept.2⟩
  have permitted : ∀ operation ∈ operations, Licence.careless.Permits operation :=
    fun operation listed => Operation.permits_of_leavesTrees (leaves operation listed)
  obtain ⟨kept, _⟩ := Account.run_new_keeps keeps permitted (.inl trivial)
    ⟨Known.new, Orderly.new settings transcript sharePath oemDomain⟩
  have orderly : Orderly (((Account.new settings (.ofTranscript transcript) sharePath
      oemDomain).run operations).bench.session) := kept.2
  rw [Account.bench_run] at orderly
  exact ⟨orderly.recorded, orderly.asks⟩

/-- A caller who releases a tree once too often, connects anew and uses both trees. -/
def releasedTooOften : List Operation :=
  [.connect "old", .acquire "old" "further", .release "old", .release "further",
    .release "further", .connect "new", .send "old" (.close (.legacy 0)) .plain,
    .send "new" (.close (.legacy 0)) .plain]

/-- The old tree is given back once, and the request on it is not sent. -/
theorem Workbench.run_asksLiveTrees_releasedTooOften :
    let session := (run releasedTooOften
      { session := .new { maxBufferSize := 1 } (.ofTranscript { dialect := .smb2 }) "" "" }).2.session
    session.server.sent.toList.map (·.tid) = [none, some ⟨1⟩, none, some ⟨2⟩] ∧
      AsksLiveTrees session.passages.toList :=
  -- What is sent is computed, and that it is sent on live trees is the theorem's affair.
  ⟨by decide, (run_asksLiveTrees { maxBufferSize := 1 } { dialect := .smb2 } "" ""
    releasedTooOften (by decide)).2⟩

end SmbBrowser
