import SmbBrowser.Proofs.Session.Tending
import SmbBrowser.Proofs.Workbench.LiveRequests
import SmbBrowser.Proofs.Workbench.Moments

/-!
The life of the trees on a workbench: when they are connected, shared, given back and superseded,
whatever else is done meanwhile.
-/

namespace SmbBrowser

/-- Anything but tree requests of one's own. -/
def Licence.handling : Licence := ⟨True, True, False, True, True, True⟩

instance : Licence.handling.Works where
  calls := trivial
  abandon := trivial

/-- An operation that puts no tree request through by hand. -/
def Operation.leavesTreeRequests : Operation → Bool
  | .send _ request _ => !request.isTreeRequest
  | _ => true

/-- An operation without tree requests of its own needs no licence for them. -/
theorem Operation.permits_of_leavesTreeRequests {operation : Operation}
    (leaves : operation.leavesTreeRequests = true) : Licence.handling.Permits operation := by
  -- Only a request that is put through by hand can be one of those.
  cases operation with
  | closeTree name => trivial
  | send name request delivery =>
    refine ⟨fun isTree => ?_, fun _ => trivial⟩
    simp [leavesTreeRequests, isTree] at leaves
  | _ => trivial

/-- Whatever was asked between a workbench and a later session is that the tree under a name is taken
back, once at most. -/
def Workbench.GivesBackAtMost (bench : Workbench) (name : String) (after : Session) : Prop :=
  ∃ fresh, after.passages.toList = bench.session.passages.toList ++ fresh ∧
    (requestsOf fresh).length ≤ 1 ∧
    ∀ sent ∈ requestsOf fresh, ∃ tree handle, bench.items.get? name = some (.tree tree) ∧
      bench.session.tree? tree = some handle ∧ sent.tid = some handle.resource.tid ∧
      sent.request = .treeDisconnect ∧ sent.delivery = .cleanup

/-- Closing the tree under a name behind its handle's back asks for nothing but to take it back. -/
theorem Workbench.closeTree_gives (bench : Workbench) (name : String) :
    bench.GivesBackAtMost name (bench.closeTree name).2.session := by
  -- Without a tree under the name nothing is asked.
  have unasked : bench.GivesBackAtMost name bench.session :=
    ⟨[], by simp, by simp [requestsOf], by simp [requestsOf]⟩
  unfold closeTree useTree useItem
  cases found : bench.items.get? name with
  | none => exact unasked
  | some item =>
    cases item with
    | tree tree =>
      simp only
      cases isThere : bench.session.tree? tree with
      | none => exact unasked
      | some handle =>
        obtain ⟨pool, server, log, fresh, given, sent⟩ :=
          Session.disconnect_undergo handle.resource bench.session
        refine ⟨fresh, ?_, ?_⟩
        · simp only [withSession, given, Session.passages_detach, Session.passages_undergo]
        · -- The server is asked once, if the tree has seen every loss, and it is asked for that tree.
          rcases sent with ⟨_, scratch, answer, rfl⟩ | ⟨_, rfl⟩
          · rw [requestsOf_exchanged]
            refine ⟨Nat.le_refl 1, fun asked listed => ?_⟩
            obtain rfl := List.mem_singleton.mp listed
            exact ⟨tree, handle, found, isThere, rfl, rfl, rfl⟩
          · exact ⟨by simp [requestsOf], by simp [requestsOf]⟩
    | _ => exact unasked

namespace Account

/-- Whatever is done without tree requests of one's own, at every moment the session counts its
connectings, shares the valid tree that there is or else connects one, and gives a tree back with its
last reference if nothing was lost since. Each tree that operations other than closing a tree behind
its handle's back give back is given back once, for a handle that has lost its last reference
meanwhile; and such a closing gives back the tree that it closes, and no other. Unless trees were
closed like that, superseded ones go quietly. -/
theorem run_tendsTrees (settings : Settings) (transcript : Transcript)
    (sharePath oemDomain : String) (operations more : List Operation)
    (own : ∀ operation ∈ operations ++ more, operation.leavesTreeRequests = true) :
    let server := Playback.ofTranscript transcript
    let bench := ((new settings server sharePath oemDomain).run operations).bench
    let after := sessionAfter settings server sharePath oemDomain (operations ++ more)
    Strokes .handling bench.session after ∧
    (∀ moment, Strokes .handling bench.session moment → moment.TendsTrees ∧
      (∀ next, Stroke .careless moment next → moment.DisconnectsAtLast next) ∧
      ∀ later, Strokes .careless moment later → moment.DisconnectsOnce later) ∧
    ((∀ operation ∈ more, operation.leavesTrees = true) →
      Strokes .careless bench.session after ∧ bench.session.DisconnectsOnce after) ∧
    (∀ name, more = [.closeTree name] → bench.GivesBackAtMost name after) ∧
    ((∀ operation ∈ operations, operation.leavesTrees = true) → ∀ moment stakes,
      Deals .careless ((new settings server sharePath oemDomain).run operations).position
        (moment, stakes) → moment.SupersedesQuietly) := by
  intro server bench after
  have permitted : ∀ operation ∈ operations ++ more, Licence.handling.Permits operation :=
    fun operation listed => Operation.permits_of_leavesTreeRequests (own operation listed)
  have early : ∀ operation ∈ operations, Licence.handling.Permits operation :=
    fun operation listed => permitted operation (List.mem_append_left more listed)
  -- The ranks and the chronicle are kept together by every stroke.
  have told {before after : Session} (stroke : Stroke .handling before after)
      (kept : Ranked before ∧ Chronicle before) : Ranked after ∧ Chronicle after :=
    ⟨stroke.ranked kept.1, stroke.chronicle id kept.1 kept.2⟩
  have kept : Ranked bench.session ∧ Chronicle bench.session :=
    sessionAfter_keeps settings server sharePath oemDomain trivial told early
      ⟨.new settings server sharePath oemDomain, .new settings server sharePath oemDomain⟩
  have behind : after = (((new settings server sharePath oemDomain).run operations).run
      more).bench.session := by
    rw [← run_append]
    rfl
  refine ⟨sessionAfter_strokes settings server sharePath oemDomain trivial permitted, ?_, ?_, ?_, ?_⟩
  · intro moment reached
    obtain ⟨ranked, chronicle⟩ := reached.keeps told kept
    exact ⟨ranked.tendsTrees chronicle, fun next stroke => stroke.disconnectsAtLast id id,
      fun later strokes => Strokes.disconnectsOnce strokes id id⟩
  · -- What leaves the trees alone needs no licence to close one behind its handle's back.
    intro leaves
    obtain ⟨_, fits⟩ := run_strokes trivial (fits_new settings server sharePath oemDomain) early
    have careless : ∀ operation ∈ more, Licence.careless.Permits operation :=
      fun operation listed => Operation.permits_of_leavesTrees (leaves operation listed)
    obtain ⟨strokes, _⟩ := run_strokes trivial fits careless
    rw [behind]
    exact ⟨strokes, Strokes.disconnectsOnce strokes id id⟩
  · rintro name rfl
    rw [behind]
    exact bench.closeTree_gives name
  · intro leaves moment stakes reached
    -- Who knows which handle, the order of the session and its ranks are kept by every deal.
    have step {before after : Session × Multiset Stake} (deal : Deal .careless before after)
        (kept : Known before.1.trees before.1.files before.2 ∧ Orderly before.1 ∧ Ranked before.1) :
        Known after.1.trees after.1.files after.2 ∧ Orderly after.1 ∧ Ranked after.1 :=
      ⟨deal.known kept.1, deal.orderly kept.1 kept.2.1, deal.strokes.keeps Stroke.ranked kept.2.2⟩
    obtain ⟨ordered, _⟩ := run_new_keeps step
      (fun operation listed => Operation.permits_of_leavesTrees (leaves operation listed))
      (.inl trivial) ⟨Known.new, Orderly.new settings transcript sharePath oemDomain,
        .new settings server sharePath oemDomain⟩
    obtain ⟨_, orderly, ranked⟩ := reached.keeps step ordered
    exact ranked.supersedesQuietly orderly

/-- A tree whose connection is lost, and a later one that takes its place. -/
def superseding : List Operation := [.connect "old", .invalidate, .connect "new"]

/-- The old tree is released behind the new one, which stays valid until it is released in its turn:
only the new one is given back to the server, once, and that by the release. -/
theorem run_tendsTrees_superseding :
    let server := Playback.ofTranscript { dialect := .smb2 }
    let session := sessionAfter { maxBufferSize := 1 } server "" "" superseding
    let after := sessionAfter { maxBufferSize := 1 } server "" ""
      (superseding ++ [.release "old", .release "new"])
    (session.isTreeKnown ⟨0⟩ = true ∧ session.isTreeValid ⟨1⟩ = true ∧ session.generation = 2) ∧
      (∀ operation ∈ superseding ++ [.release "old", .release "new"],
        operation.leavesTreeRequests = true) ∧
      (∀ operation ∈ [Operation.release "old", .release "new"], operation.leavesTrees = true) ∧
      session.TendsTrees ∧ session.SupersedesQuietly ∧ session.DisconnectsOnce after ∧
      after.server.sentKinds = ["tree_connect", "tree_connect", "tree_disconnect"] := by
  intro server session after
  -- The theorem is taken at the moment behind the third operation, with two more to come.
  obtain ⟨_, each, gives, _, quiet⟩ := run_tendsTrees { maxBufferSize := 1 } { dialect := .smb2 }
    "" "" superseding [.release "old", .release "new"] (by decide)
  exact ⟨by decide, by decide, by decide, (each session .refl).1, quiet (by decide) session _ .refl,
    (gives (by decide)).2, by decide⟩

/-- A tree that is closed behind its handle's back, a later one, and a server that fails to take the
old one back once more. -/
def closedBehindItsBack : List Operation :=
  [.connect "old", .closeTree "old", .connect "new", .expect ⟨"tree_disconnect", .io "gone"⟩]

/-- A closing behind the handle's back gives the tree back while its reference is still out. The last
release gives it back once more, and when that fails the later tree is lost. -/
theorem run_closedBehindItsBack :
    let server := Playback.ofTranscript { dialect := .smb2 }
    let closed := sessionAfter { maxBufferSize := 1 } server "" "" (closedBehindItsBack.take 2)
    let before := sessionAfter { maxBufferSize := 1 } server "" "" closedBehindItsBack
    let after := sessionAfter { maxBufferSize := 1 } server "" ""
      (closedBehindItsBack ++ [.release "old"])
    (∀ operation ∈ closedBehindItsBack ++ [.release "old"],
      operation.leavesTreeRequests = true) ∧
    (closed.server.sentKinds = ["tree_connect", "tree_disconnect"] ∧
      (closed.tree? ⟨0⟩).map (·.refs) = some 1) ∧
    (before.isTreeKnown ⟨0⟩ = true ∧ before.generation = 2 ∧ before.connected = true ∧
      before.isTreeValid ⟨1⟩ = true) ∧
    after.connected = false ∧ after.isTreeValid ⟨1⟩ = false := by
  -- Both runs are computed.
  decide

end Account

end SmbBrowser
