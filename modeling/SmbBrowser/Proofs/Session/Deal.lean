import Mathlib.Algebra.Order.Group.Multiset
import Mathlib.Logic.Relation
import SmbBrowser.Session.Weight

/-!
Stakes: what stands outside a session's tables for the handles inside them. Every use of a session
is a chain of deals, each of which changes the session and the stakes in it together.
-/

namespace SmbBrowser

namespace Session

/-- A refused share of a tree changes nothing. -/
theorem acquireTree_refused {session after : Session} {tree : TreeRef} {fault : Fault}
    (refused : session.acquireTree tree = (.error fault, after)) : after = session := by
  unfold acquireTree at refused
  -- An unknown tree and a closed one are refused before anything is stored.
  split at refused
  · simp only [Prod.mk.injEq] at refused
    exact refused.2.symm
  · split at refused
    · simp only [Prod.mk.injEq] at refused
      exact refused.2.symm
    · simp at refused

/-- A refused share of a file changes nothing. -/
theorem acquireFile_refused {session after : Session} {file : FileRef} {fault : Fault}
    (refused : session.acquireFile file = (.error fault, after)) : after = session := by
  unfold acquireFile at refused
  -- An unknown file and a closed one are refused before anything is stored.
  split at refused
  · simp only [Prod.mk.injEq] at refused
    exact refused.2.symm
  · split at refused
    · simp only [Prod.mk.injEq] at refused
      exact refused.2.symm
    · simp at refused

/-- A refused adoption changes nothing. -/
theorem adoptFile_refused {session after : Session} {tree : TreeRef} {fid : FileId}
    {path : String} {mode : OpenMode} {fault : Fault}
    (refused : session.adoptFile tree fid path mode = (.error fault, after)) :
    after = session := by
  unfold adoptFile at refused
  -- Only the share of the tree can be refused.
  split at refused
  · rename_i shared
    simp only [Prod.mk.injEq] at refused
    rw [← refused.2]
    exact acquireTree_refused shared
  · simp at refused

end Session

/-- What somebody outside a session's tables has in one of its handles. -/
inductive Stake where
  /-- A place that knows a tree. -/
  | tree (tree : TreeRef)
  /-- A reference to a tree that is still to be given back. -/
  | reference (tree : TreeRef)
  /-- A place that knows a file. -/
  | file (file : FileRef)
  /-- A reference to a file that is still to be given back. -/
  | fileReference (file : FileRef)
  deriving DecidableEq

/-- The stakes of somebody who holds a tree: a place that knows it and a reference. -/
def TreeRef.hold (tree : TreeRef) : Multiset Stake := {.tree tree, .reference tree}

/-- Whoever holds a tree knows it. -/
theorem TreeRef.tree_mem_hold (tree : TreeRef) (rest : Multiset Stake) :
    .tree tree ∈ tree.hold + rest := by
  -- To know the tree is the first of the two stakes.
  simp [hold]

/-- The reference in a hold. -/
theorem TreeRef.count_hold (held tree : TreeRef) :
    held.hold.count (.reference tree) = if held = tree then 1 else 0 := by
  unfold hold
  -- A hold has one reference, and that is to its own tree.
  by_cases same : held = tree
  · subst same
    simp
  · rw [if_neg same]
    simp [Ne.symm same]

/-- The references in an optional hold. -/
theorem TreeRef.count_held (held : Option TreeRef) (tree : TreeRef) :
    ((held.map TreeRef.hold).getD 0).count (.reference tree) =
      if held = some tree then 1 else 0 := by
  -- Where nothing is held there is no reference.
  cases held with
  | none => simp
  | some held => simpa using held.count_hold tree

/-- The stakes of somebody who holds a file: a place that knows it and a reference. -/
def FileRef.hold (file : FileRef) : Multiset Stake := {.file file, .fileReference file}

/-- The stakes of something that may have come of an operation. -/
def gainedBy {Value : Type} (stakes : Value → Multiset Stake) :
    Except Fault Value → Multiset Stake
  | .ok value => stakes value
  | .error _ => 0

/-- A request that gives a file back. -/
def Request.isClose : Request → Bool
  | .close _ => true
  | _ => false

/-- A request that the handles of a session send by themselves. -/
def Request.isHandleRequest (request : Request) : Bool := request.isTreeRequest || request.isClose

/-- What the users of a session may do beyond what is expected of them. -/
structure Licence where
  /-- Releasing a handle without a reference to it. -/
  overRelease : Prop
  /-- Closing a tree behind its handle's back. -/
  closeTree : Prop
  /-- Sending tree connects and disconnects of one's own. -/
  treeRequests : Prop
  /-- Sending requests of one's own that give files back. -/
  closeRequests : Prop
  /-- Writing down that a listing is called. -/
  calls : Prop
  /-- Forgetting that a reference to a file is to be given back. -/
  abandon : Prop

namespace Licence

/-- Reading listings, and nothing else beyond what is expected. -/
def reading : Licence := ⟨False, False, False, False, True, False⟩

/-- Releases without a reference; tree requests are the session's own business. -/
def careless : Licence := ⟨True, False, False, True, True, True⟩

/-- Anything but a release without a reference. -/
def fair : Licence := ⟨False, True, True, True, True, True⟩

/-- Whatever can be done with a session. -/
def anything : Licence := ⟨True, True, True, True, True, True⟩

/-- What may be sent with a licence. -/
structure Allows (licence : Licence) (request : Request) : Prop where
  /-- Tree requests are licensed. -/
  trees : request.isTreeRequest = true → licence.treeRequests
  /-- Requests that give files back are licensed. -/
  files : request.isClose = true → licence.closeRequests

/-- What the handles never send may be sent with any licence. -/
theorem allows_of_plain (licence : Licence) {request : Request}
    (plain : request.isHandleRequest = false) : licence.Allows request := by
  -- A licence only restricts requests that handles send.
  simp only [Request.isHandleRequest, Bool.or_eq_false_iff] at plain
  exact ⟨by simp [plain.1], by simp [plain.2]⟩

/-- Whoever reads listings writes down how they are called. -/
class Reads (licence : Licence) : Prop where
  /-- Calls are written down. -/
  calls : licence.calls

/-- Whoever works with listings by hand may forget what they hold open as well. -/
class Works (licence : Licence) : Prop extends licence.Reads where
  /-- Files may be forgotten. -/
  abandon : licence.abandon

instance : reading.Reads := ⟨trivial⟩

instance : careless.Works where
  calls := trivial
  abandon := trivial

instance : fair.Works where
  calls := trivial
  abandon := trivial

instance : anything.Works where
  calls := trivial
  abandon := trivial

end Licence

/-- One use of a session, with the stakes before and after it. -/
inductive Deal (licence : Licence) :
    Session × Multiset Stake → Session × Multiset Stake → Prop where
  /-- Something is written down, or laid down for the server to say. -/
  | note {session stakes} (log : Array Event) (script : List Exchange) :
    Deal licence (session, stakes)
      ({ session with log, server := { session.server with script } }, stakes)
  /-- It is written down how listings were called. -/
  | call {session stakes} (licensed : licence.calls) (hooks : Array HookCall) :
    Deal licence (session, stakes) ({ session with hooks }, stakes)
  /-- The connection is given up for lost. -/
  | invalidate {session stakes} : Deal licence (session, stakes) (session.invalidate, stakes)
  /-- The connected tree is acquired. -/
  | acquire {session after stakes tree} (acquired : session.acquire = (.ok tree, after)) :
    Deal licence (session, stakes) (after, .tree tree ::ₘ .reference tree ::ₘ stakes)
  /-- There is no connected tree and none can be had. -/
  | refused {session after stakes fault} (failed : session.acquire = (.error fault, after)) :
    Deal licence (session, stakes) (after, stakes)
  /-- A further reference to a tree is taken. -/
  | share {session after stakes tree} (known : .tree tree ∈ stakes)
    (taken : session.acquireTree tree = (.ok (), after)) :
    Deal licence (session, stakes) (after, .tree tree ::ₘ .reference tree ::ₘ stakes)
  /-- A further place knows a tree. -/
  | keep {session stakes tree} (known : .tree tree ∈ stakes) :
    Deal licence (session, stakes) (session.keepTree tree, .tree tree ::ₘ stakes)
  /-- A further place knows the connected tree. -/
  | keepActive {session stakes tree} (active : session.active? = some tree) :
    Deal licence (session, stakes) (session.keepTree tree, .tree tree ::ₘ stakes)
  /-- A further place knows the tree of a file. -/
  | keepOwner {session stakes file handle} (known : .file file ∈ stakes)
    (found : session.file? file = some handle) :
    Deal licence (session, stakes)
      (session.keepTree handle.resource.tree, .tree handle.resource.tree ::ₘ stakes)
  /-- A place forgets a tree. -/
  | forget {session stakes} (tree : TreeRef) :
    Deal licence (session, .tree tree ::ₘ stakes) (session.forgetTree tree, stakes)
  /-- A reference to a tree is given back. -/
  | release {session stakes tree} (known : .tree tree ∈ stakes) :
    Deal licence (session, .reference tree ::ₘ stakes) ((session.releaseTree tree).2, stakes)
  /-- A tree is released by somebody who has no reference to give back. -/
  | overRelease {session stakes tree} (licensed : licence.overRelease)
    (known : .tree tree ∈ stakes) :
    Deal licence (session, stakes) ((session.releaseTree tree).2, stakes)
  /-- A tree is closed behind its handle's back. -/
  | closeTree {session stakes tree handle} (licensed : licence.closeTree)
    (known : .tree tree ∈ stakes) (found : session.tree? tree = some handle) :
    Deal licence (session, stakes) ((Session.disconnect handle.resource session).2, stakes)
  /-- A request is sent on a tree. -/
  | send {session stakes tree} (request : Request) (delivery : Delivery)
    (licensed : licence.Allows request)
    (known : .tree tree ∈ stakes) :
    Deal licence (session, stakes) ((session.send tree request delivery).2, stakes)
  /-- A file that the server has opened gets a handle. -/
  | adopt {session after stakes tree fid path mode file} (known : .tree tree ∈ stakes)
    (adopted : session.adoptFile tree fid path mode = (.ok file, after)) :
    Deal licence (session, stakes) (after, .file file ::ₘ .fileReference file ::ₘ stakes)
  /-- A further reference to a file is taken. -/
  | shareFile {session after stakes file} (known : .file file ∈ stakes)
    (taken : session.acquireFile file = (.ok (), after)) :
    Deal licence (session, stakes) (after, .file file ::ₘ .fileReference file ::ₘ stakes)
  /-- A reference to a file is given back. -/
  | releaseFile {session stakes file} (known : .file file ∈ stakes) :
    Deal licence (session, .fileReference file ::ₘ stakes)
      ((session.releaseFile file).2, stakes)
  /-- A file is released by somebody who has no reference to give back. -/
  | overReleaseFile {session stakes file} (licensed : licence.overRelease)
    (known : .file file ∈ stakes) :
    Deal licence (session, stakes) ((session.releaseFile file).2, stakes)
  /-- It is forgotten that a reference to a file is to be given back. -/
  | abandonFile {session stakes} (licensed : licence.abandon) (file : FileRef) :
    Deal licence (session, .fileReference file ::ₘ stakes) (session, stakes)
  /-- A place forgets a file. -/
  | forgetFile {session stakes} (file : FileRef) :
    Deal licence (session, .file file ::ₘ stakes) (session.forgetFile file, stakes)

/-- A chain of uses of a session. -/
abbrev Deals (licence : Licence) :
    Session × Multiset Stake → Session × Multiset Stake → Prop :=
  Relation.ReflTransGen (Deal licence)

namespace Deals

variable {licence : Licence} {session : Session} {stakes : Multiset Stake}
  {start : Session × Multiset Stake}

/-- An event may be logged at any time. -/
theorem note (event : Event) (deals : Deals licence start (session, stakes)) :
    Deals licence start (session.note event, stakes) :=
  -- The script is written over with what it is.
  deals.tail (.note (session.log.push event) session.server.script)

/-- A failure may be logged at any time. -/
theorem noteFailure (event : Fault → Event) (result : Except Fault Unit)
    (deals : Deals licence start (session, stakes)) :
    Deals licence start (session.noteFailure event result, stakes) := by
  -- Success is not logged.
  cases result with
  | ok _ => exact deals
  | error fault => exact deals.note (event fault)

/-- Events may be logged at any time. -/
theorem noteAll (events : List Event) (deals : Deals licence start (session, stakes)) :
    Deals licence start (session.noteAll events, stakes) :=
  -- The script is written over with what it is.
  deals.tail (.note (session.log ++ events) session.server.script)

/-- The call of a listing may be written down at any time by whoever reads it. -/
theorem noteHook [reads : licence.Reads] (listing : String) (hook : Hook)
    (deals : Deals licence start (session, stakes)) :
    Deals licence start (session.noteHook listing hook, stakes) :=
  -- Only the record of calls grows.
  deals.tail (.call reads.calls (session.hooks.push { listing, hook }))

/-- Whoever holds a tree may give the reference back, and still knows the tree behind it. -/
theorem release {tree : TreeRef} (event : Fault → Event)
    (deals : Deals licence start (session, tree.hold + stakes)) :
    Deals licence start
      ((session.releaseTree tree).2.noteFailure event (session.releaseTree tree).1,
        .tree tree ::ₘ stakes) := by
  -- The reference stands in front, and to know the tree is what remains.
  have swapped : tree.hold + stakes = .reference tree ::ₘ .tree tree ::ₘ stakes := by
    simp [TreeRef.hold, Multiset.cons_swap]
  rw [swapped] at deals
  exact noteFailure event _ (deals.tail (.release (Multiset.mem_cons_self _ _)))

/-- Whoever knows a tree may forget it. -/
theorem forget {tree : TreeRef} (deals : Deals licence start (session, .tree tree ::ₘ stakes)) :
    Deals licence start (session.forgetTree tree, stakes) :=
  -- The stake that is given up stands in front.
  deals.tail (.forget tree)

/-- Whoever holds a file may give the reference back and forget the file. -/
theorem releaseFile {file : FileRef}
    (deals : Deals licence start (session, file.hold + stakes)) :
    Deals licence start (((session.releaseFile file).2).forgetFile file, stakes) := by
  -- The reference is given back first, and the file is forgotten behind that.
  have swapped : file.hold + stakes = .fileReference file ::ₘ .file file ::ₘ stakes := by
    simp [FileRef.hold, Multiset.cons_swap]
  rw [swapped] at deals
  exact (deals.tail (.releaseFile (Multiset.mem_cons_self _ _))).tail (.forgetFile file)

/-- Whoever works with listings may abandon a file that it holds, and still knows it. -/
theorem abandon [works : licence.Works] {file : FileRef}
    (deals : Deals licence start (session, file.hold + stakes)) :
    Deals licence start (session, .file file ::ₘ stakes) := by
  -- The reference is dropped without a word to the session, and the file stays known.
  have swapped : file.hold + stakes = .fileReference file ::ₘ .file file ::ₘ stakes := by
    simp [FileRef.hold, Multiset.cons_swap]
  rw [swapped] at deals
  exact deals.tail (.abandonFile works.abandon file)

/-- A request on a known tree that the handles never send is a deal under any licence. -/
theorem send {tree : TreeRef} {request : Request}
    (deals : Deals licence start (session, stakes)) (known : .tree tree ∈ stakes)
    (plain : request.isHandleRequest = false) (delivery : Delivery) :
    Deals licence start ((session.send tree request delivery).2, stakes) :=
  -- A request that no handle sends needs no licence.
  deals.tail (.send request delivery (licence.allows_of_plain plain) known)

/-- A property of sessions and stakes that every deal keeps is kept by every chain of deals. -/
theorem keeps {Kept : Session × Multiset Stake → Prop}
    (step : ∀ {before after}, Deal licence before after → Kept before → Kept after)
    {before after : Session × Multiset Stake} (deals : Deals licence before after)
    (kept : Kept before) : Kept after := by
  -- The induction is on the chain, one deal at its end at a time.
  induction deals with
  | refl => exact kept
  | tail _ deal ih => exact step deal ih

end Deals

namespace Session

variable {licence : Licence} {rest : Multiset Stake} {tree : TreeRef}

/-- Acquiring the connected tree takes a hold of it, if one can be had. -/
theorem acquire_deals (session : Session) :
    Deals licence (session, rest)
      (session.acquire.2, gainedBy TreeRef.hold session.acquire.1 + rest) := by
  -- A refusal takes nothing.
  cases outcome : session.acquire with
  | mk result after =>
    cases result with
    | error fault => simpa [gainedBy] using Relation.ReflTransGen.single (Deal.refused outcome)
    | ok tree =>
      have taken : Deals licence (session, rest) _ := .single (.acquire outcome)
      simpa [gainedBy, TreeRef.hold] using taken

/-- Sharing a known tree takes a further hold of it, unless the tree is closed. -/
theorem acquireTree_deals (session : Session) (known : .tree tree ∈ rest) :
    Deals licence (session, rest)
      ((session.acquireTree tree).2,
        gainedBy (fun () => tree.hold) (session.acquireTree tree).1 + rest) := by
  -- A refusal takes nothing.
  cases outcome : session.acquireTree tree with
  | mk result after =>
    cases result with
    | error fault =>
      rw [acquireTree_refused outcome]
      simpa [gainedBy] using .refl
    | ok _ =>
      have taken : Deals licence (session, rest) _ := .single (.share known outcome)
      simpa [gainedBy, TreeRef.hold] using taken

/-- Sharing a known file takes a further hold of it, unless the file is closed. -/
theorem acquireFile_deals {file : FileRef} (session : Session) (known : .file file ∈ rest) :
    Deals licence (session, rest)
      ((session.acquireFile file).2,
        gainedBy (fun () => file.hold) (session.acquireFile file).1 + rest) := by
  cases outcome : session.acquireFile file with
  | mk result after =>
    cases result with
    | error fault =>
      rw [acquireFile_refused outcome]
      simpa [gainedBy] using .refl
    | ok _ =>
      have taken : Deals licence (session, rest) _ := .single (.shareFile known outcome)
      simpa [gainedBy, FileRef.hold] using taken

/-- Adopting a file takes a hold of it, unless it is refused. -/
theorem adoptFile_deals (session : Session) (fid : FileId) (path : String) (mode : OpenMode)
    (known : .tree tree ∈ rest) :
    Deals licence (session, rest)
      ((session.adoptFile tree fid path mode).2,
        gainedBy FileRef.hold (session.adoptFile tree fid path mode).1 + rest) := by
  cases outcome : session.adoptFile tree fid path mode with
  | mk result after =>
    cases result with
    | error fault =>
      rw [adoptFile_refused outcome]
      simpa [gainedBy] using .refl
    | ok file =>
      have taken : Deals licence (session, rest) _ := .single (.adopt known outcome)
      simpa [gainedBy, FileRef.hold] using taken

/-- Opening a file sends one request, and adopts what the server has opened. -/
theorem openFile_deals (session : Session) (path : String) (mode : OpenMode)
    (known : .tree tree ∈ rest) :
    Deals licence (session, rest)
      ((session.openFile tree path mode).2,
        gainedBy FileRef.hold (session.openFile tree path mode).1 + rest) := by
  -- The request is sent on a tree that is known.
  have asked : Deals licence (session, rest)
      ((session.send tree (.create (mode.toCreate path)) .plain).2, rest) :=
    Deals.send .refl known rfl .plain
  unfold openFile
  split <;> rename_i answered <;> rw [answered] at asked
  · simpa [gainedBy] using asked
  · exact asked.trans (adoptFile_deals _ _ path mode known)
  · simpa [gainedBy] using asked

end Session

end SmbBrowser
