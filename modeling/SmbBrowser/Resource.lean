import SmbBrowser.Locator
import SmbBrowser.Session.Weight

/-! Resources: listed places, each with its address and a reference to the tree it was listed through. -/

namespace SmbBrowser

/-- A listed place. -/
structure Resource where
  /-- Its address. -/
  locator : Locator
  /-- The entry it was made from. -/
  entry : Entry
  /-- The tree it was listed through. -/
  tree : TreeRef

namespace Resource

/-- The place that an entry of a listed place stands for. -/
def ofEntry (parent : Locator) (tree : TreeRef) (entry : Entry) (session : Session) :
    Except Fault Resource × Session :=
  match parent.child entry with
  | .error fault => (.error fault, session)
  | .ok locator =>
    match session.acquireTree tree with
    | (.error fault, session) => (.error fault, session)
    | (.ok (), session) => (.ok { locator, entry, tree }, session)

/-- A place can be listed itself unless it is a file. -/
def isContainer (resource : Resource) : Bool := resource.locator.kind ≠ .file

/-- Gives the resource's reference to its tree back; a failure to do so is only logged. -/
def discard (resource : Resource) (session : Session) : Session :=
  let (released, session) := session.releaseTree resource.tree
  let session := session.noteFailure (.resourceReleaseFailed resource.locator.url) released
  session.forgetTree resource.tree

/-- Making a resource costs the script nothing. -/
theorem weight_ofEntry (parent : Locator) (tree : TreeRef) (entry : Entry) (session : Session) :
    (ofEntry parent tree entry session).2.weight = session.weight := by
  -- Only the reference to the tree touches the session, and that asks nobody.
  unfold ofEntry
  split
  · rfl
  · have acquired := session.weight_acquireTree tree
    split <;> simp_all

/-- Giving a resource back never adds to the script. -/
theorem weight_discard_le (resource : Resource) (session : Session) :
    (resource.discard session).weight ≤ session.weight := by
  -- The release may ask the server, and what it asked is no longer in the script.
  have released := session.weight_releaseTree_le resource.tree
  unfold discard
  simpa using released

end Resource

end SmbBrowser
