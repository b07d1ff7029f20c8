import SmbBrowser.Browse
import SmbBrowser.Listing.Plan
import SmbBrowser.Proofs.Resource.Stakes

/-!
Listing a place is a chain of deals, and a place that cannot be listed leaves no stake behind:
what was acquired on the way to the failure is given back there.
-/

namespace SmbBrowser

/-- A directory listing that was just made holds no directory. -/
theorem DirectoryListing.stakes_new {locator : Locator} {pattern : String} {settings : Settings}
    {listing : DirectoryListing} (made : new locator pattern settings = .ok listing) :
    (Listing.directory listing).stakes = 0 := by
  unfold new at made
  -- Nothing is held before the listing starts.
  cases separators : locator.checkSeparators with
  | error fault => simp [separators, Except.map] at made
  | ok _ =>
    simp only [separators, Except.map, Except.ok.injEq] at made
    subst made
    rfl

/-- A listing that was just made has no stake. -/
theorem ListingPlan.stakes_make {plan : ListingPlan} {settings : Settings} {listing : Listing}
    (made : plan.make settings = .ok listing) : listing.stakes = 0 := by
  -- Only a listing by a directory could have a stake, and a new one has none.
  cases plan with
  | search locator pattern searchAttributes =>
    simp only [make] at made
    cases new : SearchListing.new locator pattern searchAttributes settings with
    | error fault => simp [new, Except.map] at made
    | ok search =>
      simp only [new, Except.map, Except.ok.injEq] at made
      subst made
      rfl
  | directory locator pattern =>
    simp only [make] at made
    cases new : DirectoryListing.new locator pattern settings with
    | error fault => simp [new, Except.map] at made
    | ok directory =>
      simp only [new, Except.map, Except.ok.injEq] at made
      subst made
      exact DirectoryListing.stakes_new new
  | _ =>
    simp only [make, Except.ok.injEq] at made
    subst made
    rfl

/-- For a listing that was just made the server has begun nothing. -/
theorem ListingPlan.unbegun_make {plan : ListingPlan} {settings : Settings} {listing : Listing}
    (made : plan.make settings = .ok listing) : listing.Unbegun := by
  -- Only searches and directories could have something begun, and these are new.
  cases plan with
  | search locator pattern searchAttributes =>
    simp only [make, SearchListing.new] at made
    cases separators : locator.checkSeparators with
    | error fault => simp [separators, Except.map] at made
    | ok _ =>
      simp only [separators, Except.map, Except.ok.injEq] at made
      subst made
      rfl
  | directory locator pattern =>
    simp only [make, DirectoryListing.new] at made
    cases separators : locator.checkSeparators with
    | error fault => simp [separators, Except.map] at made
    | ok _ =>
      simp only [separators, Except.map, Except.ok.injEq] at made
      subst made
      rfl
  | _ =>
    simp only [make, Except.ok.injEq] at made
    subst made
    trivial

namespace Session

variable {licence : Licence} [licence.Reads] {rest : Multiset Stake}

/-- The listing that a place calls for is made as planned. -/
theorem listingOf_planned {session : Session} {locator : Locator} {options : ListOptions}
    {listing : Listing} (called : session.listingOf locator options = .ok listing) :
    ∃ plan : ListingPlan, plan.make session.settings = .ok listing := by
  unfold listingOf at called
  -- Each kind of place calls for a listing of its own.
  split at called
  · exact ⟨.domains session.oemDomain, called⟩
  · exact ⟨.workgroup locator.host, called⟩
  · exact ⟨.shares, called⟩
  all_goals first
    | (split at called
       · exact ⟨.search locator options.pattern options.searchAttributes, called⟩
       · exact ⟨.directory locator options.pattern, called⟩)
    | simp at called

/-- Listing a place is a chain of deals; without a cursor no stake is left. -/
theorem list_deals (session : Session) (locator : Locator) (options : ListOptions) :
    Deals licence (session, rest)
      ((session.list locator options).2,
        gainedBy Cursor.stakes (session.list locator options).1 + rest) := by
  unfold list
  -- A place that no listing can be made for changes nothing.
  split
  · simpa [gainedBy] using .refl
  · rename_i listing called
    obtain ⟨plan, made⟩ := listingOf_planned called
    exact Cursor.ofListing_deals options.nameFilter session (ListingPlan.stakes_make made)

/-- A stream over a cursor has what the cursor has, and what it holds itself. -/
def streamStakes (stream : ResourceStream (Cursor Listing) Resource) : Multiset Stake :=
  stream.source.stakes + stream.holdings

/-- Listing the resources of a place is a chain of deals; without a stream no stake is left. -/
theorem listResources_deals (session : Session) (locator : Locator) (options : ListOptions)
    (filter : Option (Resource → Except Fault Bool)) :
    Deals licence (session, rest)
      ((session.listResources locator options filter).2,
        gainedBy streamStakes (session.listResources locator options filter).1 + rest) := by
  have held : Deals licence (session, rest) _ := session.acquire_deals
  unfold listResources
  split <;> rename_i acquired <;> rw [acquired] at held
  · simpa [gainedBy] using held
  · rename_i tree later
    have listed := held.trans (later.list_deals locator options)
    split <;> rename_i last outcome <;> rw [outcome] at listed
    · -- The reference that was meant for the stream goes back.
      have freed : Deals licence (session, rest) (last, tree.hold + rest) := by
        simpa [gainedBy] using listed
      have released := freed.release .streamOpenReleaseFailed
      simpa [gainedBy] using released.forget
    · rename_i cursor
      have known : Stake.tree tree ∈ cursor.stakes + (tree.hold + rest) :=
        Multiset.mem_add.mpr (.inr (tree.tree_mem_hold rest))
      have kept := listed.tail (.keep known)
      simp only [gainedBy, streamStakes, ResourceStream.holdings, Option.map_some,
        Option.getD_some]
      have same : cursor.stakes + (tree.hold + {.tree tree}) + rest =
          .tree tree ::ₘ (cursor.stakes + (tree.hold + rest)) := by
        rw [← Multiset.singleton_add]
        ac_rfl
      rw [same]
      exact kept

/-- A cursor that was opened over a place lives from then on. -/
theorem livesIn_list {origin session after : Session} {locator : Locator} {options : ListOptions}
    {cursor : Cursor Listing} (reached : origin.LeadsTo session)
    (opened : session.list locator options = (.ok cursor, after)) :
    cursor.LivesIn origin after := by
  -- A listing that can be made is one for which the server has begun nothing.
  unfold list at opened
  split at opened
  · simp at opened
  · rename_i listing called
    obtain ⟨plan, made⟩ := listingOf_planned called
    exact Cursor.livesIn_ofListing (ListingPlan.unbegun_make made) reached opened

/-- A stream of resources that was opened fits what resources hold, and reads a cursor that
lives. -/
theorem listResources_fits {origin session after : Session} {locator : Locator}
    {options : ListOptions} {filter : Option (Resource → Except Fault Bool)}
    {stream : ResourceStream (Cursor Listing) Resource} (reached : origin.LeadsTo session)
    (opened : session.listResources locator options filter = (.ok stream, after)) :
    stream.adapter.Fits stream.known Resource.stakes ∧ stream.source.LivesIn origin after := by
  unfold listResources at opened
  split at opened
  · simp at opened
  · rename_i tree later acquired
    split at opened
    · simp at opened
    · rename_i cursor last listed
      simp only [Prod.mk.injEq, Except.ok.injEq] at opened
      obtain ⟨rfl, rfl⟩ := opened
      -- The cursor is opened behind the acquiring of the tree, which the adapter then knows.
      have taken : Strokes .anything session _ := session.acquire_strokes
      rw [acquired] at taken
      have kept : Deals .fair (last, .tree tree ::ₘ 0) _ :=
        .single (.keep (Multiset.mem_cons_self (Stake.tree tree) 0))
      exact ⟨Adapter.fits_resources locator tree,
        (livesIn_list (reached.trans taken) listed).later kept.leadsTo⟩

end Session

end SmbBrowser
