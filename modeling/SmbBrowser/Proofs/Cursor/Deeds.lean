import SmbBrowser.Proofs.Cursor.Lifetime
import SmbBrowser.Proofs.Session.Loss

/-!
The deeds of a cursor: the calls that it makes in its life, each with the listing and the session
that it finds. Between two moves of the cursor others may do with the session whatever they like.
-/

namespace SmbBrowser

/-- Every chain of deals is a chain of strokes. -/
theorem Deals.strokes {licence : Licence} {before after : Session × Multiset Stake}
    (deals : Deals licence before after) : Strokes licence before.1 after.1 := by
  -- Each deal adds its strokes to the chain.
  induction deals with
  | refl => exact .refl
  | tail _ deal ih => exact ih.trans deal.strokes

/-- What passed stays written down. -/
theorem Strokes.passages {licence : Licence} {before after : Session}
    (strokes : Strokes licence before after) :
    ∃ fresh, after.passages.toList = before.passages.toList ++ fresh := by
  -- What passes in the last stroke comes behind what has passed before it.
  induction strokes with
  | refl => exact ⟨[], by simp⟩
  | tail _ stroke ih =>
    obtain ⟨early, passed⟩ := ih
    obtain ⟨late, passes⟩ := stroke.passes
    exact ⟨early ++ late, by rw [passes.passages, passed, List.append_assoc]⟩

namespace Session

/-- What passed between the two sides from one moment to another. -/
def since (before after : Session) : List Passage :=
  after.passages.toList.drop before.passages.size

/-- What passed since is what was written down behind the rest. -/
theorem since_eq {before after : Session} {fresh : List Passage}
    (passed : after.passages.toList = before.passages.toList ++ fresh) :
    before.since after = fresh := by
  -- As many passages are dropped as there were before.
  rw [since, passed, ← Array.length_toList]
  exact List.drop_left

end Session

namespace Cursor

/-- A call that a cursor makes, with the listing and the session that it finds. -/
structure Deed (Listing : Type) where
  /-- What is called. -/
  call : Call
  /-- The listing before the call. -/
  listing : Listing
  /-- The session before the call. -/
  session : Session

variable {Listing : Type} [PagedListing Listing]

/-- What a deed makes of the listing and the session. -/
def Deed.outcome (tree : TreeRef) (deed : Deed Listing) : Listing × Session :=
  deed.call.make tree (deed.listing, deed.session)

/-- What passes between the two sides in a deed. -/
def Deed.passed (tree : TreeRef) (deed : Deed Listing) : List Passage :=
  deed.session.since (deed.outcome tree).2

/-- Deeds of which each finds the listing as the one before left it, in whatever session. -/
inductive Deeds (tree : TreeRef) : Listing → List (Deed Listing) → Listing → Prop where
  /-- Nothing is done. -/
  | none {listing} : Deeds tree listing [] listing
  /-- One deed comes first. -/
  | first {call listing session deeds last}
    (rest : Deeds tree (call.make tree (listing, session)).1 deeds last) :
    Deeds tree listing (⟨call, listing, session⟩ :: deeds) last

/-- What a listing and a session come to by deeds of which each is done where the ones before it have
led to; besides, things are only written down. -/
inductive Acts (tree : TreeRef) (origin : Listing × Session) :
    List (Deed Listing) → Listing × Session → Prop where
  /-- Nothing was done yet. -/
  | none : Acts tree origin [] origin
  /-- Something is written down. -/
  | note {deeds listing session} (log : Array Event) (hooks : Array HookCall)
    (done : Acts tree origin deeds (listing, session)) :
    Acts tree origin deeds (listing, { session with log, hooks })
  /-- A deed is done. -/
  | next {deeds listing session} (call : Call) (done : Acts tree origin deeds (listing, session)) :
    Acts tree origin (deeds ++ [⟨call, listing, session⟩]) (call.make tree (listing, session))

/-- What has passed in the life of a cursor over a listing, and what there is of it, if it could be
opened. Everything that is done with it is done in whatever session there is by then. -/
inductive Lives (listing : Listing) (filter : Option NameFilter) (tree : TreeRef) :
    Option (Cursor Listing) → List Passage → Prop where
  /-- It cannot be opened. -/
  | refused {session held after fault} (acquired : session.acquire = (.ok tree, held))
    (failed : ofListing listing filter session = (.error fault, after)) :
    Lives listing filter tree none (held.since after)
  /-- It is opened. -/
  | opened {session held after cursor} (acquired : session.acquire = (.ok tree, held))
    (succeeded : ofListing listing filter session = (.ok cursor, after)) :
    Lives listing filter tree (some cursor) (held.since after)
  /-- Something is done with it. -/
  | moved {cursor passed} (lives : Lives listing filter tree (some cursor) passed)
    (session : Session) (move : Move) :
    Lives listing filter tree (some (cursor.move session move).1)
      (passed ++ session.since (cursor.move session move).2)

/-- The deeds of a life, in which these passages passed. -/
structure Life (tree : TreeRef) (listing : Listing) (isClosed : Bool) (passed : List Passage)
    (deeds : List (Deed Listing)) (last : Listing) : Prop where
  /-- Each goes on where the one before ended. -/
  chained : Deeds tree listing deeds last
  /-- They are the calls of a lifetime. -/
  calls : ∃ pages, deeds.map (·.call) = lifetime pages isClosed
  /-- Nothing passes but in them. -/
  passed : deeds.flatMap (Deed.passed tree) = passed

variable {tree : TreeRef} {listing middle last : Listing} {done more : List (Deed Listing)}

/-- Deeds go on where others have led to. -/
theorem Deeds.append (before : Deeds tree listing done middle)
    (behind : Deeds tree middle more last) : Deeds tree listing (done ++ more) last := by
  -- The first of them stays the first.
  induction before with
  | none => exact behind
  | first rest ih => exact .first (ih behind)

/-- Every call is a deed that is done in the session that it finds. -/
theorem Calls.acts {origin place : Listing × Session} {calls : List Call}
    (made : Calls tree origin calls place) :
    ∃ deeds, Acts tree origin deeds place ∧ deeds.map (·.call) = calls := by
  -- With each call the place that it finds is written down beside it.
  induction made with
  | none => exact ⟨[], .none, rfl⟩
  | note log hooks _ ih =>
    obtain ⟨deeds, done, same⟩ := ih
    exact ⟨deeds, done.note log hooks, same⟩
  | @next calls place call _ ih =>
    obtain ⟨deeds, done, same⟩ := ih
    obtain ⟨listing, session⟩ := place
    exact ⟨_, done.next call, by rw [List.map_append, same]; rfl⟩

/-- Deeds that are done one after the other find the listing as the one before left it. -/
theorem Acts.deeds {origin place : Listing × Session} (acts : Acts tree origin done place) :
    Deeds tree origin.1 done place.1 := by
  -- What is written down in between does not touch the listing.
  induction acts with
  | none => exact .none
  | note log hooks _ ih => exact ih
  | next call _ ih => exact ih.append (.first .none)

/-- A life goes on with the calls that prolong it. -/
theorem Life.prolong {wasClosed isClosed : Bool} {passed fresh : List Passage} {calls : List Call}
    (life : Life tree listing wasClosed passed done middle)
    (chained : Deeds tree middle more last) (same : more.map (·.call) = calls)
    (prolongs : Prolongs calls wasClosed isClosed)
    (further : fresh = more.flatMap (Deed.passed tree)) :
    Life tree listing isClosed (passed ++ fresh) (done ++ more) last := by
  obtain ⟨pages, whole⟩ := life.calls
  obtain ⟨all, prolonged⟩ := prolongs pages
  refine ⟨life.chained.append chained, ⟨all, ?_⟩, ?_⟩
  · -- The calls of the deeds, old and new, are those of a longer lifetime.
    rw [List.map_append, whole, same, prolonged]
  · -- What passed in the new deeds comes behind what passed before.
    rw [List.flatMap_append, life.passed, further]

section Staked

variable [StakedListing Listing]

/-- Whatever is called, it is a chain of strokes. -/
theorem Call.make_strokes (tree : TreeRef) (call : Call) (listing : Listing) (session : Session) :
    Strokes .fair session (call.make tree (listing, session)).2 := by
  have known : Stake.tree tree ∈ ({.tree tree} : Multiset Stake) := Multiset.mem_singleton_self _
  -- Calls of the listing are deals of somebody who knows the tree; the others are the session's
  -- own.
  cases call with
  | start => exact (StakedListing.start_deals listing session known (.inr trivial)).strokes
  | fetchMore => exact (StakedListing.fetchMore_deals listing session known).strokes
  | finish => exact (StakedListing.finish_deals listing session known).strokes
  | release => exact session.releaseTree_strokes tree
  | forget => exact session.forgetTree_strokes tree

/-- Whatever is done, it is a chain of strokes, and all that passes on it passes in the deeds. -/
theorem Acts.passages {origin place : Listing × Session} (acts : Acts tree origin done place) :
    place.2.passages.toList = origin.2.passages.toList ++ done.flatMap (Deed.passed tree) := by
  induction acts with
  | none => simp
  | note log hooks _ ih => exact ih
  | @next deeds listing session call _ ih =>
    -- What passes in the last deed comes behind what has passed in the others.
    obtain ⟨fresh, further⟩ := (call.make_strokes tree listing session).passages
    have asked : Deed.passed tree ⟨call, listing, session⟩ = fresh := Session.since_eq further
    rw [List.flatMap_append, List.flatMap_singleton, asked, ← List.append_assoc, ← ih]
    exact further

/-- Calls that follow each other in one session are deeds. -/
theorem Calls.deeds {origin place : Listing × Session} {calls : List Call}
    (made : Calls tree origin calls place) :
    ∃ deeds, Deeds tree origin.1 deeds place.1 ∧ deeds.map (·.call) = calls ∧
      origin.2.since place.2 = deeds.flatMap (Deed.passed tree) := by
  obtain ⟨deeds, acts, same⟩ := made.acts
  -- What passed is told by the session at the end.
  exact ⟨deeds, acts.deeds, same, Session.since_eq acts.passages⟩

/-- Every life has its deeds, and leaves a sound cursor if it could be opened at all. -/
theorem Lives.life {filter : Option NameFilter} {cursor : Option (Cursor Listing)}
    {passed : List Passage} (lives : Lives listing filter tree cursor passed) :
    (∀ opened ∈ cursor, opened.Sound tree) ∧
      ∃ deeds last, Life tree listing (cursor.all isClosed) passed deeds last ∧
        ∀ opened ∈ cursor, opened.listing = last := by
  induction lives with
  | refused acquired failed =>
    -- A cursor that cannot be opened has given everything back.
    obtain ⟨pages, given, made⟩ := calls_refused acquired failed
    obtain ⟨deeds, chained, same, further⟩ := made.deeds
    exact ⟨by simp, deeds, _, ⟨chained, ⟨pages, same⟩, further.symm⟩, by simp⟩
  | opened acquired succeeded =>
    obtain ⟨sound, pages, made⟩ := lived_ofListing acquired succeeded
    obtain ⟨deeds, chained, same, further⟩ := made.deeds
    exact ⟨by simpa using sound, deeds, _, ⟨chained, ⟨pages, same⟩, further.symm⟩, by simp⟩
  | @moved cursor passed lives session move ih =>
    obtain ⟨sound, deeds, last, life, same⟩ := ih
    have isSound := sound cursor rfl
    obtain rfl := same cursor rfl
    have nothing : Calls tree (cursor.listing, session) [] (cursor.listing, session) := .none
    obtain ⟨calls, made, prolongs⟩ := isSound.move_calls nothing move
    obtain ⟨more, chained, isCalls, further⟩ := made.deeds
    refine ⟨by simpa using isSound.move session move, deeds ++ more, _,
      life.prolong chained isCalls prolongs further, by simp⟩

/-- Whatever is done with it, a cursor stays clean. -/
theorem Clean.move {cursor : Cursor Listing} (clean : cursor.Clean) (session : Session)
    (move : Move) : (cursor.move session move).1.Clean := by
  -- There are two things to be done with a cursor, and one of them goes by three ways.
  cases move with
  | pull => exact clean.pull session
  | close | closer | drop => exact clean.close session

/-- A cursor that lives is clean. -/
theorem Lives.clean {filter : Option NameFilter} {cursor : Option (Cursor Listing)}
    {passed : List Passage} (lives : Lives listing filter tree cursor passed) :
    ∀ opened ∈ cursor, opened.Clean := by
  -- It is clean when it is opened, and each move keeps it so.
  induction lives with
  | refused acquired failed => simp
  | opened acquired succeeded => simpa using clean_ofListing succeeded
  | @moved cursor passed lives session move ih => simpa using (ih cursor rfl).move session move

end Staked

end Cursor

end SmbBrowser
