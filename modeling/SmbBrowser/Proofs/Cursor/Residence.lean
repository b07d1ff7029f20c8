import SmbBrowser.Listing.Sorts
import SmbBrowser.Proofs.Cursor.Deeds

/-!
Cursors in a session: a cursor lives among others who use the session as well. Whatever is done with
it is done in the session that there is by then, and passes there among all that passes for others.
-/

namespace SmbBrowser

/-- Whatever may happen to a session leads to a later one. -/
def Session.LeadsTo (before after : Session) : Prop := Strokes .anything before after

namespace Session.LeadsTo

/-- A session leads to itself. -/
theorem refl (session : Session) : session.LeadsTo session :=
  -- Nothing has to happen.
  Relation.ReflTransGen.refl

/-- What leads to a session leads to all that it leads to. -/
theorem trans {before middle after : Session} (first : before.LeadsTo middle)
    (second : middle.LeadsTo after) : before.LeadsTo after :=
  -- The strokes of the second chain come behind those of the first.
  Relation.ReflTransGen.trans first second

/-- What has passed is not undone: at most more passes. -/
theorem passages {before after : Session} (leads : before.LeadsTo after) :
    ∃ fresh, after.passages.toList = before.passages.toList ++ fresh :=
  -- Every stroke only adds to the record of what passed.
  Strokes.passages leads

end Session.LeadsTo

/-- A chain of strokes leads from its beginning to its end, whatever licence it takes. -/
theorem Strokes.leadsTo {licence : Licence} {before after : Session}
    (strokes : Strokes licence before after) : before.LeadsTo after := by
  -- What some licence allows is allowed to whoever may do anything.
  induction strokes with
  | refl => exact .refl _
  | tail _ stroke ih => exact ih.trans (.single stroke.anything)

/-- So does a chain of deals. -/
theorem Deals.leadsTo {licence : Licence} {before after : Session × Multiset Stake}
    (deals : Deals licence before after) : before.1.LeadsTo after.1 :=
  -- Whatever the licence was, the strokes of a deal are strokes.
  deals.strokes.leadsTo

/-- The server has begun nothing for a listing yet. -/
def Listing.Unbegun : Listing → Prop
  | .search listing => listing.sid = none
  | .directory listing => listing.dir = none
  | .network _ | .host _ | .rehearsed _ => True

namespace Cursor

section Acts

variable {Listing : Type} [PagedListing Listing] [StakedListing Listing] {tree : TreeRef}
  {origin place : Listing × Session} {deeds : List (Deed Listing)}

/-- Deeds lead the session on. -/
theorem Acts.leadsTo (acts : Acts tree origin deeds place) : origin.2.LeadsTo place.2 := by
  -- What is written down between the deeds is a stroke as well.
  induction acts with
  | none => exact .refl _
  | @note deeds listing session log hooks _ ih =>
    exact ih.trans (.single (.write log hooks session.server.script))
  | next call _ ih => exact ih.trans (call.make_strokes _ _ _).leadsTo

/-- Every deed is done in a session on the way, and what it makes of that leads to the end. -/
theorem Acts.within (acts : Acts tree origin deeds place) :
    ∀ deed ∈ deeds, origin.2.LeadsTo deed.session ∧ (deed.outcome tree).2.LeadsTo place.2 := by
  induction acts with
  | none => simp
  | @note deeds listing session log hooks _ ih =>
    intro deed listed
    obtain ⟨early, late⟩ := ih deed listed
    exact ⟨early, late.trans (.single (.write log hooks session.server.script))⟩
  | @next deeds listing session call done ih =>
    intro deed listed
    rcases List.mem_append.mp listed with before | isLast
    · obtain ⟨early, late⟩ := ih deed before
      exact ⟨early, late.trans (call.make_strokes tree listing session).leadsTo⟩
    · -- The last deed is done where the others have led to, and leads to the end at once.
      obtain rfl := List.mem_singleton.mp isLast
      exact ⟨done.leadsTo, .refl _⟩

end Acts

/-- The life of a cursor in a session that began somewhere, with all that it has done so far. It is
opened in some session on the way, and moved in the session that there is by then; in between others
do with the session whatever they like. -/
inductive Resides (origin : Session) (listing : Listing) (tree : TreeRef) :
    Cursor Listing → Session → List (Deed Listing) → Prop where
  /-- The cursor is opened. -/
  | opened {filter start held cursor after deeds} (reached : origin.LeadsTo start)
    (acquired : start.acquire = (.ok tree, held))
    (succeeded : ofListing listing filter start = (.ok cursor, after))
    (done : Acts tree (listing, held) deeds (cursor.listing, after)) :
    Resides origin listing tree cursor after deeds
  /-- Something is done with it. -/
  | moved {cursor session deeds more} (resides : Resides origin listing tree cursor session deeds)
    (move : Move)
    (done : Acts tree (cursor.listing, session) more
      ((cursor.move session move).1.listing, (cursor.move session move).2)) :
    Resides origin listing tree (cursor.move session move).1 (cursor.move session move).2
      (deeds ++ more)
  /-- Others use the session. -/
  | later {cursor session after deeds} (resides : Resides origin listing tree cursor session deeds)
    (leads : session.LeadsTo after) : Resides origin listing tree cursor after deeds

namespace Resides

variable {origin session : Session} {listing : Listing} {tree : TreeRef} {cursor : Cursor Listing}
  {deeds : List (Deed Listing)}

/-- A cursor that lives in a session is sound. -/
theorem sound (resides : Resides origin listing tree cursor session deeds) :
    cursor.Sound tree := by
  -- It is sound when it is opened, and every move keeps it so.
  induction resides with
  | opened _ acquired succeeded _ => exact (lived_ofListing acquired succeeded).sound
  | moved _ move _ ih => exact ih.move _ move
  | later _ _ ih => exact ih

/-- A cursor that lives in a session is clean. -/
theorem clean (resides : Resides origin listing tree cursor session deeds) : cursor.Clean := by
  -- Opening and moving leave a clean cursor, and others do not touch it.
  induction resides with
  | opened _ _ succeeded _ => exact clean_ofListing succeeded
  | moved _ move _ ih => exact ih.move _ move
  | later _ _ ih => exact ih

/-- Whatever others do in between, a cursor finds its listing as its deeds have left it. -/
theorem chained (resides : Resides origin listing tree cursor session deeds) :
    Deeds tree listing deeds cursor.listing := by
  -- Only the cursor itself has its listing, so what others do in between adds no deed.
  induction resides with
  | opened _ _ _ done => exact done.deeds
  | moved _ _ done ih => exact ih.append done.deeds
  | later _ _ ih => exact ih

/-- Whatever passes in the deeds of a cursor has passed in the session that it lives in, in the same
order. -/
theorem passages (resides : Resides origin listing tree cursor session deeds) :
    (deeds.flatMap (Deed.passed tree)).Sublist session.passages.toList := by
  induction resides with
  | opened _ _ _ done =>
    rw [done.passages]
    exact List.sublist_append_right _ _
  | moved _ _ done ih =>
    -- What passes in a move comes behind all that had passed in the session.
    rw [done.passages, List.flatMap_append]
    exact ih.append (List.Sublist.refl _)
  | later _ leads ih =>
    obtain ⟨fresh, further⟩ := leads.passages
    rw [further]
    exact ih.trans (List.sublist_append_left _ fresh)

/-- The session that a cursor lives in is one that its origin has led to, and so is every session in
which it has done something; what it has made of that led to the session that there is now. -/
theorem within (resides : Resides origin listing tree cursor session deeds) :
    origin.LeadsTo session ∧
      ∀ deed ∈ deeds, origin.LeadsTo deed.session ∧ (deed.outcome tree).2.LeadsTo session := by
  induction resides with
  | @opened filter start held cursor after deeds reached acquired succeeded done =>
    have grown : start.LeadsTo held := by
      have strokes : Strokes .anything start _ := start.acquire_strokes
      rwa [acquired] at strokes
    have begun := reached.trans grown
    refine ⟨begun.trans done.leadsTo, fun deed listed => ?_⟩
    obtain ⟨early, late⟩ := done.within deed listed
    exact ⟨begun.trans early, late⟩
  | moved _ _ done ih =>
    refine ⟨ih.1.trans done.leadsTo, fun deed listed => ?_⟩
    rcases List.mem_append.mp listed with before | fresh
    · obtain ⟨early, late⟩ := ih.2 deed before
      exact ⟨early, late.trans done.leadsTo⟩
    · -- A deed of the last move is done behind all that had led to the session before it.
      obtain ⟨early, late⟩ := done.within deed fresh
      exact ⟨ih.1.trans early, late⟩
  | later _ leads ih =>
    refine ⟨ih.1.trans leads, fun deed listed => ?_⟩
    obtain ⟨early, late⟩ := ih.2 deed listed
    exact ⟨early, late.trans leads⟩

end Resides

/-- A cursor lives in a session when it was opened over a listing for which the server had begun
nothing, and has called what belongs to a lifetime since. -/
def LivesIn (cursor : Cursor Listing) (origin session : Session) : Prop :=
  ∃ (listing : Listing) (tree : TreeRef) (deeds : List (Deed Listing)), listing.Unbegun ∧
    Resides origin listing tree cursor session deeds ∧
    ∃ pages, deeds.map (·.call) = lifetime pages cursor.isClosed

variable {origin session after : Session} {cursor : Cursor Listing}

/-- A cursor that was opened lives from then on. -/
theorem livesIn_ofListing {listing : Listing} {filter : Option NameFilter}
    (fresh : listing.Unbegun) (reached : origin.LeadsTo session)
    (opened : ofListing listing filter session = (.ok cursor, after)) :
    cursor.LivesIn origin after := by
  rcases acquired : session.acquire with ⟨fault | tree, held⟩
  · -- Without a tree no cursor is opened.
    simp [ofListing, acquired] at opened
  · obtain ⟨_, pages, made⟩ := lived_ofListing acquired opened
    obtain ⟨deeds, done, calls⟩ := made.acts
    exact ⟨listing, tree, deeds, fresh, .opened reached acquired opened done, pages, calls⟩

namespace LivesIn

/-- Whatever happens in the session, a cursor lives on. -/
theorem later (lives : cursor.LivesIn origin session) (leads : session.LeadsTo after) :
    cursor.LivesIn origin after := by
  -- It has done nothing meanwhile.
  obtain ⟨listing, tree, deeds, fresh, resides, calls⟩ := lives
  exact ⟨listing, tree, deeds, fresh, resides.later leads, calls⟩

/-- Whatever is done with it, a cursor lives on. -/
theorem move (lives : cursor.LivesIn origin session) (move : Move) :
    (cursor.move session move).1.LivesIn origin (cursor.move session move).2 := by
  obtain ⟨listing, tree, deeds, fresh, resides, pages, calls⟩ := lives
  -- What it calls in the move prolongs its lifetime.
  have begun : Calls tree (cursor.listing, session) [] (cursor.listing, session) := .none
  obtain ⟨more, made, prolongs⟩ := resides.sound.move_calls begun move
  obtain ⟨fresher, done, called⟩ := made.acts
  obtain ⟨further, whole⟩ := prolongs pages
  refine ⟨listing, tree, deeds ++ fresher, fresh, resides.moved move done, further, ?_⟩
  rw [List.map_append, calls, called, List.nil_append, whole]

/-- A cursor that lives in a session is clean. -/
theorem clean (lives : cursor.LivesIn origin session) : cursor.Clean := by
  -- It resides in the session, whatever its calls were.
  obtain ⟨_, _, _, _, resides, _⟩ := lives
  exact resides.clean

end LivesIn

end Cursor

end SmbBrowser
