import SmbBrowser.Browse
import SmbBrowser.Proofs.Cursor.Disclosure

/-!
No failure vanishes in a listing. Whoever opens, reads, closes or drops a listing of entries or of
resources, or drops a resource, either is answered the failures that are met on the way or finds
their wording in the log.
-/

namespace SmbBrowser

/-- A source that tells of every failure that it meets. -/
class DisclosingSource (Source : Type) [EntrySource Source] where
  /-- What the source meets in a pull. -/
  pullFailures : Source → Session → List Fault
  /-- What the source meets while it is closed. -/
  closeFailures : Source → Session → List Fault
  /-- What it meets in a pull is answered or written down. -/
  pull_discloses : ∀ (source : Source) (session : Session),
    session.Discloses (EntrySource.pull source session).2.2
      (failureOf (EntrySource.pull source session).1) (pullFailures source session)
  /-- What it meets while it is closed is written down. -/
  close_discloses : ∀ (source : Source) (session : Session) answer,
    session.Discloses (EntrySource.close source session).2 answer (closeFailures source session)

instance {Listing : Type} [PagedListing Listing] [DisclosingListing Listing] :
    DisclosingSource (Cursor Listing) where
  pullFailures := Cursor.pullFailures
  closeFailures := Cursor.closeFailures
  pull_discloses := Cursor.pull_discloses
  close_discloses := Cursor.close_discloses

/-- What is laid down for a fixed source is all that it meets. -/
instance : DisclosingSource FixedSource where
  pullFailures source session := (failureOf (source.pull session).1).toList
  closeFailures _ _ := []
  pull_discloses source session := by
    refine .answered _ ?_
    simp only [EntrySource.pull, FixedSource.pull]
    split <;> exact .refl session
  close_discloses _ session _ := .nothing (.refl session)

/-- How an adapter tells of the failures that it meets. -/
structure Adapter.Disclosure {Item : Type} (adapter : Adapter Item) where
  /-- What it meets while it gives back what an entry was turned into. -/
  discardFailures : Item → Session → List Fault
  /-- Turning an entry takes nothing back. -/
  adapt_keepsLog : ∀ entry (session : Session),
    session.KeepsLog (adapter.adapt entry session).2
  /-- What it meets while it gives back is written down. -/
  discard_discloses : ∀ item (session : Session) answer,
    session.Discloses (adapter.discard item session) answer (discardFailures item session)

namespace Resource

/-- Why the tree of a resource could not be released. -/
def discardFailures (resource : Resource) (session : Session) : List Fault :=
  (failureOf (session.releaseTree resource.tree).1).toList

/-- Whatever comes of giving a resource back is written down. -/
theorem discard_discloses (resource : Resource) (session : Session) (answer : Option Fault) :
    session.Discloses (resource.discard session) answer (resource.discardFailures session) :=
  -- Forgetting the handle is the last step, and the log is left as it is.
  (session.releaseTree_discloses resource.tree (.resourceReleaseFailed resource.locator.url)
    (fun _ => .of_fault? rfl) answer).kept (Session.forgetTree_keepsLog _ _)

/-- Making a resource writes nothing down and takes nothing back. -/
theorem ofEntry_keepsLog (parent : Locator) (tree : TreeRef) (entry : Entry) (session : Session) :
    session.KeepsLog (ofEntry parent tree entry session).2 := by
  unfold ofEntry
  split
  · exact .refl session
  · -- Only the reference that the resource takes touches the session.
    have shared := session.acquireTree_keepsLog tree
    split <;> rename_i taken <;> rw [taken] at shared <;> exact shared

end Resource

/-- How failures around resources are told. -/
def Adapter.Disclosure.resources (parent : Locator) (tree : TreeRef) :
    (Adapter.resources parent tree).Disclosure where
  discardFailures := Resource.discardFailures
  adapt_keepsLog := Resource.ofEntry_keepsLog parent tree
  discard_discloses := Resource.discard_discloses

/-- Names are made of entries without a word. -/
def Adapter.Disclosure.names (wants : NameFilter) : (Adapter.names wants).Disclosure where
  discardFailures _ _ := []
  adapt_keepsLog entry session := by
    simp only [Adapter.names]
    split <;> exact .refl session
  discard_discloses _ session _ := .nothing (.refl session)

namespace ResourceStream

variable {Source Item : Type}

/-- What is met while an entry is offered. -/
def offerFailures (stream : ResourceStream Source Item) (tells : stream.adapter.Disclosure)
    (entry : Entry) (session : Session) : List Fault :=
  if entry.isSelfOrParent then []
  else
    match stream.adapter.adapt entry session with
    | (.error fault, _) => [fault]
    | (.ok item, session) =>
      match stream.filter with
      | none => []
      | some wants =>
        match wants item with
        | .ok true => []
        | .ok false => tells.discardFailures item session
        | .error fault =>
          fault :: tells.discardFailures item
            (session.note (.streamFilterFailed entry.name fault))

/-- Nobody is answered what is met while an entry is offered: all of it is written down. -/
theorem offer_discloses (stream : ResourceStream Source Item) (tells : stream.adapter.Disclosure)
    (entry : Entry) (session : Session) (answer : Option Fault) :
    session.Discloses (stream.offer entry session).2 answer
      (stream.offerFailures tells entry session) := by
  have adapts := tells.adapt_keepsLog entry session
  -- The filter speaks last, so what a refused item leaves behind follows what the filter said.
  unfold offer offerFailures
  split
  · exact .nothing (.refl session)
  · generalize stream.adapter.adapt entry session = outcome at adapts ⊢
    obtain ⟨fault | item, after⟩ := outcome
    · exact (Session.Discloses.answered (some fault) adapts).note (.of_fault? rfl)
    · simp only
      cases stream.filter with
      | none => exact .nothing adapts
      | some wants =>
        simp only
        rcases wants item with fault | _ | _
        · have noted : session.Discloses (after.note (.streamFilterFailed entry.name fault)) none
              [fault] :=
            (Session.Discloses.answered (some fault) adapts).note (.of_fault? rfl)
          exact noted.followed (tells.discard_discloses item _ answer)
        · exact .behind adapts (tells.discard_discloses item after answer)
        · exact .nothing adapts

variable [EntrySource Source] [DisclosingSource Source]

/-- What a stream meets until its next item. -/
def nextFailures (stream : ResourceStream Source Item) (tells : stream.adapter.Disclosure)
    (session : Session) : List Fault :=
  DisclosingSource.pullFailures stream.source session ++
    match _ : EntrySource.pull stream.source session with
    | (.ok (some entry), source, after) =>
      stream.offerFailures tells entry after ++
        match _ : stream.offer entry after with
        | (some _, _) => []
        | (none, session) => nextFailures { stream with source } tells session
    | _ => []
termination_by EntrySource.left stream.source session
decreasing_by
  -- The entry that came leaves fewer to come, and offering it adds none.
  rename_i pulled offered
  have lighter := stream.weight_offer_le entry after
  rw [offered] at lighter
  exact Nat.lt_of_le_of_lt (EntrySource.left_mono lighter) (EntrySource.left_pull_lt pulled)

section Next

variable {stream : ResourceStream Source Item} {tells : stream.adapter.Disclosure}
  {source : Source} {session after later : Session} {entry : Entry}

/-- A source that brings no entry is asked once, and that is all that is met. -/
theorem nextFailures_ended {result : Except Fault (Option Entry)}
    (pulled : EntrySource.pull stream.source session = (result, source, after))
    (ended : ∀ entry, result ≠ .ok (some entry)) :
    stream.nextFailures tells session = DisclosingSource.pullFailures stream.source session := by
  rw [nextFailures]
  split
  · rename_i entry _ _ found
    rw [pulled] at found
    -- The other branch is the one that brings an entry.
    exact absurd (congrArg Prod.fst found) (ended entry)
  · exact List.append_nil _

/-- An entry that is wanted ends the search, so what is met is its pull and its offer. -/
theorem nextFailures_found {item : Item}
    (pulled : EntrySource.pull stream.source session = (.ok (some entry), source, after))
    (offered : stream.offer entry after = (some item, later)) :
    stream.nextFailures tells session =
      DisclosingSource.pullFailures stream.source session ++
        stream.offerFailures tells entry after := by
  rw [nextFailures]
  split
  · rename_i found
    rw [pulled] at found
    -- The function pulls and offers again by itself, so both outcomes are put in place of its own.
    cases found
    split <;> rename_i offers <;> rw [offered] at offers
    · rw [List.append_nil]
    · simp at offers
  · simp_all

/-- An entry that is passed over adds its own to what is met behind it. -/
theorem nextFailures_passed
    (pulled : EntrySource.pull stream.source session = (.ok (some entry), source, after))
    (offered : stream.offer entry after = (none, later)) :
    stream.nextFailures tells session =
      DisclosingSource.pullFailures stream.source session ++
        stream.offerFailures tells entry after ++
          nextFailures { stream with source } tells later := by
  rw [nextFailures, List.append_assoc]
  split
  · rename_i found
    rw [pulled] at found
    -- As with an entry that is wanted, but here the search goes on.
    cases found
    split <;> rename_i offers <;> rw [offered] at offers
    · simp at offers
    · cases offers
      rfl
  · simp_all

/-- Neither the pull of an entry nor the offer of it is answered. -/
theorem offered_discloses (tells : stream.adapter.Disclosure)
    (pulled : EntrySource.pull stream.source session = (.ok (some entry), source, after)) :
    session.Discloses (stream.offer entry after).2 none
      (DisclosingSource.pullFailures stream.source session ++
        stream.offerFailures tells entry after) := by
  -- An entry is no failure, so the pull answers none and must have written down what it met.
  have pulls := DisclosingSource.pull_discloses stream.source session
  rw [pulled] at pulls
  exact pulls.followed (stream.offer_discloses tells entry after none)

end Next

/-- Whatever a stream meets until its next item is answered or written down. -/
theorem next_discloses (stream : ResourceStream Source Item) (tells : stream.adapter.Disclosure)
    (session : Session) :
    session.Discloses (stream.next session).2.2 (failureOf (stream.next session).1)
      (stream.nextFailures tells session) := by
  -- Only the last pull has an answer, and what is met while an entry is offered has none.
  fun_induction next stream session with
  | case1 stream session fault source after pulled =>
    have pulls := DisclosingSource.pull_discloses stream.source session
    rw [pulled] at pulls
    rw [nextFailures_ended pulled (by simp)]
    exact pulls
  | case2 stream session source after pulled =>
    have pulls := DisclosingSource.pull_discloses stream.source session
    rw [pulled] at pulls
    rw [nextFailures_ended pulled (by simp)]
    exact pulls
  | case3 stream session entry source after pulled item later offered =>
    have told := offered_discloses tells pulled
    rw [offered] at told
    rw [nextFailures_found pulled offered]
    exact told
  | case4 stream session entry source after pulled later offered ih =>
    have told := offered_discloses tells pulled
    rw [offered] at told
    rw [nextFailures_passed pulled offered]
    exact told.followed (ih tells)

/-- What a stream meets while it is closed. -/
def closeFailures (stream : ResourceStream Source Item) (session : Session) : List Fault :=
  DisclosingSource.closeFailures stream.source session ++
    match stream.held with
    | none => []
    | some tree =>
      (failureOf ((EntrySource.close stream.source session).2.releaseTree tree).1).toList

/-- Whatever a stream meets while it is closed is written down. -/
theorem close_discloses (stream : ResourceStream Source Item) (session : Session)
    (answer : Option Fault) :
    session.Discloses (stream.close session).2 answer (stream.closeFailures session) := by
  have closes := DisclosingSource.close_discloses stream.source session
  unfold close closeFailures
  simp only
  cases stream.held with
  | none =>
    rw [List.append_nil]
    exact closes answer
  | some tree =>
    have released := (EntrySource.close stream.source session).2.releaseTree_discloses tree
      .streamReleaseFailed (fun _ => .of_fault? rfl) answer
    -- The source has told its own failures before the tree is given back.
    exact (closes none).followed (released.kept (Session.forgetTree_keepsLog _ _))

/-- Whatever a stream meets while it is dropped is written down. -/
theorem drop_discloses (stream : ResourceStream Source Item) (session : Session)
    (answer : Option Fault) :
    session.Discloses (stream.drop session).2 answer (stream.closeFailures session) := by
  -- Dropping is closing, and forgetting a handle behind it is silent.
  have closes := stream.close_discloses session answer
  unfold drop
  simp only
  split
  · exact closes
  · exact closes.kept (Session.forgetTree_keepsLog _ _)

end ResourceStream

namespace Session

variable (session : Session) (locator : Locator) (options : ListOptions)

/-- What is met while a place is listed. -/
def listFailures : List Fault :=
  match session.listingOf locator options with
  | .error fault => [fault]
  | .ok listing => Cursor.openFailures listing options.nameFilter session

/-- Whatever is met while a place is listed is answered or written down. -/
theorem list_discloses :
    session.Discloses (session.list locator options).2
      (failureOf (session.list locator options).1) (session.listFailures locator options) := by
  -- A place that cannot be listed is refused before anything is met.
  unfold list listFailures
  cases session.listingOf locator options with
  | error fault => exact .answered (some fault) (.refl session)
  | ok listing => exact Cursor.ofListing_discloses listing options.nameFilter session

/-- What is met while the resources of a place are listed. -/
def listResourcesFailures : List Fault :=
  match session.acquire with
  | (.error fault, _) => [fault]
  | (.ok tree, session) =>
    session.listFailures locator options ++
      match session.list locator options with
      | (.ok _, _) => []
      | (.error _, session) => (failureOf (session.releaseTree tree).1).toList

/-- Whatever is met while the resources of a place are listed is answered or written down. -/
theorem listResources_discloses (filter : Option (Resource → Except Fault Bool)) :
    session.Discloses (session.listResources locator options filter).2
      (failureOf (session.listResources locator options filter).1)
      (session.listResourcesFailures locator options) := by
  have keeps := session.acquire_keepsLog
  unfold listResources listResourcesFailures
  generalize session.acquire = outcome at keeps ⊢
  obtain ⟨fault | tree, held⟩ := outcome
  · exact .answered (some fault) keeps
  · refine .behind keeps ?_
    have lists := held.list_discloses locator options
    simp only
    generalize held.list locator options = outcome at lists ⊢
    obtain ⟨fault | cursor, after⟩ := outcome
    · -- The place is not listed; the tree is given back behind that.
      have released := after.releaseTree_discloses tree .streamOpenReleaseFailed
        (fun _ => .of_fault? rfl) (some fault)
      exact lists.append (released.kept (Session.forgetTree_keepsLog _ _)) fun _ => .inl
    · rw [List.append_nil]
      exact lists.kept (Session.keepTree_keepsLog _ _)

end Session

/-- What can be done with listings, with cursors over them, and with resources. -/
inductive Undertaking : Type 1 where
  /-- A listing is called by itself. -/
  | call {Listing : Type} [PagedListing Listing] [DisclosingListing Listing] (listing : Listing)
    (hook : Hook) (tree : TreeRef)
  /-- A cursor over a listing is opened. -/
  | openCursor {Listing : Type} [PagedListing Listing] [DisclosingListing Listing]
    (listing : Listing) (filter : Option NameFilter)
  /-- A cursor is read, closed or dropped. -/
  | moveCursor {Listing : Type} [PagedListing Listing] [DisclosingListing Listing]
    (cursor : Cursor Listing) (move : Cursor.Move)
  /-- The entries of a place are listed. -/
  | list (locator : Locator) (options : ListOptions)
  /-- The resources of a place are listed. -/
  | listResources (locator : Locator) (options : ListOptions)
    (filter : Option (Resource → Except Fault Bool))
  /-- A stream is read. -/
  | next {Source Item : Type} [EntrySource Source] [DisclosingSource Source]
    (stream : ResourceStream Source Item) (tells : stream.adapter.Disclosure)
  /-- A stream is closed. -/
  | closeStream {Source Item : Type} [EntrySource Source] [DisclosingSource Source]
    (stream : ResourceStream Source Item)
  /-- A stream is dropped. -/
  | dropStream {Source Item : Type} [EntrySource Source] [DisclosingSource Source]
    (stream : ResourceStream Source Item)
  /-- A resource is dropped. -/
  | dropResource (resource : Resource)

namespace Undertaking

/-- The failure that the caller is answered, if it is one, and the session behind it. -/
def outcome (session : Session) : Undertaking → Option Fault × Session
  | call listing hook tree =>
    match hook with
    | .start =>
      let (started, _, session) := PagedListing.start listing tree session
      (failureOf started, session)
    | .isDone => (none, session)
    | .fetchMore =>
      let (fetched, _, session) := PagedListing.fetchMore listing tree session
      (failureOf fetched, session)
    | .finish =>
      let (finished, _, session) := PagedListing.finish listing tree session
      (failureOf finished, session)
  | openCursor listing filter =>
    let (opened, session) := Cursor.ofListing listing filter session
    (failureOf opened, session)
  | moveCursor cursor .pull =>
    let (pulled, _, session) := cursor.pull session
    (failureOf pulled, session)
  | moveCursor cursor move => (none, (cursor.move session move).2)
  | list locator options =>
    let (listed, session) := session.list locator options
    (failureOf listed, session)
  | listResources locator options filter =>
    let (listed, session) := session.listResources locator options filter
    (failureOf listed, session)
  | next stream _ =>
    let (item, _, session) := stream.next session
    (failureOf item, session)
  | closeStream stream => (none, (stream.close session).2)
  | dropStream stream => (none, (stream.drop session).2)
  | dropResource resource => (none, resource.discard session)

/-- What is met on the way. -/
def failures (session : Session) : Undertaking → List Fault
  | call listing hook tree =>
    match hook with
    | .start =>
      DisclosingListing.startFailures listing tree session ++
        (failureOf (PagedListing.start listing tree session).1).toList
    | .isDone => []
    | .fetchMore => (failureOf (PagedListing.fetchMore listing tree session).1).toList
    | .finish =>
      DisclosingListing.finishFailures listing tree session ++
        (failureOf (PagedListing.finish listing tree session).1).toList
  | openCursor listing filter => Cursor.openFailures listing filter session
  | moveCursor cursor .pull => cursor.pullFailures session
  | moveCursor cursor _ => cursor.closeFailures session
  | list locator options => session.listFailures locator options
  | listResources locator options _ => session.listResourcesFailures locator options
  | next stream tells => stream.nextFailures tells session
  | closeStream stream => stream.closeFailures session
  | dropStream stream => stream.closeFailures session
  | dropResource resource => resource.discardFailures session

/-- One thing after another is done with a session. -/
def run (session : Session) : List Undertaking → Session
  | [] => session
  | first :: others => run (first.outcome session).2 others

/-- Whatever is met on the way is answered or written down. -/
theorem outcome_discloses (undertaking : Undertaking) (session : Session) :
    session.Discloses (undertaking.outcome session).2 (undertaking.outcome session).1
      (undertaking.failures session) := by
  -- One case for each kind of call, and each is settled where its function is.
  cases undertaking with
  | call listing hook tree =>
    cases hook with
    | start =>
      have starts := DisclosingListing.start_discloses listing tree session
      exact (starts _).also (.answered _ (starts none).keeps)
    | isDone => exact .nothing (.refl session)
    | fetchMore =>
      exact .answered _ (DisclosingListing.fetchMore_keepsLog listing tree session)
    | finish =>
      have finishes := DisclosingListing.finish_discloses listing tree session
      exact (finishes _).also (.answered _ (finishes none).keeps)
  | openCursor listing filter => exact Cursor.ofListing_discloses listing filter session
  | moveCursor cursor move =>
    cases move with
    | pull => exact cursor.pull_discloses session
    | close | closer | drop => exact cursor.close_discloses session none
  | list locator options => exact session.list_discloses locator options
  | listResources locator options filter =>
    exact session.listResources_discloses locator options filter
  | next stream tells => exact stream.next_discloses tells session
  | closeStream stream => exact stream.close_discloses session none
  | dropStream stream => exact stream.drop_discloses session none
  | dropResource resource => exact resource.discard_discloses session none

/-- Whatever is done, what was written down stays. -/
theorem run_keepsLog (undertakings : List Undertaking) (session : Session) :
    session.KeepsLog (run session undertakings) := by
  -- Each keeps the log that it finds, so the session is left open.
  induction undertakings generalizing session with
  | nil => exact .refl session
  | cons first others ih => exact (first.outcome_discloses session).keeps.trans (ih _)

/-- Doing some things and then more is doing them all. -/
theorem run_append (session : Session) (undertakings more : List Undertaking) :
    run session (undertakings ++ more) = run (run session undertakings) more := by
  -- Each of the first things moves on to another session.
  induction undertakings generalizing session with
  | nil => rfl
  | cons first others ih => exact ih _

/--
No failure vanishes.

Whatever is done with listings, cursors and resources, one thing after another: each failure that is
met while one thing is done is answered to whoever does it, or its wording is written in the log
meanwhile, and what is in the log stays there whatever is done later. A failure that a pull leaves
behind the entry that it hands out is written down at once, and told by the next pull, however the
cursor was closed or dropped by then.
-/
theorem run_discloses (before later : List Undertaking) (undertaking : Undertaking)
    (session : Session) :
    let here := run session before
    here.Discloses (undertaking.outcome here).2 (undertaking.outcome here).1
        (undertaking.failures here) ∧
      (undertaking.outcome here).2.KeepsLog (run session (before ++ undertaking :: later)) ∧
      ∀ (Listing : Type) [PagedListing Listing] [DisclosingListing Listing]
        (cursor : Cursor Listing) (fault : Fault),
        (cursor.pull here).2.1.deferred = some fault →
          fault ∈ (moveCursor cursor .pull).failures here ∧
            here.WritesDown (cursor.pull here).2.2 fault ∧
            ∀ moves : List (Session × Cursor.Move), (∀ move ∈ moves, move.2 ≠ .pull) →
              ∀ there : Session,
                (((cursor.pull here).2.1.amid moves).pull there).1 = .error fault := by
  intro here
  refine ⟨undertaking.outcome_discloses here, ?_, ?_⟩
  · -- The run goes on in the session that this undertaking leaves.
    rw [run_append]
    exact run_keepsLog later _
  · intro Listing _ _ cursor fault waits
    obtain ⟨met, written⟩ := cursor.pull_deferred here waits
    refine ⟨met, written, fun moves noPull there => ?_⟩
    exact Cursor.pull_of_deferred _ there
      ((Cursor.deferred_unpulled _ moves noPull).trans waits)

/-- A page that cannot be turned behind the last entry is written down while that entry is handed
out, and told by the next pull although the cursor was closed in between. -/
theorem run_discloses_leftBehind :
    let session := Session.new {} (.ofTranscript { dialect := .smb2 }) "\\\\srv\\data" ""
    let listing : RehearsedListing :=
      { opening := .page [{ name := "A" }] false, turns := [.fail .handleClosed], closing := none }
    ∃ cursor, (Cursor.ofListing listing none session).1 = .ok cursor ∧
      let opened := run session [openCursor listing none]
      opened.WritesDown (cursor.pull opened).2.2 .handleClosed ∧
        ∀ there : Session, (((cursor.pull opened).2.1.amid [(there, .close)]).pull there).1 =
          .error .handleClosed := by
  intro session listing
  -- What the cursor has deferred after its first pull is computed.
  have started : ((Cursor.ofListing listing none session).1.toOption.map fun cursor =>
      (cursor.pull (run session [openCursor listing none])).2.1.deferred) =
        some (some .handleClosed) := by
    decide +kernel
  rcases succeeded : (Cursor.ofListing listing none session).1 with fault | cursor
  · simp [succeeded, Except.toOption] at started
  · simp only [succeeded, Except.toOption, Option.map_some, Option.some.injEq] at started
    obtain ⟨_, _, told⟩ :=
      run_discloses [openCursor listing none] [] (moveCursor cursor .pull) session
    obtain ⟨_, written, waits⟩ := told RehearsedListing cursor .handleClosed started
    exact ⟨cursor, rfl, written, fun there => waits [(there, .close)] (by simp) there⟩

/-- What can be met: a filter that fails, a name that makes no resource, and the source's failure,
which alone is answered; a choice of names that fails, and then no failure at all. -/
example :
    let session :=
      (Session.new {} (.ofTranscript { dialect := .smb2 }) "\\\\srv\\data" "").acquire.2
    let place : Locator := .path "srv" "data" "docs/"
    let source : FixedSource :=
      { items := [.ok { name := "A" }, .ok { name := "a/b" }, .error .connectionReset] }
    let resources : ResourceStream FixedSource Resource :=
      { source, adapter := .resources place ⟨0⟩, filter := some fun _ => .error (.invalid "no") }
    let wants : NameFilter := fun name => if name = "A" then .error (.invalid "no") else .ok true
    let names : ResourceStream FixedSource String := { source, adapter := .names wants }
    (next resources (.resources place ⟨0⟩)).failures session =
        [.invalid "no", .invalid "unusable entry name \"a/b\"", .connectionReset] ∧
      ((next resources (.resources place ⟨0⟩)).outcome session).1 = some .connectionReset ∧
      (next names (.names wants)).failures session = [.invalid "no"] := by
  decide +kernel

end Undertaking

end SmbBrowser
