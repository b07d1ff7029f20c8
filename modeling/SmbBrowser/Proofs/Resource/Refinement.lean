import SmbBrowser.Proofs.Browse
import SmbBrowser.Proofs.Cursor.Course
import SmbBrowser.Proofs.Cursor.Likeness
import SmbBrowser.Proofs.Session.Twins

/-!
Listing resources brings the image of what a listing of entries brings. The two readings are run
side by side: as long as the cursor is open their sessions are twins, and behind its closing the
stream still holds the tree that the resources are bound to.
-/

namespace SmbBrowser

section

variable {Item : Type}

/-- What the first pulls bring where so many items come: each of them, and then nothing as often as
it is asked for. -/
def handedOut (items : List (Except Fault Item)) (pulls : Nat) :
    List (Except Fault (Option Item)) :=
  (items.map (Except.map some) ++ List.replicate pulls (Except.ok none)).take pulls

/-- Where nothing comes, every pull brings nothing. -/
theorem handedOut_nil (pulls : Nat) :
    handedOut ([] : List (Except Fault Item)) pulls = List.replicate pulls (.ok none) := by
  simp [handedOut]

/-- The first pull brings the first item, and the others what comes behind it. -/
theorem handedOut_cons (item : Except Fault Item) (items : List (Except Fault Item)) (pulls : Nat) :
    handedOut (item :: items) (pulls + 1) = item.map some :: handedOut items pulls := by
  -- One nothing more at the end is not among the first that are brought.
  rw [handedOut, List.map_cons, List.cons_append, List.take_succ_cons, List.replicate_succ',
    ← List.append_assoc, List.take_append_of_le_length (by simp), handedOut]

end

/-- What comes of a listing, one item after the other. -/
def Course.items (filter : Option NameFilter) (course : Course) : List (Except Fault Entry) :=
  (course.entries filter).map Except.ok ++ course.failure.toList.map Except.error

/-- What a course answers is what it hands out, one item for each pull. -/
theorem Course.answers_eq_handedOut (filter : Option NameFilter) (course : Course) (pulls : Nat) :
    course.answers filter pulls = handedOut (course.items filter) pulls := by
  -- An ended course answers nothing for ever, and a broken one does so behind its failure.
  simp [answers, handedOut, items, ending, Function.comp_def, Except.map]

/-- An entry of a place that can be listed has an address exactly if its name is usable. -/
theorem Locator.child_ok_iff {locator : Locator} (listable : locator.kind ≠ .file)
    (entry : Entry) : (∃ place, locator.child entry = .ok place) ↔ isUsableName entry.name := by
  -- A name that is not usable is refused whatever the place.
  unfold child
  by_cases usable : isUsableName entry.name = true
  · cases kind : locator.kind <;> simp_all
  · simp [usable]

/-- A place that a listing can be made for is no file. -/
theorem Session.listable_of_list {session after : Session} {locator : Locator}
    {options : ListOptions} {cursor : Cursor Listing}
    (listed : session.list locator options = (.ok cursor, after)) : locator.kind ≠ .file := by
  -- For a file there is no listing to make a cursor of.
  intro isFile
  simp [list, listingOf, isFile] at listed

namespace Resource

/-- A filter accepts a resource; what it fails on it does not accept. -/
def acceptedBy (filter : Option (Resource → Except Fault Bool)) (resource : Resource) : Bool :=
  match filter with
  | none => true
  | some wants =>
    match wants resource with
    | .ok wanted => wanted
    | .error _ => false

/-- What a stream of resources is to make of an item of its source: a failure is passed on, and an
entry becomes a resource if it has an address and the resource is accepted. -/
def image (parent : Locator) (tree : TreeRef) (filter : Option (Resource → Except Fault Bool)) :
    Except Fault Entry → Option (Except Fault Resource)
  | .error fault => some (.error fault)
  | .ok entry =>
    match parent.child entry with
    | .error _ => none
    | .ok locator =>
      if acceptedBy filter { locator, entry, tree } then some (.ok { locator, entry, tree })
      else none

open Session

variable {tree : TreeRef} {session : Session}

/-- A resource that is given back while its tree is held twice is only counted. -/
theorem discard_twins {resource : Resource} (bound : resource.tree = tree)
    (held : session.Holds tree 2) :
    Twins tree session (resource.discard session) ∧
      ∀ count, session.Holds tree (count + 1) → 0 < count →
        (resource.discard session).Holds tree count := by
  -- Held twice, the release is a matter of the table alone and asks nobody.
  have released := (held.releaseTree Nat.one_pos).1
  unfold discard
  rw [bound, released]
  refine ⟨?_, fun count more still => (more.releaseTree still).2.forgetTree tree⟩
  exact ((Twins.refl tree session).recount tree.index Handle.released (fun _ => rfl) (fun _ => rfl)
    session.log).forgetTree tree

end Resource

namespace ResourceStream

variable {Source Item : Type}

/-- What a stream brings somebody who pulls at it, and gives some of the items back at once. -/
def answers [EntrySource Source] : List Bool → ResourceStream Source Item → Session →
    List (Except Fault (Option Item)) × Session
  | [], _, session => ([], session)
  | givesBack :: pulls, stream, session =>
    let (answer, stream, session) := stream.next session
    let session :=
      match answer with
      | .ok (some item) => if givesBack then stream.adapter.discard item session else session
      | _ => session
    let (later, session) := answers pulls stream session
    (answer :: later, session)

open Session

variable {parent : Locator} {tree : TreeRef} {stream : ResourceStream Source Resource}

/-- An entry that is offered while the tree is held: nothing can be made of it, or the resource that
is made of it holds the tree once more, and is given back at once if it is not accepted. -/
theorem offer_cases (made : stream.adapter = .resources parent tree) {session : Session}
    (held : session.Holds tree 1) {entry : Entry} (listed : entry.isSelfOrParent = false) :
    (∃ fault, parent.child entry = .error fault ∧
        stream.offer entry session = (none, session.note (.adaptFailed entry.name fault))) ∨
      ∃ locator, parent.child entry = .ok locator ∧
        ((Resource.acceptedBy stream.filter ⟨locator, entry, tree⟩ = true ∧
            stream.offer entry session = (some ⟨locator, entry, tree⟩,
              { session with trees := session.trees.modify tree.index Handle.shared })) ∨
          (Resource.acceptedBy stream.filter ⟨locator, entry, tree⟩ = false ∧ ∃ log,
            stream.offer entry session = (none, Resource.discard ⟨locator, entry, tree⟩
              { session with log, trees := session.trees.modify tree.index Handle.shared }))) := by
  have shared := held.acquireTree.1
  unfold offer
  rw [if_neg (by simp [listed]), made]
  simp only [Adapter.resources, Resource.ofEntry]
  cases parent.child entry with
  | error fault => exact .inl ⟨fault, rfl, rfl⟩
  | ok locator =>
    refine .inr ⟨locator, rfl, ?_⟩
    simp only [shared]
    unfold Resource.acceptedBy
    cases stream.filter with
    | none => exact .inl ⟨rfl, rfl⟩
    | some wants =>
      simp only
      rcases wants ⟨locator, entry, tree⟩ with fault | _ | _
      · -- The failure is logged before the resource is given back.
        exact .inr ⟨rfl, _, rfl⟩
      · exact .inr ⟨rfl, session.log, rfl⟩
      · exact .inl ⟨rfl, rfl⟩

/-- Such an entry becomes what it should, and nobody notices but that a resource that is handed out
holds the tree once more. -/
theorem offer_image (made : stream.adapter = .resources parent tree) {session : Session}
    (held : session.Holds tree 1) {entry : Entry} (listed : entry.isSelfOrParent = false) :
    ∃ item after, stream.offer entry session = (item, after) ∧
      Resource.image parent tree stream.filter (.ok entry) = item.map Except.ok ∧
      (∀ resource ∈ item, resource.tree = tree) ∧ Twins tree session after ∧
      ∀ count, session.Holds tree count → 0 < count →
        after.Holds tree (count + item.toList.length) := by
  have counted := (Twins.refl tree session).recount tree.index Handle.shared (fun _ => rfl)
    (fun _ => rfl)
  rcases offer_cases made held listed with
    ⟨fault, address, offered⟩ | ⟨locator, address, ⟨accepted, offered⟩ | ⟨refused, log, offered⟩⟩
  · -- An entry without an address is logged and passed over.
    refine ⟨none, _, offered, by simp [Resource.image, address], by simp,
      (Twins.refl tree session).relog _ _, fun count more _ => ?_⟩
    exact more.of_trees rfl
  · -- The resource that is handed out keeps the reference that it has taken.
    exact ⟨some _, _, offered, by simp [Resource.image, address, accepted], by simp,
      counted session.log, fun count more _ => more.acquireTree.2⟩
  · -- The resource is given back with the reference that it has taken.
    have twice : Holds { session with
        log, trees := session.trees.modify tree.index Handle.shared } tree 2 :=
      held.acquireTree.2.of_trees rfl
    obtain ⟨twins, holds⟩ :=
      Resource.discard_twins (rfl : (⟨locator, entry, tree⟩ : Resource).tree = tree) twice
    refine ⟨none, _, offered, by simp [Resource.image, address, refused], by simp,
      (counted log).trans twice twins, fun count more still => ?_⟩
    exact holds count (more.acquireTree.2.of_trees rfl) still

end ResourceStream

namespace Cursor

open Session

/-- A cursor that is pulled at in two sessions, so many items before the end. In the other session
somebody else holds the tree, too, and so many of the resources are held besides. -/
structure Abreast (tree : TreeRef) (items : List (Except Fault Entry)) (spare : Nat)
    (cursor : Cursor Listing) (one other : Session) : Prop where
  /-- These items are still to come. -/
  brings : ∀ pulls, cursor.answers pulls one = handedOut items pulls
  /-- The sessions are twins while the cursor is open, and then the tree is still held. -/
  beside : (cursor.Ahead tree ∧ Paired tree cursor.dir? one other ∧
      other.Holds tree (2 + cursor.dir?.toList.length + spare)) ∨
    (cursor.Spent ∧ other.Holds tree (1 + spare))

namespace Abreast

variable {tree : TreeRef} {items : List (Except Fault Entry)} {spare : Nat}
  {cursor : Cursor Listing} {one other : Session}

/-- Side by side or not, the tree is held in the other session, with the resources on top. -/
theorem held (abreast : Abreast tree items spare cursor one other) :
    other.Holds tree (1 + spare) := by
  -- While the cursor reads, it holds the tree there, too.
  rcases abreast.beside with ⟨_, _, held⟩ | ⟨_, held⟩
  · exact held.mono (by omega)
  · exact held

/-- What nobody notices but that a resource more or less is held keeps the sessions side by side. -/
theorem after {later : Session} {more : Nat} (abreast : Abreast tree items spare cursor one other)
    (twins : Twins tree other later)
    (holds : ∀ count, other.Holds tree (count + spare) → 0 < count →
      later.Holds tree (count + more)) : Abreast tree items more cursor one later where
  brings := abreast.brings
  beside := by
    -- A cursor that is spent needs no twins any more, only the reference behind it.
    rcases abreast.beside with ⟨reading, paired, held⟩ | ⟨spent, held⟩
    · have still := holds _ held (by omega)
      exact .inl ⟨reading, ⟨paired.twins.trans paired.heldToo twins, paired.held,
        still.mono (by omega), paired.dir⟩, still⟩
    · exact .inr ⟨spent, holds 1 held Nat.one_pos⟩

/-- Of resources that are held it is enough to remember some. -/
theorem forgetting (abreast : Abreast tree items spare cursor one other) :
    Abreast tree items 0 cursor one other :=
  -- Holding at least so many, one holds at least fewer.
  abreast.after (Twins.refl tree other) fun _ held _ => held.mono (by omega)

end Abreast

variable {tree : TreeRef} {items : List (Except Fault Entry)} {cursor : Cursor Listing}
  {one other : Session}

/-- A cursor that has let go of the tree in both sessions leaves it held where it was held twice. -/
theorem Parted.held (parted : Parted tree (Paired tree) one other) : other.Holds tree 1 := by
  obtain ⟨label, mine, others, paired, _, rfl⟩ := parted
  -- The other session held it twice, so the release leaves one reference.
  obtain ⟨released, holds⟩ := paired.heldToo.releaseTree Nat.one_pos
  unfold letGo
  rw [released]
  refine Holds.forgetTree ?_ tree
  exact holds.of_trees rfl

/-- What becomes of a sound cursor that did the same in both sessions. -/
theorem Together.abreast (together : Together tree (Paired tree) cursor one other)
    {known : TreeRef} (sound : cursor.Sound known)
    (brings : ∀ pulls, cursor.answers pulls one = handedOut items pulls) :
    Abreast tree items 0 cursor one other := by
  refine ⟨brings, ?_⟩
  rcases together with ⟨opened, paired⟩ | ⟨spent, parted⟩
  · -- A sound cursor that is open has read ahead.
    rcases sound with reading | spent
    · obtain rfl := Option.some.inj (reading.holds.symm.trans opened.holds)
      exact .inl ⟨reading, paired, paired.heldToo⟩
    · exact absurd spent.state opened.isOpen
  · exact .inr ⟨spent, parted.held⟩

/-- A pull brings the next item in both sessions, and entries that come are wanted. -/
theorem Abreast.pull (abreast : Abreast tree items 0 cursor one other) :
    ∃ answer used mine others, cursor.pull one = (answer, used, mine) ∧
      cursor.pull other = (answer, used, others) ∧
      (∀ entry, answer = .ok (some entry) → entry.isSelfOrParent = false) ∧
      Abreast tree items.tail 0 used mine others ∧
      answer = (items.head?.map (Except.map some)).getD (.ok none) := by
  -- What is answered first is handed out first, and the rest behind it.
  have brings : ∀ {answer used mine}, cursor.pull one = (answer, used, mine) →
      answer = (items.head?.map (Except.map some)).getD (.ok none) ∧
        ∀ pulls, used.answers pulls mine = handedOut items.tail pulls := by
    intro answer used mine pulled
    have comes (pulls : Nat) :
        answer :: used.answers pulls mine = handedOut items (pulls + 1) := by
      rw [← abreast.brings (pulls + 1), answers, pulled]
    cases items with
    | nil =>
      -- Where nothing is to come, nothing comes first and nothing behind it.
      simp only [handedOut_nil, List.replicate_succ, List.cons.injEq] at comes
      exact ⟨(comes 0).1, fun pulls => by rw [(comes pulls).2, List.tail_nil, handedOut_nil]⟩
    | cons item items =>
      simp only [handedOut_cons, List.cons.injEq] at comes
      exact ⟨(comes 0).1, fun pulls => (comes pulls).2⟩
  rcases abreast.beside with ⟨reading, paired, _⟩ | ⟨spent, held⟩
  · -- A cursor that has read ahead answers what it has in hand, which its filter wanted.
    obtain ⟨answer, used, mine, others, pulled, pulledToo, together⟩ :=
      reading.pull_together (paired_likeness tree) paired
    obtain ⟨entry, inHand, wanted⟩ := reading.inHand
    have sound := Sound.pull (.inl reading) one
    obtain ⟨used', after, pulledAgain, _⟩ := reading.pull_eq inHand one
    rw [pulled] at sound pulledAgain
    obtain ⟨first, further⟩ := brings pulled
    refine ⟨answer, used, mine, others, pulled, pulledToo, ?_, together.abreast sound further,
      first⟩
    intro found isFound
    obtain rfl : entry = found := by simp_all
    simp only [wants, Bool.and_eq_true, Bool.not_eq_true'] at wanted
    exact wanted.1
  · -- A cursor that gave everything back asks nothing of its session.
    have pulled := spent.pull_eq one
    obtain ⟨first, further⟩ := brings pulled
    refine ⟨_, _, one, other, pulled, spent.pull_eq other, ?_,
      ⟨further, .inr ⟨spent.withDeferred none, held⟩⟩, first⟩
    intro found isFound
    split at isFound <;> simp at isFound

end Cursor

namespace ResourceStream

open Session

/-- What is told first where these items are to come, and what is to come behind that; and how many
resources more are held by then. -/
inductive Told (tree : TreeRef) : List (Except Fault Resource) →
    Except Fault (Option Resource) → List (Except Fault Resource) → Nat → Prop where
  /-- Nothing is to come. -/
  | ended : Told tree [] (.ok none) [] 0
  /-- A failure of the source comes first. -/
  | failed (fault : Fault) (items : List (Except Fault Resource)) :
    Told tree (.error fault :: items) (.error fault) items 0
  /-- A resource on the tree comes first. -/
  | brought (resource : Resource) (items : List (Except Fault Resource))
    (bound : resource.tree = tree) : Told tree (.ok resource :: items) (.ok (some resource)) items 1

/-- What is told first stands in front of what is to come. -/
theorem Told.handedOut_succ {tree : TreeRef} {items rest : List (Except Fault Resource)}
    {answer : Except Fault (Option Resource)} {spare : Nat}
    (told : Told tree items answer rest spare) (pulls : Nat) :
    handedOut items (pulls + 1) = answer :: handedOut rest pulls := by
  -- The three ways to tell are the three ways to hand out.
  cases told with
  | ended => simp only [handedOut_nil, List.replicate_succ]
  | failed fault items => exact handedOut_cons _ _ pulls
  | brought resource items bound => exact handedOut_cons _ _ pulls

variable {parent : Locator} {tree : TreeRef} {items : List (Except Fault Entry)}
  {stream : ResourceStream (Cursor Listing) Resource} {one other : Session}

/-- A turn of the loop: an item is pulled, and an entry that nothing comes of is passed over. -/
theorem next_turn (stream : ResourceStream (Cursor Listing) Resource) (session : Session) :
    stream.next session =
      match stream.source.pull session with
      | (.error fault, source, after) => (.error fault, { stream with source }, after)
      | (.ok none, source, after) => (.ok none, { stream with source }, after)
      | (.ok (some entry), source, after) =>
        match stream.offer entry after with
        | (some item, later) => (.ok (some item), { stream with source }, later)
        | (none, later) => next { stream with source } later := by
  -- The loop is unfolded once; its source is a cursor, so the class is, too.
  rw [next]
  simp only [EntrySource.pull]
  split <;> rename_i pulled <;> rw [pulled]
  simp only
  split <;> rename_i offered <;> rw [offered]

/-- Reading on brings the image of the next item that has one, and the cursor of the listing stays
side by side with the one of the stream. -/
theorem next_image (made : stream.adapter = .resources parent tree)
    (abreast : Cursor.Abreast tree items 0 stream.source one other) :
    ∃ answer source rest spare mine others,
      stream.next other = (answer, { stream with source }, others) ∧
      Cursor.Abreast tree rest spare source mine others ∧
      Told tree (items.filterMap (Resource.image parent tree stream.filter)) answer
        (rest.filterMap (Resource.image parent tree stream.filter)) spare := by
  -- The induction is on the items, one of which is pulled in each turn of the loop.
  induction items generalizing stream one other with
  | nil =>
    obtain ⟨answer, used, mine, others, _, pulled, _, still, rfl⟩ := abreast.pull
    exact ⟨.ok none, used, [], 0, mine, others, by rw [next_turn, pulled]; rfl, still, .ended⟩
  | cons item items ih =>
    obtain ⟨answer, used, mine, others, _, pulled, listed, still, rfl⟩ := abreast.pull
    cases item with
    | error fault =>
      exact ⟨.error fault, used, items, 0, mine, others, by rw [next_turn, pulled]; rfl, still,
        .failed fault _⟩
    | ok entry =>
      obtain ⟨item, later, offered, image, bound, twins, holds⟩ :=
        offer_image made still.held (listed entry rfl)
      have turned := stream.next_turn other
      rw [pulled] at turned
      simp only [List.head?_cons, Option.map_some, Except.map, Option.getD_some, offered] at turned
      rw [turned, List.filterMap_cons, image]
      cases item with
      | some resource =>
        exact ⟨_, used, items, 1, mine, later, rfl, still.after twins holds,
          .brought resource _ (bound resource rfl)⟩
      | none =>
        -- The entry is passed over in the listing of resources.
        exact ih made (still.after twins holds)

/-- The tree is held behind every pull, whatever is given back. -/
theorem answers_image (made : stream.adapter = .resources parent tree)
    (abreast : Cursor.Abreast tree items 0 stream.source one other) (pulls : List Bool) :
    (stream.answers pulls other).1 =
        handedOut (items.filterMap (Resource.image parent tree stream.filter)) pulls.length ∧
      (stream.answers pulls other).2.Holds tree 1 := by
  -- The induction is on the pulls; each of them leaves the cursors side by side.
  induction pulls generalizing stream items one other with
  | nil => exact ⟨rfl, abreast.held⟩
  | cons givesBack pulls ih =>
    obtain ⟨answer, source, rest, spare, mine, others, read, still, told⟩ :=
      next_image made abreast
    have step {later : Session} (abreast : Cursor.Abreast tree rest 0 source mine later) :
        (answers pulls { stream with source } later).1 =
            handedOut (rest.filterMap (Resource.image parent tree stream.filter)) pulls.length ∧
          (answers pulls { stream with source } later).2.Holds tree 1 :=
      ih made abreast
    rw [List.length_cons, told.handedOut_succ]
    simp only [answers, read]
    -- What is told first only depends on the images.
    generalize items.filterMap _ = all at told
    generalize rest.filterMap _ = images at told step
    cases told with
    | ended => exact ⟨congrArg _ (step still).1, (step still).2⟩
    | failed fault => exact ⟨congrArg _ (step still).1, (step still).2⟩
    | brought resource _ bound =>
      simp only
      cases givesBack with
      | false =>
        obtain ⟨further, held⟩ := step still.forgetting
        exact ⟨congrArg _ further, held⟩
      | true =>
        -- What is given back was held besides.
        obtain ⟨twins, holds⟩ := Resource.discard_twins bound still.held
        obtain ⟨further, held⟩ := step (still.after twins holds)
        have discarded : stream.adapter.discard = Resource.discard := by
          rw [made]
          rfl
        rw [if_pos rfl, discarded]
        exact ⟨congrArg _ further, held⟩

end ResourceStream

namespace Session

/-- The other side keeps to its dialect. -/
theorem dialect_exchange (session : Session) (tid : Option TreeId) (request : Request)
    (delivery : Delivery) :
    (session.exchange tid request delivery).2.server.dialect = session.server.dialect := by
  -- Only what the script does not foresee is answered from the dialect, and nothing changes it.
  have unscripted (server : Playback) :
      (server.unscripted request tid).2.dialect = server.dialect := by
    unfold Playback.unscripted
    split
    · rfl
    · rfl
    · cases server.script <;> rfl
  simp only [exchange, server_heed, note, pass, Playback.exchange]
  split
  · exact unscripted _
  · split
    · rfl
    · exact unscripted _

/-- A tree that was acquired is held, and may be acquired once more, which nobody notices who reads
through it. -/
theorem acquire_twice {session held : Session} {tree : TreeRef}
    (acquired : session.acquire = (.ok tree, held)) :
    held.Holds tree 1 ∧
      ∃ twice, held.acquire = (.ok tree, twice) ∧ Twins tree held twice ∧ twice.Holds tree 2 := by
  -- What was acquired is the current tree, which is known and valid.
  have current : held.current = some tree ∧ ∃ handle, held.tree? tree = some handle ∧
      0 < handle.keepers ∧ handle.isValid held.link = true ∧ handle.closed = false ∧
      1 ≤ handle.refs := by
    rcases session.acquire_cases with ⟨reused, after, reusable, taken, outcome⟩ | ⟨_, outcome⟩
    · -- The current tree was used again.
      rw [outcome] at acquired
      obtain ⟨rfl, rfl⟩ : reused = tree ∧ after = held := by simpa using acquired
      obtain ⟨current, handle, found, known, valid, isOpen⟩ := reusable_some reusable
      obtain ⟨_, rfl⟩ := acquireTree_ok taken
      refine ⟨current, handle.shared, ?_, Nat.succ_pos _, ?_, isOpen, Nat.succ_pos _⟩
      · rw [tree?, Array.getElem?_modify, if_pos rfl]
        exact congrArg (Option.map Handle.shared) found
      · -- A valid handle is valid with one reference more.
        simp only [Handle.isValid, Bool.and_eq_true] at valid
        simp [Handle.isValid, Handle.shared, isOpen]
        exact valid.2
    · -- A new tree was connected.
      rw [outcome] at acquired
      obtain ⟨tid, later, log, _, rfl, rfl⟩ := connect_ok acquired
      refine ⟨rfl, _, Array.getElem?_push_size, Nat.one_pos, ?_, rfl, Nat.le_refl 1⟩
      simp [Handle.isValid, link]
  obtain ⟨isCurrent, handle, found, known, valid, isOpen, enough⟩ := current
  have held' : held.Holds tree 1 := ⟨handle, found, isOpen, enough⟩
  obtain ⟨shared, twice⟩ := held'.acquireTree
  have reusable : held.reusable? = some tree := by
    rw [reusable?, isCurrent]
    simp [Option.filter, isTreeKnown, isTreeValid, found, known, valid]
  refine ⟨held', _, by rw [acquire, reusable]; simp only [shared], ?_, twice⟩
  exact (Twins.refl tree held).recount tree.index Handle.shared (fun _ => rfl) (fun _ => rfl)
    held.log

/-- Behind an acquisition a place is listed as before. -/
theorem listingOf_acquire (session : Session) (locator : Locator) (options : ListOptions) :
    session.acquire.2.listingOf locator options = session.listingOf locator options := by
  rcases session.acquire_cases with ⟨tree, after, _, taken, outcome⟩ | ⟨_, outcome⟩
  · -- A tree that is used again is only counted.
    obtain ⟨_, rfl⟩ := acquireTree_ok taken
    rw [outcome]
    rfl
  · -- A listing is made for the dialect, which connecting does not change.
    have dialect := session.dialect_exchange none (.treeConnect session.sharePath) .plain
    obtain ⟨pool, server, log, scratch, asked⟩ :=
      session.exchange_undergo none (.treeConnect session.sharePath) .plain
    have listed : (session.exchange none (.treeConnect session.sharePath) .plain).2.listingOf
        locator options = session.listingOf locator options := by
      rw [asked] at dialect ⊢
      simp only [listingOf, undergo] at dialect ⊢
      rw [dialect]
    rw [outcome]
    rcases connected : session.connect with ⟨fault | tree, after⟩
    · obtain ⟨answer, answered, _⟩ := connect_error connected
      rwa [answered] at listed
    · obtain ⟨tid, later, last, answered, _, rfl⟩ := connect_ok connected
      rwa [answered] at listed

/-- What the listing of a place comes to once the tree is acquired, alone and for somebody who holds
the tree besides: both fail with what comes first of it, if that is a failure, and else there is the
same cursor for both, which brings what comes of the listing. -/
theorem list_cases {session held : Session} {tree : TreeRef} {locator : Locator}
    {options : ListOptions} {listing : Listing}
    (called : session.listingOf locator options = .ok listing)
    (acquired : session.acquire = (.ok tree, held)) :
    let course := Cursor.course tree options.nameFilter listing held
    (∃ fault, course.entries options.nameFilter = [] ∧ course.failure = some fault ∧
        (session.list locator options).1 = .error fault ∧
        (held.list locator options).1 = .error fault) ∨
      ∃ cursor alone beside,
        (course.entries options.nameFilter ≠ [] ∨ course.failure = none) ∧
        session.list locator options = (.ok cursor, alone) ∧
        held.list locator options = (.ok cursor, beside) ∧
        Cursor.Abreast tree (course.items options.nameFilter) 0 cursor alone beside := by
  intro course
  have again := session.listingOf_acquire locator options
  rw [acquired, called] at again
  obtain ⟨plan, planned⟩ := listingOf_planned called
  -- A listing that was just made holds no directory yet.
  have unbegun : listing.dir? = none := by
    have unbegun := ListingPlan.unbegun_make planned
    cases listing <;> simp_all [Listing.Unbegun, Listing.dir?]
  obtain ⟨isHeld, twice, acquiredToo, twins, isHeldTwice⟩ := acquire_twice acquired
  -- Both begin at the same listing, in sessions that are twins.
  have fresh : Cursor.Open tree { listing, tree := some tree, filter := options.nameFilter } :=
    ⟨by simp, rfl⟩
  have paired : Paired tree listing.dir? held twice := by
    rw [unbegun]
    exact ⟨twins, isHeld, isHeldTwice, by simp⟩
  obtain ⟨answer, used, one, other, began, beganToo, together⟩ :=
    fresh.begin_together (paired_likeness tree) paired
  have answered :=
    (Cursor.begun_fresh listing tree options.nameFilter held).answered rfl rfl rfl
  rw [began] at answered
  cases answer with
  | error fault =>
    refine .inl ⟨fault, answered.1, answered.2, ?_, ?_⟩
    · simp only [list, called, Cursor.ofListing, acquired, began]
    · simp only [list, again, Cursor.ofListing, acquiredToo, beganToo]
  | ok _ =>
    have listed : Cursor.ofListing listing options.nameFilter session = (.ok used, one) := by
      simp only [Cursor.ofListing, acquired, began]
    obtain ⟨mine, sound⟩ := (Cursor.clean_ofListing listed).sound
    refine .inr ⟨used, one, other, answered.1, ?_, ?_, together.abreast sound fun pulls =>
      (answered.2 pulls).trans (Course.answers_eq_handedOut _ _ pulls)⟩
    · simp only [list, called, listed]
    · simp only [list, again, Cursor.ofListing, acquiredToo, beganToo]

/-- A place whose entries can be listed can be listed by somebody who holds the tree besides, and
the two cursors are the same. -/
theorem list_beside {session alone : Session} {locator : Locator} {options : ListOptions}
    {cursor : Cursor Listing} (listed : session.list locator options = (.ok cursor, alone)) :
    ∃ tree held beside items, session.acquire = (.ok tree, held) ∧
      held.list locator options = (.ok cursor, beside) ∧
      Cursor.Abreast tree items 0 cursor alone beside := by
  cases called : session.listingOf locator options with
  | error fault => simp [list, called] at listed
  | ok listing =>
    -- Without a tree the entries could not be listed either, so both steps before are known to
    -- succeed.
    rcases acquired : session.acquire with ⟨fault | tree, held⟩
    · simp [list, called, Cursor.ofListing, acquired] at listed
    · rcases list_cases called acquired with
        ⟨fault, _, _, failed, _⟩ | ⟨used, after, beside, _, opened, openedToo, abreast⟩
      · simp [listed] at failed
      · obtain ⟨rfl, rfl⟩ : used = cursor ∧ after = alone := by simpa [opened] using listed
        exact ⟨tree, held, beside, _, rfl, openedToo, abreast⟩

/-- Where a cursor is opened beside a tree that is held, a stream is opened that brings the image of
what the cursor brings alone, and keeps the tree held. -/
theorem listResources_of_list {session held alone beside : Session} {tree : TreeRef}
    {locator : Locator} {options : ListOptions} {cursor : Cursor Listing}
    {items : List (Except Fault Entry)} (acquired : session.acquire = (.ok tree, held))
    (listed : held.list locator options = (.ok cursor, beside))
    (abreast : Cursor.Abreast tree items 0 cursor alone beside)
    (filter : Option (Resource → Except Fault Bool)) :
    ∃ stream shared, session.listResources locator options filter = (.ok stream, shared) ∧
      ∀ pulls, (stream.answers pulls shared).1 =
          handedOut (items.filterMap (Resource.image locator tree filter)) pulls.length ∧
        (stream.answers pulls shared).2.Holds tree 1 := by
  -- That the stream knows the tree is noticed by nobody.
  have kept := abreast.after ((Twins.refl tree beside).keepTree tree) fun _ held _ =>
    held.keepTree tree
  let stream : ResourceStream (Cursor Listing) Resource :=
    { source := cursor
      adapter := .resources locator tree
      filter
      held := some tree
      known := some tree }
  refine ⟨stream, beside.keepTree tree, ?_, fun pulls => stream.answers_image rfl kept pulls⟩
  simp only [listResources, acquired, listed, stream]

/--
A listing of the resources of a place brings the image of what a listing of its entries brings.

Where the entries of a place can be listed, so can its resources. Each failure of the listing is
passed on in its turn, and each entry becomes the resource it stands for, except for those with a
name that is not usable and those whose resource the filter refuses or fails on. Whatever the reader
gives back meanwhile, the tree of the resources stays open, also behind the closing of the cursor.
-/
theorem listResources_refines {session alone : Session} {locator : Locator} {options : ListOptions}
    {cursor : Cursor Listing} (listed : session.list locator options = (.ok cursor, alone))
    (filter : Option (Resource → Except Fault Bool)) :
    ∃ tree stream shared items,
      session.listResources locator options filter = (.ok stream, shared) ∧
      (∀ pulls, cursor.answers pulls alone = handedOut items pulls) ∧
      (∀ pulls, (stream.answers pulls shared).1 =
        handedOut (items.filterMap (Resource.image locator tree filter)) pulls.length) ∧
      (∀ pulls, ∃ handle, (stream.answers pulls shared).2.tree? tree = some handle ∧
        handle.closed = false ∧ 0 < handle.refs) ∧
      ∀ entry, (∃ place, locator.child entry = .ok place) ↔
        Locator.isUsableName entry.name = true := by
  -- The holder besides is the listing of resources itself: it takes the tree before it lists.
  obtain ⟨tree, held, beside, items, acquired, listedToo, abreast⟩ := list_beside listed
  obtain ⟨stream, shared, opened, read⟩ := listResources_of_list acquired listedToo abreast filter
  refine ⟨tree, stream, shared, items, opened, abreast.brings, fun pulls => (read pulls).1,
    fun pulls => ?_, Locator.child_ok_iff (listable_of_list listed)⟩
  obtain ⟨handle, found, isOpen, enough⟩ := (read pulls).2
  exact ⟨handle, found, isOpen, enough⟩

/-- An unusable name, a resource that is refused and one that the filter fails on are passed over;
the last entry comes when the cursor is closed, and still becomes a resource on an open tree. -/
theorem listResources_refines_lastEntry :
    let session := new {}
      (.ofTranscript
        { dialect := .smb1
          exchanges :=
            [⟨"find_first2",
                .ok (.find { sid := ⟨7⟩, entries := [{ name := "A" }, { name := "b/c" }] })⟩,
              ⟨"find_next2",
                .ok (.find
                  { endOfSearch := true
                    entries := [{ name := "B" }, { name := "C" }, { name := "D" }] })⟩,
              ⟨"find_close2", .ok .empty⟩] })
      "\\\\srv\\data" ""
    let wants : Resource → Except Fault Bool := fun resource =>
      if resource.entry.name = "C" then .error .handleClosed else .ok (resource.entry.name ≠ "B")
    ∃ cursor alone tree stream shared items,
      session.list (.ofShare "srv" "data") {} = (.ok cursor, alone) ∧
      session.listResources (.ofShare "srv" "data") {} (some wants) = (.ok stream, shared) ∧
      handedOut items 6 =
        [.ok (some { name := "A" }), .ok (some { name := "b/c" }), .ok (some { name := "B" }),
          .ok (some { name := "C" }), .ok (some { name := "D" }), .ok none] ∧
      (handedOut (items.filterMap (Resource.image (.ofShare "srv" "data") tree (some wants))) 3).map
          (Except.map (Option.map (·.locator.url))) =
        [.ok (some "smb://srv/data/A"), .ok (some "smb://srv/data/D"), .ok none] ∧
      ∃ handle, (stream.answers [true, false] shared).2.tree? tree = some handle ∧
        handle.closed = false ∧ 0 < handle.refs := by
  intro session wants
  have raw : (session.list (.ofShare "srv" "data") {}).1.toOption.map
        (fun cursor => cursor.answers 6 (session.list (.ofShare "srv" "data") {}).2) =
      some [.ok (some { name := "A" }), .ok (some { name := "b/c" }), .ok (some { name := "B" }),
        .ok (some { name := "C" }), .ok (some { name := "D" }), .ok none] := by
    decide +kernel
  have read : (session.listResources (.ofShare "srv" "data") {} (some wants)).1.toOption.map
        (fun stream => (stream.answers [true, false, false]
          (session.listResources (.ofShare "srv" "data") {} (some wants)).2).1.map
            (Except.map (Option.map (·.locator.url)))) =
      some [.ok (some "smb://srv/data/A"), .ok (some "smb://srv/data/D"), .ok none] := by
    decide +kernel
  -- From here on only what the two readings brought matters.
  clear_value session wants
  rcases listed : session.list (.ofShare "srv" "data") {} with ⟨fault | cursor, alone⟩
  · simp [listed, Except.toOption] at raw
  · obtain ⟨tree, stream, shared, items, opened, entries, resources, isOpen, _⟩ :=
      listResources_refines listed (some wants)
    simp only [listed, opened, Except.toOption, Option.map_some, Option.some.injEq, entries,
      resources] at raw read
    exact ⟨cursor, alone, tree, stream, shared, items, rfl, opened, raw, read, isOpen _⟩

end Session

end SmbBrowser
