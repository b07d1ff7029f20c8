import SmbBrowser.Proofs.Cursor.Course
import SmbBrowser.Proofs.Cursor.Stakes
import SmbBrowser.Proofs.Session.References

/-!
The lifetime of a cursor: whoever pulls at it or closes it, by whichever way and in whichever order,
the listing is started once, gives back what the server holds once, and the tree is released once.
-/

namespace SmbBrowser

namespace Cursor

/-- What a cursor does with its listing and its tree. -/
inductive Call where
  /-- It asks for the first page. -/
  | start
  /-- It asks for a further page. -/
  | fetchMore
  /-- It gives back what the server holds for the listing. -/
  | finish
  /-- It gives its reference to the tree back. -/
  | release
  /-- It forgets the tree. -/
  | forget
  deriving DecidableEq

variable {Listing : Type} [PagedListing Listing]

/-- What a call makes of the listing and the session. -/
def Call.make (tree : TreeRef) : Call → Listing × Session → Listing × Session
  | .start, (listing, session) => (PagedListing.start listing tree session).2
  | .fetchMore, (listing, session) => (PagedListing.fetchMore listing tree session).2
  | .finish, (listing, session) => (PagedListing.finish listing tree session).2
  | .release, (listing, session) => (listing, (session.releaseTree tree).2)
  | .forget, (listing, session) => (listing, session.forgetTree tree)

/-- What a listing and a session come to by calls, in their order; besides, things are only written
down. -/
inductive Calls (tree : TreeRef) (origin : Listing × Session) :
    List Call → Listing × Session → Prop where
  /-- Nothing was called yet. -/
  | none : Calls tree origin [] origin
  /-- Something is written down. -/
  | note {calls listing session} (log : Array Event) (hooks : Array HookCall)
    (made : Calls tree origin calls (listing, session)) :
    Calls tree origin calls (listing, { session with log, hooks })
  /-- A call is made. -/
  | next {calls place} (call : Call) (made : Calls tree origin calls place) :
    Calls tree origin (calls ++ [call]) (call.make tree place)

/-- The calls of a cursor, with as many further pages as it asks for. -/
def lifetime (pages : Nat) (isClosed : Bool) : List Call :=
  .start :: List.replicate pages .fetchMore ++
    if isClosed then [.finish, .release, .forget] else []

/-- What can be done with an opened cursor. -/
inductive Move where
  /-- Its reader asks for the next entry. -/
  | pull
  /-- Its reader closes it. -/
  | close
  /-- It is closed through one of the closers that were made of it or of each other. -/
  | closer (clone : Nat)
  /-- Its reader drops it. -/
  | drop
  deriving DecidableEq

/-- Does one thing with a cursor; what a pull answers is left out. -/
def move (cursor : Cursor Listing) (session : Session) : Move → Cursor Listing × Session
  | .pull => (cursor.pull session).2
  | .close | .closer _ | .drop => cursor.close session

/-- Does one thing after another with a cursor. -/
def play (cursor : Cursor Listing) (session : Session) : List Move → Cursor Listing × Session
  | [] => (cursor, session)
  | first :: moves =>
    let (cursor, session) := cursor.move session first
    play cursor session moves

variable {cursor ahead : Cursor Listing} {tree : TreeRef} {session after : Session}
  {origin : Listing × Session} {calls : List Call}

namespace Calls

variable {listing : Listing}

/-- An event may be written down at any time. -/
theorem noteEvent (event : Event) (made : Calls tree origin calls (listing, session)) :
    Calls tree origin calls (listing, session.note event) :=
  -- Only the log changes, which is no call.
  made.note (session.log.push event) session.hooks

/-- A failure may be written down at any time. -/
theorem noteFailure (event : Fault → Event) (result : Except Fault Unit)
    (made : Calls tree origin calls (listing, session)) :
    Calls tree origin calls (listing, session.noteFailure event result) := by
  -- What succeeded is not written down.
  cases result with
  | ok _ => exact made
  | error fault => exact made.noteEvent (event fault)

/-- Events may be written down at any time. -/
theorem noteAll (events : List Event) (made : Calls tree origin calls (listing, session)) :
    Calls tree origin calls (listing, session.noteAll events) :=
  -- Only the log changes, which is no call.
  made.note (session.log ++ events) session.hooks

/-- How a listing is called may be written down at any time. -/
theorem noteHook (label : String) (hook : Hook)
    (made : Calls tree origin calls (listing, session)) :
    Calls tree origin calls (listing, session.noteHook label hook) :=
  -- The record of hooks is no part of what a call does.
  made.note session.log (session.hooks.push { listing := label, hook })

/-- The tree may be released, and a failure to do so is written down. -/
theorem release (event : Fault → Event) (made : Calls tree origin calls (listing, session)) :
    Calls tree origin (calls ++ [.release])
      (listing, (session.releaseTree tree).2.noteFailure event (session.releaseTree tree).1) :=
  -- The release is one call, and what it fails with is only written down.
  noteFailure event _ (made.next .release)

/-- Whatever grows by one with every call of one sort, and with nothing else, tells how many of them
there were. -/
theorem measure_eq {count : Listing × Session → Nat} {sort : Call}
    (silent : ∀ listing session log hooks,
      count (listing, { session with log, hooks }) = count (listing, session))
    (grows : ∀ call place,
      count (Call.make tree call place) = count place + if call = sort then 1 else 0)
    {place : Listing × Session} (made : Calls tree origin calls place) :
    count place = count origin + calls.count sort := by
  -- Every call adds to the count what its sort says, and writing something down adds nothing.
  induction made with
  | none => simp
  | note log hooks _ ih => rw [silent, ih]
  | next call _ ih =>
    rw [grows, ih, List.count_append, List.count_singleton, add_assoc]
    simp only [beq_iff_eq]

end Calls

/-- An open cursor may ask for further pages. -/
theorem lifetime_append_fetches (pages more : Nat) :
    lifetime pages false ++ List.replicate more .fetchMore = lifetime (pages + more) false := by
  -- The fetches of a lifetime stand at its end as long as it is open.
  simp [lifetime, List.replicate_append_replicate]

/-- A cursor that is closed gives everything back behind its last page. -/
theorem lifetime_append_end (pages : Nat) :
    lifetime pages false ++ [.finish, .release, .forget] = lifetime pages true := by
  -- What is given back stands behind the last fetch.
  simp [lifetime]

/-- What is given back is given back once by a cursor that is closed, and not before. -/
theorem count_lifetime (pages : Nat) (isClosed : Bool) {call : Call}
    (gives : call = .finish ∨ call = .release ∨ call = .forget) :
    (lifetime pages isClosed).count call = isClosed.toNat := by
  -- Neither the start nor a fetch gives anything back.
  rcases gives with rfl | rfl | rfl <;> cases isClosed <;>
    simp [lifetime, List.count_append, List.count_replicate]

/-- Turning the page asks for one page at most. -/
theorem turnPage_calls (cursor : Cursor Listing) (session : Session)
    (holds : cursor.tree = some tree) (made : Calls tree origin calls (cursor.listing, session)) :
    ∃ pages, Calls tree origin (calls ++ List.replicate pages .fetchMore)
      ((cursor.turnPage session).2.1.listing, (cursor.turnPage session).2.2) := by
  have asked := made.noteHook cursor.label .isDone
  unfold turnPage
  simp only
  -- A listing that is done is not asked again.
  split
  · refine ⟨0, ?_⟩
    simpa using asked
  · have fetched := (asked.noteHook cursor.label .fetchMore).next .fetchMore
    simp only [holds]
    refine ⟨1, ?_⟩
    rw [List.replicate_one]
    split <;> rename_i outcome <;> simpa only [Call.make, outcome] using fetched

/-- Reading on to the end of a page asks for one page at most. -/
theorem readPage_calls (cursor : Cursor Listing) (session : Session)
    (holds : cursor.tree = some tree) (made : Calls tree origin calls (cursor.listing, session)) :
    ∃ pages, Calls tree origin (calls ++ List.replicate pages .fetchMore)
      ((cursor.readPage session).2.1.listing, (cursor.readPage session).2.2) := by
  unfold readPage
  simp only
  generalize scan cursor.filter cursor.unread = look
  have looked := made.noteAll look.events
  -- A page on which an entry is found asks for nothing.
  split
  · refine ⟨0, ?_⟩
    simpa using looked
  · exact turnPage_calls { cursor with index := cursor.index + look.read } _ holds looked

/-- Reading on asks for nothing but pages. -/
theorem advance_calls (cursor : Cursor Listing) (session : Session)
    (holds : cursor.tree = some tree) (made : Calls tree origin calls (cursor.listing, session)) :
    ∃ pages, Calls tree origin (calls ++ List.replicate pages .fetchMore)
      ((cursor.advance session).2.1.listing, (cursor.advance session).2.2) := by
  -- Each page that is turned may be one that was asked for.
  fun_induction advance cursor session generalizing calls with
  | case1 cursor session result ahead after page =>
    have read := cursor.readPage_calls session holds made
    rwa [page] at read
  | case2 cursor session turned later page ih =>
    obtain ⟨pages, read⟩ := cursor.readPage_calls session holds made
    have same := cursor.sameReader_readPage session
    rw [page] at read same
    obtain ⟨more, reads⟩ := ih (same.tree.trans holds) read
    refine ⟨pages + more, ?_⟩
    rwa [List.append_assoc, List.replicate_append_replicate] at reads

/-- Closing an open cursor gives everything back, each once and in this order. -/
theorem Open.close_calls (opened : cursor.Open tree)
    (made : Calls tree origin calls (cursor.listing, session)) :
    Calls tree origin (calls ++ [.finish, .release, .forget])
      ((cursor.close session).1.listing, (cursor.close session).2) := by
  -- The tree is known until its reference was given back.
  have finished := (made.noteHook cursor.label .finish).next .finish
  unfold Cursor.close
  rw [if_neg opened.isOpen]
  simp only [opened.holds, Call.make, label] at finished ⊢
  generalize PagedListing.finish cursor.listing tree
    (session.noteHook (PagedListing.label cursor.listing) .finish) = given at finished ⊢
  -- Behind each call only a failure is written down, so that the next call is made all the same.
  have noted :=
    finished.noteFailure (.cursorFinishFailed (PagedListing.label cursor.listing)) given.1
  have released := noted.release (.cursorReleaseFailed (PagedListing.label cursor.listing))
  have forgotten := (released.noteEvent
    (.cursorClosed (PagedListing.label cursor.listing))).next .forget
  rw [List.append_assoc, List.append_assoc] at forgotten
  exact forgotten

/-- A cursor that was opened on a tree, and has called what belongs to its lifetime. -/
structure Lived (tree : TreeRef) (origin : Listing × Session) (cursor : Cursor Listing)
    (session : Session) : Prop where
  /-- It is sound. -/
  sound : cursor.Sound tree
  /-- It has called nothing else. -/
  calls : ∃ pages, Calls tree origin (lifetime pages cursor.isClosed) (cursor.listing, session)

/-- A cursor that has read ahead has not lived to its end. -/
theorem Ahead.lived (reading : cursor.Ahead tree) {pages : Nat}
    (made : Calls tree origin (lifetime pages false) (cursor.listing, session)) :
    Lived tree origin cursor session := by
  -- It is open, so its calls so far are those of an open lifetime.
  refine ⟨.inl reading, pages, ?_⟩
  rwa [reading.isClosed_eq]

/-- An open cursor that is closed has lived to its end. -/
theorem Open.lived_close (opened : cursor.Open tree) {pages : Nat}
    (made : Calls tree origin (lifetime pages false) (cursor.listing, session)) :
    Lived tree origin (cursor.close session).1 (cursor.close session).2 := by
  -- The calls of closing come behind those of an open lifetime.
  refine ⟨.inr (opened.close session), pages, ?_⟩
  have gave := opened.close_calls made
  rw [lifetime_append_end] at gave
  rwa [(opened.close session).isClosed_eq]

/-- Calls by which a lifetime goes on, from however many pages. -/
def Prolongs (more : List Call) (wasClosed isClosed : Bool) : Prop :=
  ∀ pages, ∃ further, lifetime pages wasClosed ++ more = lifetime further isClosed

/-- Whoever calls nothing goes on with any lifetime. -/
theorem prolongs_nil (isClosed : Bool) : Prolongs [] isClosed isClosed :=
  -- No page is added.
  fun pages => ⟨pages, List.append_nil _⟩

/-- A lifetime that is not over goes on with further pages. -/
theorem prolongs_fetches (more : Nat) : Prolongs (List.replicate more .fetchMore) false false :=
  -- The pages add up.
  fun pages => ⟨pages + more, lifetime_append_fetches pages more⟩

/-- A lifetime comes to its end with the pages that are still asked for and the giving back. -/
theorem prolongs_end (more : Nat) :
    Prolongs (List.replicate more .fetchMore ++ [.finish, .release, .forget]) false true := by
  -- The pages come first, and only behind them everything is given back.
  intro pages
  refine ⟨pages + more, ?_⟩
  rw [← List.append_assoc, lifetime_append_fetches, lifetime_append_end]

/-- Closing a sound cursor prolongs its lifetime. -/
theorem Sound.close_calls (sound : cursor.Sound tree)
    (made : Calls tree origin calls (cursor.listing, session)) :
    ∃ more, Calls tree origin (calls ++ more)
        ((cursor.close session).1.listing, (cursor.close session).2) ∧
      Prolongs more cursor.isClosed (cursor.close session).1.isClosed := by
  -- A second closing calls nothing.
  rcases sound with reading | spent
  · rw [reading.isClosed_eq, (reading.opened.close session).isClosed_eq]
    exact ⟨_, reading.opened.close_calls made, prolongs_end 0⟩
  · rw [spent.close_eq session]
    exact ⟨[], by simpa using made, prolongs_nil _⟩

/-- Pulling at a sound cursor prolongs its lifetime. -/
theorem Sound.pull_calls (sound : cursor.Sound tree)
    (made : Calls tree origin calls (cursor.listing, session)) :
    ∃ more, Calls tree origin (calls ++ more)
        ((cursor.pull session).2.1.listing, (cursor.pull session).2.2) ∧
      Prolongs more cursor.isClosed (cursor.pull session).2.1.isClosed := by
  -- Behind the end nothing is called any more.
  rcases sound with reading | spent
  · obtain ⟨pages, read⟩ := advance_calls { cursor with next := none } session reading.holds made
    obtain ⟨entry, inHand, _⟩ := reading.inHand
    have pulled := reading.pulled inHand session
    rw [reading.isClosed_eq]
    generalize cursor.pull session = outcome at pulled ⊢
    cases pulled with
    | found advanced still =>
      rw [advanced] at read
      rw [still.isClosed_eq]
      exact ⟨_, read, prolongs_fetches pages⟩
    | @ended ahead after advanced opened =>
      rw [advanced] at read
      have gave := opened.close_calls read
      rw [List.append_assoc] at gave
      rw [(opened.close after).isClosed_eq]
      exact ⟨_, gave, prolongs_end pages⟩
    | @failed fault ahead after advanced opened =>
      rw [advanced] at read
      have gave := opened.close_calls (read.noteEvent (.cursorAdvanceFailed ahead.label fault))
      rw [List.append_assoc] at gave
      have spent := (opened.close (after.note (.cursorAdvanceFailed ahead.label fault)))
      rw [(spent.withDeferred (some fault)).isClosed_eq]
      exact ⟨_, gave, prolongs_end pages⟩
  · rw [spent.pull_eq session]
    exact ⟨[], by simpa using made, prolongs_nil _⟩

/-- Whatever is done with a sound cursor prolongs its lifetime. -/
theorem Sound.move_calls (sound : cursor.Sound tree)
    (made : Calls tree origin calls (cursor.listing, session)) (move : Move) :
    ∃ more, Calls tree origin (calls ++ more)
        ((cursor.move session move).1.listing, (cursor.move session move).2) ∧
      Prolongs more cursor.isClosed (cursor.move session move).1.isClosed := by
  -- Pulling asks for pages, and the three other ways make the calls of closing.
  cases move with
  | pull => exact sound.pull_calls made
  | close | closer | drop => exact sound.close_calls made

/-- Whatever is done with it, a cursor stays sound. -/
theorem Sound.move (sound : cursor.Sound tree) (session : Session) (move : Move) :
    (cursor.move session move).1.Sound tree := by
  -- A pull leaves a sound cursor, and the other ways leave a spent one.
  cases move with
  | pull => exact sound.pull session
  | close | closer | drop => exact .inr (sound.close session)

/-- Whatever is done with it in whichever order, a cursor stays sound. -/
theorem Sound.play (sound : cursor.Sound tree) (session : Session) (moves : List Move) :
    (cursor.play session moves).1.Sound tree := by
  -- Every move keeps the cursor sound.
  induction moves generalizing cursor session with
  | nil => exact sound
  | cons first moves ih => exact ih (sound.move session first) _

namespace Lived

/-- Whatever is done with it, a cursor lives on. -/
theorem move (lived : Lived tree origin cursor session) (move : Move) :
    Lived tree origin (cursor.move session move).1 (cursor.move session move).2 := by
  -- The calls of the move go on with the lifetime that there is.
  obtain ⟨sound, pages, made⟩ := lived
  obtain ⟨more, calls, prolongs⟩ := sound.move_calls made move
  obtain ⟨further, whole⟩ := prolongs pages
  rw [whole] at calls
  exact ⟨sound.move session move, further, calls⟩

/-- Whatever is done with it in whichever order, a cursor lives on. -/
theorem play (lived : Lived tree origin cursor session) (moves : List Move) :
    Lived tree origin (cursor.play session moves).1 (cursor.play session moves).2 := by
  -- The cursor lives on from one move to the next.
  induction moves generalizing cursor session with
  | nil => exact lived
  | cons first moves ih => exact ih (lived.move first)

/-- Whatever counts how often something is given back, by the listing or by the session, has counted
one more when the cursor is closed, and nothing before. -/
theorem given_back (lived : Lived tree origin cursor session) {count : Listing × Session → Nat}
    {sort : Call} (gives : sort = .finish ∨ sort = .release ∨ sort = .forget)
    (silent : ∀ listing session log hooks,
      count (listing, { session with log, hooks }) = count (listing, session))
    (grows : ∀ call place,
      count (Call.make tree call place) = count place + if call = sort then 1 else 0) :
    count (cursor.listing, session) = count origin + cursor.isClosed.toNat := by
  -- The calls of a lifetime have that sort once or never.
  obtain ⟨pages, made⟩ := lived.calls
  rw [made.measure_eq silent grows, count_lifetime pages cursor.isClosed gives]

end Lived

/-- A cursor that begins has started its listing; one that cannot begin has called nothing else. -/
theorem Begun.lived {outcome : Except Fault Unit × Cursor Listing × Session}
    (begun : Begun tree cursor session outcome) (holds : cursor.tree = some tree) :
    match outcome.1 with
    | .ok () => Lived tree (cursor.listing, session) outcome.2.1 outcome.2.2
    | .error _ => ∃ pages, Calls tree (cursor.listing, session) (lifetime pages false)
      (outcome.2.1.listing, outcome.2.2) := by
  have asked : Calls tree (cursor.listing, session) (lifetime 0 false)
      (PagedListing.start cursor.listing tree (session.noteHook cursor.label .start)).2 :=
    (Calls.none.noteHook cursor.label .start).next .start
  -- Behind a start that succeeds the first entry is read ahead as every later one.
  have reads {listing : Listing} {later : Session}
      (started : PagedListing.start cursor.listing tree (session.noteHook cursor.label .start) =
        (.ok true, listing, later)) :
      ∃ pages, Calls tree (cursor.listing, session) (lifetime pages false)
        (({ cursor with listing, state := .hasResult }.advance later).2.1.listing,
          ({ cursor with listing, state := .hasResult }.advance later).2.2) := by
    rw [started] at asked
    obtain ⟨pages, made⟩ :=
      advance_calls { cursor with listing, state := .hasResult } later holds asked
    rw [lifetime_append_fetches] at made
    exact ⟨0 + pages, made⟩
  cases begun with
  | refused started opened =>
    rw [started] at asked
    exact ⟨0, asked⟩
  | @empty listing after started opened =>
    rw [started] at asked
    exact opened.lived_close (asked.noteEvent (.cursorEmpty (PagedListing.label listing)))
  | found started advanced reading =>
    obtain ⟨pages, made⟩ := reads started
    rw [advanced] at made
    exact reading.lived made
  | ended started advanced opened =>
    obtain ⟨pages, made⟩ := reads started
    rw [advanced] at made
    exact opened.lived_close made
  | failed started advanced opened =>
    obtain ⟨pages, made⟩ := reads started
    rw [advanced] at made
    exact ⟨pages, made⟩

/-- A cursor that begins is closed when nothing that is wanted comes of its listing. -/
theorem Begun.isClosed_iff {outcome : Except Fault Unit × Cursor Listing × Session}
    (begun : Begun tree cursor session outcome) (holds : cursor.tree = some tree)
    (start : cursor.index = 0) (succeeded : outcome.1 = .ok ()) :
    outcome.2.1.isClosed = true ↔
      (course tree cursor.filter cursor.listing session).entries cursor.filter = [] := by
  -- The opening closes the cursor when it finds nothing to read ahead.
  cases begun with
  | refused | failed => simp at succeeded
  | empty started opened =>
    rw [label] at started
    simp only [course, started]
    exact iff_of_true (opened.close _).isClosed_eq rfl
  | found started advanced reading =>
    have foretold := cursor.foretold_started holds start started
    rw [advanced] at foretold
    simp [reading.isClosed_eq, foretold.1]
  | ended started advanced opened =>
    have foretold := cursor.foretold_started holds start started
    rw [advanced] at foretold
    exact iff_of_true (opened.close _).isClosed_eq foretold.1

/-- A cursor that was opened has called what belongs to its lifetime since its tree was acquired. -/
theorem lived_ofListing {listing : Listing} {filter : Option NameFilter} {held : Session}
    (acquired : session.acquire = (.ok tree, held))
    (opened : ofListing listing filter session = (.ok cursor, after)) :
    Lived tree (listing, held) cursor after := by
  have begun := begun_fresh listing tree filter held
  simp only [ofListing, acquired] at opened
  -- Only a cursor that could begin is handed out.
  split at opened
  · rename_i began
    rw [began] at begun
    obtain ⟨isSame, rfl⟩ := Prod.mk.inj opened
    obtain rfl := Except.ok.inj isSame
    exact begun.lived rfl
  · simp at opened

/-- A cursor that cannot be opened has called what belongs to a whole lifetime before that is
answered. -/
theorem calls_refused {listing : Listing} {filter : Option NameFilter} {held : Session}
    {fault : Fault} (acquired : session.acquire = (.ok tree, held))
    (failed : ofListing listing filter session = (.error fault, after)) :
    ∃ pages given, Calls tree (listing, held) (lifetime pages true) (given, after) := by
  have begun := begun_fresh listing tree filter held
  simp only [ofListing, acquired] at failed
  split at failed
  · simp at failed
  · -- A cursor that cannot begin gives everything back.
    rename_i fault cursor later began
    rw [began] at begun
    obtain ⟨pages, made⟩ := begun.lived rfl
    have gave := (begun.opened rfl).close_calls
      (made.noteEvent (.cursorOpenFailed cursor.label fault))
    rw [lifetime_append_end] at gave
    obtain ⟨_, rfl⟩ := Prod.mk.inj failed
    exact ⟨pages, _, gave⟩

/-- Nothing that is done with a cursor that gave everything back has any effect, except that a
failure that waits is reported. -/
theorem Spent.play_eq (spent : cursor.Spent) (session : Session) (moves : List Move) :
    ∃ deferred, cursor.play session moves = ({ cursor with deferred }, session) := by
  -- The induction is on the moves; none of them reaches the listing or the session.
  induction moves generalizing cursor with
  | nil => exact ⟨cursor.deferred, rfl⟩
  | cons first moves ih =>
    cases first with
    | pull =>
      rw [play, move, spent.pull_eq]
      exact ih (spent.withDeferred none)
    | close | closer | drop =>
      rw [play, move, spent.close_eq]
      exact ih spent

/-- What is done with an open cursor closes it, unless it is a pull and something that is wanted is
still to come. -/
theorem Sound.isClosed_move (sound : cursor.Sound tree) (session : Session) (move : Move) :
    (cursor.move session move).1.isClosed = true ↔
      cursor.isClosed = true ∨ move ≠ .pull ∨
        (cursor.remaining tree session).entries cursor.filter = [] := by
  -- A closed cursor stays closed, so that only an open one is of interest.
  rcases sound with reading | spent
  · cases move with
    | pull =>
      obtain ⟨entry, inHand, _⟩ := reading.inHand
      obtain ⟨used, after, pulled, comes⟩ := reading.pull_eq inHand session
      rw [Cursor.move, pulled]
      rcases comes with ⟨still, _, _, _, entries, _⟩ | ⟨spent, noEntry, _⟩
      · simp [still.isClosed_eq, reading.isClosed_eq, entries]
      · simp [spent.isClosed_eq, noEntry]
    | close | closer | drop =>
      exact iff_of_true (reading.opened.close session).isClosed_eq (.inr (.inl (by simp)))
  · obtain ⟨deferred, unchanged⟩ := spent.play_eq session [move]
    have closed : (cursor.move session move).1.isClosed = true := by
      rw [show cursor.move session move = cursor.play session [move] from rfl, unchanged]
      exact spent.isClosed_eq
    exact iff_of_true closed (.inl spent.isClosed_eq)

/-- Once the tree is acquired, a cursor starts its listing, asks for pages, and then gives back what
the server holds, its reference to the tree and the tree, each once: before a failure to open it is
answered, or when it is closed or dropped, or when a pull or the opening finds that nothing wanted
is to come. Until then an entry is in hand, and from then on nothing has any effect. -/
theorem ofListing_lifetime (listing : Listing) (filter : Option NameFilter) (session : Session) :
    match session.acquire with
    | (.error fault, refused) => ofListing listing filter session = (.error fault, refused)
    | (.ok tree, held) =>
      match ofListing listing filter session with
      | (.error _, after) =>
        ∃ pages given, Calls tree (listing, held) (lifetime pages true) (given, after)
      | (.ok cursor, opened) =>
        (cursor.isClosed = true ↔ (course tree filter listing held).entries filter = []) ∧
        ∀ moves,
          let (used, after) := cursor.play opened moves
          used.Sound tree ∧
          (∃ pages, Calls tree (listing, held) (lifetime pages used.isClosed)
            (used.listing, after)) ∧
          (∀ move, (used.move after move).1.isClosed = true ↔
            used.isClosed = true ∨ move ≠ .pull ∨
              (used.remaining tree after).entries used.filter = []) ∧
          (used.isClosed = false ∨ ∀ more, ∃ deferred,
            used.play after more = ({ used with deferred }, after)) := by
  -- Without a tree nothing is called.
  rcases acquired : session.acquire with ⟨fault | tree, held⟩
  · simp only [ofListing, acquired]
  · have begun := begun_fresh listing tree filter held
    simp only [ofListing, acquired]
    rcases began : begin { listing, tree := some tree, filter } tree held with
      ⟨fault | _, cursor, opened⟩ <;> rw [began] at begun
    · obtain ⟨pages, made⟩ := begun.lived rfl
      have noted := made.noteEvent (.cursorOpenFailed cursor.label fault)
      have gave := (begun.opened rfl).close_calls noted
      rw [lifetime_append_end] at gave
      exact ⟨pages, _, gave⟩
    · refine ⟨begun.isClosed_iff rfl rfl rfl, fun moves => ?_⟩
      have lived := Lived.play (begun.lived rfl) moves
      refine ⟨lived.sound, lived.calls, lived.sound.isClosed_move _, ?_⟩
      rcases lived.sound with reading | spent
      · exact .inl reading.isClosed_eq
      · exact .inr (spent.play_eq _)

variable [StakedListing Listing] {rest : Multiset Stake}

/-- Whatever is done with a cursor is a chain of deals. -/
theorem play_deals {licence : Licence} [licence.Reads] (cursor : Cursor Listing)
    (session : Session) (moves : List Move) :
    Deals licence (session, cursor.stakes + rest)
      ((cursor.play session moves).2, (cursor.play session moves).1.stakes + rest) := by
  -- Each move is a chain of deals of its own.
  induction moves generalizing cursor session with
  | nil => exact .refl
  | cons first moves ih =>
    refine .trans ?_ (ih (cursor.move session first).1 (cursor.move session first).2)
    cases first with
    | pull => exact cursor.pull_deals session
    | close | closer | drop => exact cursor.close_deals session

/-- A tree has one reference for a cursor on it until the cursor is closed, and from then on only
those that it had besides. -/
theorem refs_play {listing : Listing} (filter : Option NameFilter) {session : Session}
    (fresh : StakedListing.stakes listing = 0)
    (counted : Counted session.trees session.files rest) :
    match ofListing listing filter session with
    | (.error _, after) => Counted after.trees after.files rest
    | (.ok cursor, opened) => ∀ moves tree,
      let (used, after) := cursor.play opened moves
      Table.measure (·.refs) after.trees tree.index =
        rest.count (.reference tree) + openFiles after.files tree +
          if !used.isClosed && decide (used.tree = some tree) then 1 else 0 := by
  -- The opening and all moves are one chain of deals, which keeps the counts.
  have opening : Deals .reading (session, rest) _ := ofListing_deals filter session fresh
  rcases outcome : ofListing listing filter session with ⟨fault | cursor, opened⟩ <;>
    rw [outcome] at opening
  · simpa only [gainedBy, zero_add] using opening.counted not_false counted
  · intro moves tree
    obtain ⟨_, sound⟩ := (clean_ofListing outcome).sound
    have played : Deals .reading (session, rest) _ :=
      opening.trans (cursor.play_deals opened moves)
    have held := (played.counted not_false counted).held tree
    rw [Multiset.count_add, count_stakes (sound.play opened moves)] at held
    simp only [held]
    omega

end Cursor

end SmbBrowser
