import SmbBrowser.Proofs.Cursor.Lifetime

/-!
How far a cursor has read: which turns its listing has taken so far, and what was found on their
pages. A page is asked for only behind one that was looked through and was not the last.
-/

namespace SmbBrowser

namespace Turn

/-- The entries that a turn brings. -/
def entries : Turn → List Entry
  | .page entries _ => entries
  | _ => []

/-- A page comes, be it empty. -/
def isPage : Turn → Bool
  | .page _ _ => true
  | _ => false

/-- What comes of asking a listing for a page, as a turn. -/
def of {Listing : Type} [PagedListing Listing] : Except Fault Bool × Listing × Session → Turn
  | (.error fault, _, _) => .fail fault
  | (.ok false, _, _) => .nothing
  | (.ok true, listing, _) => .page (PagedListing.results listing) (PagedListing.isDone listing)

/-- The wanted entries that turns bring. -/
def wanted (filter : Option NameFilter) (turns : List Turn) : List Entry :=
  (turns.flatMap entries).filter (Cursor.wants filter)

/-- The entries that are wanted of the first turns come before those of the later ones. -/
theorem wanted_append (filter : Option NameFilter) (turns more : List Turn) :
    wanted filter (turns ++ more) = wanted filter turns ++ wanted filter more := by
  -- The choice is made turn by turn.
  simp [wanted]

end Turn

/-- How far a listing was read. -/
structure Place (Listing : Type) where
  /-- What is left of its page. -/
  unread : List Entry
  /-- The listing as it is by then. -/
  listing : Listing
  /-- The session as it is by then. -/
  session : Session
  /-- The first page has come. -/
  begun : Bool

namespace Place

variable {Listing : Type}

/-- Nothing was asked yet. -/
def fresh (listing : Listing) (session : Session) : Place Listing := ⟨[], listing, session, false⟩

variable [PagedListing Listing]

/-- No page follows. -/
def isDone (place : Place Listing) : Bool := place.begun && PagedListing.isDone place.listing

/-- Asks for the next page, or for the first one. -/
def ask (tree : TreeRef) (place : Place Listing) : Except Fault Bool × Listing × Session :=
  if place.begun then PagedListing.fetchMore place.listing tree place.session
  else PagedListing.start place.listing tree place.session

end Place

namespace Cursor

variable {Listing : Type} [PagedListing Listing]

/-- How far a cursor has read. -/
def place (cursor : Cursor Listing) (session : Session) : Place Listing :=
  ⟨cursor.unread, cursor.listing, session, true⟩

/-- Reading on from a place: the wanted entries that are found and the pages that come. Besides,
things are only written down. -/
inductive Reads (tree : TreeRef) (filter : Option NameFilter) (origin : Place Listing) :
    List Entry → List Turn → Place Listing → Prop where
  /-- Nothing was read yet. -/
  | none : Reads tree filter origin [] [] origin
  /-- Something is written down. -/
  | note {found pages place} (log : Array Event) (hooks : Array HookCall)
    (reads : Reads tree filter origin found pages place) :
    Reads tree filter origin found pages
      { place with session := { place.session with log, hooks } }
  /-- The next entry of the page is looked at. -/
  | look {found pages place entry unread} (reads : Reads tree filter origin found pages place)
    (next : place.unread = entry :: unread) :
    Reads tree filter origin (found ++ [entry].filter (wants filter)) pages { place with unread }
  /-- The page was looked through and is not the last, and the next one comes. -/
  | turn {found pages place more after} (reads : Reads tree filter origin found pages place)
    (through : place.unread = []) (isMore : place.isDone = false)
    (came : place.ask tree = (.ok true, more, after)) :
    Reads tree filter origin found
      (pages ++ [.page (PagedListing.results more) (PagedListing.isDone more)])
      ⟨PagedListing.results more, more, after, true⟩

/-- Reading on from a place to the end: the last page was looked through, or no other page comes. -/
inductive ReadsOut (tree : TreeRef) (filter : Option NameFilter) (origin : Place Listing) :
    List Entry → List Turn → Listing × Session → Prop where
  /-- The page is the last. -/
  | done {found pages place} (reads : Reads tree filter origin found pages place)
    (through : place.unread = []) (isDone : place.isDone = true) :
    ReadsOut tree filter origin found pages (place.listing, place.session)
  /-- No other page comes. -/
  | last {found pages place result listing session}
    (reads : Reads tree filter origin found pages place) (through : place.unread = [])
    (isMore : place.isDone = false) (came : place.ask tree = (result, listing, session))
    (noPage : result ≠ .ok true) :
    ReadsOut tree filter origin found (pages ++ [.of (result, listing, session)]) (listing, session)

/-- The turns that a listing still takes behind its page, when it is read to its end. The session is
used as a cursor uses it. -/
def turnsBehind (tree : TreeRef) (filter : Option NameFilter) (listing : Listing)
    (session : Session) : List Turn :=
  let label := PagedListing.label listing
  let asked := session.noteHook label .isDone
  if PagedListing.isDone listing then []
  else
    match _ : PagedListing.fetchMore listing tree (asked.noteHook label .fetchMore) with
    | (.error fault, _, _) => [.fail fault]
    | (.ok false, _, _) => [.nothing]
    | (.ok true, more, after) =>
      let page := PagedListing.results more
      .page page (PagedListing.isDone more) ::
        turnsBehind tree filter more (after.noteAll (remarks filter page))
termination_by PagedListing.stock listing + session.weight
decreasing_by
  rename_i fetched
  have fewer := PagedListing.fetchMore_lt fetched
  simp only [Session.weight_noteHook, Session.weight_noteAll, asked] at fewer ⊢
  omega

/-- All turns that a listing takes, from its start to its end. -/
def turns (tree : TreeRef) (filter : Option NameFilter) (listing : Listing) (session : Session) :
    List Turn :=
  match PagedListing.start listing tree
      (session.noteHook (PagedListing.label listing) .start) with
  | (.error fault, _, _) => [.fail fault]
  | (.ok false, _, _) => [.nothing]
  | (.ok true, started, after) =>
    let page := PagedListing.results started
    .page page (PagedListing.isDone started) ::
      turnsBehind tree filter started (after.noteAll (remarks filter page))

/-- The turns that are still to be taken by the listing that a cursor reads. -/
def turnsLeft (tree : TreeRef) (cursor : Cursor Listing) (session : Session) : List Turn :=
  turnsBehind tree cursor.filter cursor.listing
    (session.noteAll (remarks cursor.filter cursor.unread))

variable {tree : TreeRef} {filter : Option NameFilter} {origin place : Place Listing}
  {found : List Entry} {pages : List Turn}

/-- A listing that is not done takes the turn that comes of asking it. -/
theorem turnsBehind_more {listing : Listing} {session : Session}
    (isMore : PagedListing.isDone listing = false) :
    turnsBehind tree filter listing session =
      match PagedListing.fetchMore listing tree
          ((session.noteHook (PagedListing.label listing) .isDone).noteHook
            (PagedListing.label listing) .fetchMore) with
      | (.error fault, _, _) => [.fail fault]
      | (.ok false, _, _) => [.nothing]
      | (.ok true, more, after) =>
        .page (PagedListing.results more) (PagedListing.isDone more) ::
          turnsBehind tree filter more
            (after.noteAll (remarks filter (PagedListing.results more))) := by
  rw [turnsBehind, if_neg (by simp [isMore])]
  -- The three outcomes of the request are those of the recursion.
  split <;> rename_i fetched <;> rw [fetched]

/-- A page and the turns behind it come to the page and what comes behind it. -/
theorem laidDown_turnsBehind (listing : Listing) (session : Session) :
    RehearsedListing.laidDown (.page (PagedListing.results listing) (PagedListing.isDone listing) ::
        turnsBehind tree filter listing session) =
      (pagesBehind tree filter listing session).behind (PagedListing.results listing) := by
  -- The induction is on the turns; both ask the same listing in the same sessions.
  fun_induction turnsBehind tree filter listing session with
  | case1 listing session done =>
    rw [pagesBehind, if_pos done, done]
    rfl
  | case2 listing session label asked more fault left last fetched =>
    simp only [asked, label] at fetched
    rw [pagesBehind_more more, fetched, eq_false_of_ne_true more]
    rfl
  | case3 listing session label asked more left last fetched =>
    simp only [asked, label] at fetched
    rw [pagesBehind_more more, fetched, eq_false_of_ne_true more]
    rfl
  | case4 listing session label asked isMore more after fetched page ih =>
    simp only [asked, label] at fetched
    rw [pagesBehind_more isMore, fetched, eq_false_of_ne_true isMore]
    exact congrArg (Course.behind _) ih

/-- All turns of a listing come to what comes of it. -/
theorem laidDown_turns (listing : Listing) (session : Session) :
    RehearsedListing.laidDown (turns tree filter listing session) = course tree filter listing session := by
  unfold turns course
  -- The first turn is what comes of the start; behind a page the recursions agree.
  rcases PagedListing.start listing tree
      (session.noteHook (PagedListing.label listing) .start) with ⟨fault | _ | _, started, after⟩
  · rfl
  · rfl
  · exact laidDown_turnsBehind _ _

namespace Reads

/-- Events may be written down while a listing is read. -/
theorem noteAll (events : List Event) (reads : Reads tree filter origin found pages place) :
    Reads tree filter origin found pages
      { place with session := place.session.noteAll events } :=
  -- Besides the log everything stays as it is.
  reads.note (place.session.log ++ events) place.session.hooks

/-- The call of a listing may be written down while it is read. -/
theorem noteHook (label : String) (hook : Hook)
    (reads : Reads tree filter origin found pages place) :
    Reads tree filter origin found pages
      { place with session := place.session.noteHook label hook } :=
  -- Besides the hooks everything stays as it is.
  reads.note place.session.log (place.session.hooks.push { listing := label, hook })

/-- Entries are looked at one after the other. -/
theorem looks {front unread : List Entry} (reads : Reads tree filter origin found pages place)
    (next : place.unread = front ++ unread) :
    Reads tree filter origin (found ++ front.filter (wants filter)) pages
      { place with unread } := by
  -- Each entry that is looked at is found if it is wanted.
  induction front generalizing found place with
  | nil =>
    obtain rfl : place.unread = unread := next
    simpa using reads
  | cons entry front ih =>
    have looked := ih (reads.look next) rfl
    rwa [List.append_assoc, ← List.filter_append] at looked

/-- Reading on and on is reading on. -/
theorem trans {more : List Entry} {further : List Turn} {last : Place Listing}
    (first : Reads tree filter origin found pages place)
    (second : Reads tree filter place more further last) :
    Reads tree filter origin (found ++ more) (pages ++ further) last := by
  -- Each step of the later reading is a step behind the earlier one.
  induction second with
  | none => simpa using first
  | note log hooks _ ih => exact ih.note log hooks
  | look _ next ih =>
    rw [← List.append_assoc]
    exact ih.look next
  | turn _ through isMore came ih =>
    rw [← List.append_assoc]
    exact ih.turn through isMore came

/-- Reading on and then reading out is reading out. -/
theorem readsOut {more : List Entry} {further : List Turn} {last : Listing × Session}
    (first : Reads tree filter origin found pages place)
    (second : ReadsOut tree filter place more further last) :
    ReadsOut tree filter origin (found ++ more) (pages ++ further) last := by
  -- The end is met where the later reading meets it.
  cases second with
  | done second through isDone => exact .done (first.trans second) through isDone
  | last second through isMore came noPage =>
    rw [← List.append_assoc]
    exact .last (first.trans second) through isMore came noPage

/-- Only pages come. -/
theorem isPage (reads : Reads tree filter origin found pages place) :
    ∀ turn ∈ pages, turn.isPage = true := by
  -- Only a step that turns the page adds a turn, and it adds a page.
  induction reads with
  | none => simp
  | note _ _ _ ih => exact ih
  | look _ _ ih => exact ih
  | turn _ _ _ _ ih =>
    intro turn listed
    rcases List.mem_append.mp listed with before | isLast
    · exact ih turn before
    · rw [List.mem_singleton.mp isLast]
      rfl

/-- Whatever is wanted of the pages was found or is still to be looked at. -/
theorem wanted_eq (reads : Reads tree filter origin found pages place) :
    origin.unread.filter (wants filter) ++ Turn.wanted filter pages =
      found ++ place.unread.filter (wants filter) := by
  -- Looking moves an entry from the unread ones to the found ones, and a page adds to the unread
  -- ones.
  induction reads with
  | none => simp [Turn.wanted]
  | note _ _ _ ih => exact ih
  | look _ next ih =>
    rw [ih, next, List.append_assoc, ← List.filter_append]
    rfl
  | turn _ through _ _ ih =>
    rw [Turn.wanted_append, ← List.append_assoc, ih, through]
    simp [Turn.wanted, Turn.entries]

end Reads

/-- Whoever reads a listing out has found everything that is wanted of its pages. -/
theorem ReadsOut.wanted_eq {turns : List Turn} {last : Listing × Session}
    (reads : ReadsOut tree filter origin found turns last) :
    origin.unread.filter (wants filter) ++ Turn.wanted filter turns = found := by
  cases reads with
  | done reads through _ =>
    rw [reads.wanted_eq, through]
    simp
  | @last _ _ result listing session reads through _ _ noPage =>
    -- A turn without a page brings no entry.
    have nothing : Turn.wanted filter [.of (result, listing, session)] = [] := by
      rcases result with fault | _ | _
      · rfl
      · rfl
      · exact absurd rfl noPage
    rw [Turn.wanted_append, nothing, List.append_nil, reads.wanted_eq, through]
    simp

/-- Every page was needed: whatever was looked at before the last of them was not wanted. -/
def Needed (filter : Option NameFilter) (unread : List Entry) (pages : List Turn) : Prop :=
  pages ≠ [] → unread.filter (wants filter) = [] ∧ Turn.wanted filter pages.dropLast = []

/-- What comes of reading on: up to an entry, the pages on the way are turns that the listing has
still to take, and each of them was needed; without an entry, all of the turns were taken. -/
def Exhausts (tree : TreeRef) (filter : Option NameFilter) (origin : Place Listing)
    (left : List Turn) : Except Fault (Option Entry) × Cursor Listing × Session → Prop
  | (.ok (some entry), ahead, after) => ∃ pages,
    Reads tree filter origin [entry] pages (ahead.place after) ∧
      left = pages ++ ahead.turnsLeft tree after ∧ Needed filter origin.unread pages
  | (.ok none, ahead, after) | (.error _, ahead, after) =>
    ReadsOut tree filter origin [] left (ahead.listing, after)

/-- Pages on which nothing was found may be read before. -/
theorem Exhausts.behind {left : List Turn}
    {outcome : Except Fault (Option Entry) × Cursor Listing × Session}
    (exhausts : Exhausts tree filter place left outcome)
    (first : Reads tree filter origin [] pages place) (needed : Needed filter origin.unread pages) :
    Exhausts tree filter origin (pages ++ left) outcome := by
  obtain ⟨fault | _ | entry, ahead, after⟩ := outcome
  · exact first.readsOut exhausts
  · exact first.readsOut exhausts
  · obtain ⟨further, reads, rfl, nothing⟩ := exhausts
    refine ⟨pages ++ further, first.trans reads, (List.append_assoc _ _ _).symm, fun filled => ?_⟩
    by_cases same : further = []
    · subst same
      rw [List.append_nil] at filled ⊢
      exact needed filled
    · -- Whatever was read before another page came was not wanted.
      obtain ⟨through, others⟩ := nothing same
      have balance := first.wanted_eq
      rw [through, List.append_nil, List.append_eq_nil_iff] at balance
      rw [List.dropLast_append_of_ne_nil same, Turn.wanted_append, balance.2, others]
      exact ⟨balance.1, rfl⟩

/-- A scan that finds nothing has looked at everything. -/
theorem read_scan_ended {entries : List Entry} (ended : (scan filter entries).found = none) :
    (scan filter entries).read = entries.length := by
  -- Each entry that is not wanted is passed over.
  induction entries with
  | nil => rfl
  | cons first rest ih =>
    simp only [scan] at ended ⊢
    split at ended
    · simp at ended
    · rw [ih ended, List.length_cons]

/-- Turning the page takes the next turn that was left to take, if there is one. -/
theorem turnPage_reads (cursor : Cursor Listing) (session : Session)
    (holds : cursor.tree = some tree) (through : cursor.unread = []) :
    match cursor.turnPage session with
    | (some result, ahead, after) =>
      Exhausts tree cursor.filter (cursor.place session)
        (turnsBehind tree cursor.filter cursor.listing session) (result, ahead, after)
    | (none, turned, after) => ∃ page,
      Reads tree cursor.filter (cursor.place session) [] [page] (turned.place after) ∧
        turnsBehind tree cursor.filter cursor.listing session =
          page :: turned.turnsLeft tree after := by
  have here : Reads tree cursor.filter (cursor.place session) [] [] (cursor.place session) := .none
  have asked := here.noteHook cursor.label .isDone
  unfold turnPage
  by_cases done : PagedListing.isDone cursor.listing = true
  · simp only [done, if_true]
    rw [turnsBehind, if_pos done]
    exact .done asked through done
  · -- The listing is asked in the session in which it was to be asked.
    have isMore : PagedListing.isDone cursor.listing = false := by simpa using done
    have isAsked := asked.noteHook cursor.label .fetchMore
    rw [turnsBehind_more isMore]
    simp only [isMore, Bool.false_eq_true, if_false, holds, label] at isAsked ⊢
    rcases came : PagedListing.fetchMore cursor.listing tree
        ((session.noteHook (PagedListing.label cursor.listing) .isDone).noteHook
          (PagedListing.label cursor.listing) .fetchMore) with ⟨fault | found, more, later⟩
    · exact .last isAsked through isMore came (by simp)
    · cases found with
      | false => exact .last isAsked through isMore came (by simp)
      | true => exact ⟨_, isAsked.turn through isMore came, rfl⟩

/-- Reading a page finds a wanted entry on it, or takes the next turn that was left to take. -/
theorem readPage_reads (cursor : Cursor Listing) (session : Session)
    (holds : cursor.tree = some tree) :
    match cursor.readPage session with
    | (some result, ahead, after) =>
      Exhausts tree cursor.filter (cursor.place session) (cursor.turnsLeft tree session)
        (result, ahead, after)
    | (none, turned, after) => ∃ page,
      Reads tree cursor.filter (cursor.place session) [] [page] (turned.place after) ∧
        cursor.turnsLeft tree session = page :: turned.turnsLeft tree after ∧
        cursor.unread.filter (wants cursor.filter) = [] := by
  have start : Reads tree cursor.filter (cursor.place session) [] [] (cursor.place session) := .none
  have parts := List.take_append_drop (scan cursor.filter cursor.unread).read cursor.unread
  have rest : cursor.unread.drop (scan cursor.filter cursor.unread).read =
      unread { cursor with index := cursor.index + (scan cursor.filter cursor.unread).read } :=
    List.drop_drop
  unfold readPage
  simp only
  cases found : (scan cursor.filter cursor.unread).found with
  | some entry =>
    -- The only wanted entry among those that were looked at is the one that was found.
    obtain ⟨wanted, noted⟩ := scan_found found
    have only : (cursor.unread.take (scan cursor.filter cursor.unread).read).filter
        (wants cursor.filter) = [entry] := by
      have whole : cursor.unread.filter (wants cursor.filter) = [entry] ++
          (cursor.unread.drop (scan cursor.filter cursor.unread).read).filter
            (wants cursor.filter) := wanted
      rw [← parts, List.filter_append, parts] at whole
      exact List.append_cancel_right whole
    have looked := (start.looks parts.symm).noteAll (scan cursor.filter cursor.unread).events
    rw [only, rest] at looked
    refine ⟨[], looked, ?_, fun filled => absurd rfl filled⟩
    rw [turnsLeft, noted, Session.noteAll_append, rest]
    rfl
  | none =>
    -- Nothing on the page is wanted, so it is turned.
    obtain ⟨nothing, noted⟩ := scan_ended found
    have through : cursor.unread.drop (scan cursor.filter cursor.unread).read = [] := by
      rw [read_scan_ended found, List.drop_length]
    have looked := (start.looks parts.symm).noteAll (scan cursor.filter cursor.unread).events
    rw [through, List.append_nil] at parts
    rw [parts, nothing, rest] at looked
    have turned := turnPage_reads
      { cursor with index := cursor.index + (scan cursor.filter cursor.unread).read }
      (session.noteAll (scan cursor.filter cursor.unread).events) holds (rest ▸ through)
    rw [turnsLeft, ← noted]
    simp only at turned ⊢
    split <;> rename_i outcome <;> rw [outcome] at turned
    · exact turned.behind looked fun filled => absurd rfl filled
    · obtain ⟨page, reads, left⟩ := turned
      exact ⟨page, looked.trans reads, left, nothing⟩

/-- Reading on finds a wanted entry, or takes all the turns that were left to take. -/
theorem advance_reads (cursor : Cursor Listing) (session : Session)
    (holds : cursor.tree = some tree) :
    Exhausts tree cursor.filter (cursor.place session) (cursor.turnsLeft tree session)
      (cursor.advance session) := by
  -- Each page that is turned is one of those turns, and nothing on the page before was wanted.
  fun_induction advance cursor session with
  | case1 cursor session result ahead after page =>
    have read := cursor.readPage_reads session holds
    rwa [page] at read
  | case2 cursor session turned later page ih =>
    have read := cursor.readPage_reads session holds
    have same := cursor.sameReader_readPage session
    rw [page] at read same
    obtain ⟨taken, reads, left, nothing⟩ := read
    have exhausts := ih (same.tree.trans holds)
    rw [same.filter] at exhausts
    rw [left]
    exact exhausts.behind reads fun _ => ⟨nothing, rfl⟩

/-- A listing was read out, and then it and the tree were given back. -/
def GivesBack (tree : TreeRef) (filter : Option NameFilter) (origin : Place Listing)
    (found : List Entry) (turns : List Turn) (given : Listing × Session) : Prop :=
  ∃ last, ReadsOut tree filter origin found turns last ∧
    Calls tree last [.finish, .release, .forget] given

/-- What comes of reading on to the next entry, when the cursor is closed where there is none. -/
inductive Steps (tree : TreeRef) (filter : Option NameFilter) (origin : Place Listing)
    (left : List Turn) : Cursor Listing × Session → Prop where
  /-- One wanted entry was found, with as few pages as there could be. -/
  | found {used after entry pages} (reading : used.Ahead tree) (chosen : used.filter = filter)
    (reads : Reads tree filter origin [entry] pages (used.place after))
    (taken : left = pages ++ used.turnsLeft tree after)
    (needed : Needed filter origin.unread pages) :
    Steps tree filter origin left (used, after)
  /-- No other entry is wanted. -/
  | ended {used after} (spent : used.Spent)
    (gives : GivesBack tree filter origin [] left (used.listing, after)) :
    Steps tree filter origin left (used, after)

variable {cursor : Cursor Listing} {session : Session}

/-- A pull at a cursor with an entry in hand reads on to the next one. -/
theorem Ahead.pull_steps (reading : cursor.Ahead tree) (session : Session) :
    Steps tree cursor.filter (cursor.place session) (cursor.turnsLeft tree session)
      (cursor.pull session).2 := by
  obtain ⟨entry, inHand, _⟩ := reading.inHand
  have exhausts := advance_reads { cursor with next := none } session reading.holds
  have same := sameReader_advance { cursor with next := none } session
  have pulled := reading.pulled inHand session
  generalize cursor.pull session = outcome at pulled ⊢
  -- Reading on finds an entry, or comes to the end, and closes the cursor there.
  cases pulled with
  | found advanced still =>
    rw [advanced] at exhausts same
    obtain ⟨pages, reads, taken, needed⟩ := exhausts
    exact .found still same.filter reads taken needed
  | ended advanced opened =>
    rw [advanced] at exhausts
    exact .ended (opened.close _) ⟨_, exhausts, opened.close_calls .none⟩
  | @failed fault ahead after advanced opened =>
    rw [advanced] at exhausts
    exact .ended ((opened.close _).withDeferred _) ⟨_, exhausts,
      opened.close_calls (Calls.none.noteEvent (.cursorAdvanceFailed ahead.label fault))⟩

/-- Once a listing is started, reading on takes the turns behind the first. -/
theorem exhausts_started {listing : Listing} {after : Session} (cursor : Cursor Listing)
    (holds : cursor.tree = some tree) (start : cursor.index = 0)
    (started : PagedListing.start cursor.listing tree (session.noteHook cursor.label .start) =
      (.ok true, listing, after)) :
    Exhausts tree cursor.filter (.fresh cursor.listing session)
      (turns tree cursor.filter cursor.listing session)
      ({ cursor with listing, state := .hasResult }.advance after) := by
  have exhausts := advance_reads { cursor with listing, state := .hasResult } after holds
  -- The first page comes of the start, and nothing of it was looked at yet.
  have first : Reads tree cursor.filter (.fresh cursor.listing session) []
      [.page (PagedListing.results listing) (PagedListing.isDone listing)]
      (place { cursor with listing, state := .hasResult } after) := by
    have page : unread { cursor with listing, state := .hasResult } = PagedListing.results listing := by
      simp only [unread, start, List.drop_zero]
    rw [place, page]
    exact (Reads.none.noteHook cursor.label .start).turn rfl rfl started
  have taken : turns tree cursor.filter cursor.listing session =
      [.page (PagedListing.results listing) (PagedListing.isDone listing)] ++
        turnsLeft tree { cursor with listing, state := .hasResult } after := by
    rw [label] at started
    simp only [turns, started, turnsLeft, unread, start, List.drop_zero, List.singleton_append]
  rw [taken]
  exact exhausts.behind first fun _ => ⟨rfl, rfl⟩

/-- A cursor that begins reads on to the first entry; one that cannot begin has taken every turn
there is. -/
theorem Begun.steps {outcome : Except Fault Unit × Cursor Listing × Session}
    (begun : Begun tree cursor session outcome) (holds : cursor.tree = some tree)
    (start : cursor.index = 0) :
    match outcome.1 with
    | .error _ => ReadsOut tree cursor.filter (.fresh cursor.listing session) []
      (turns tree cursor.filter cursor.listing session) (outcome.2.1.listing, outcome.2.2)
    | .ok () => Steps tree cursor.filter (.fresh cursor.listing session)
      (turns tree cursor.filter cursor.listing session) outcome.2 := by
  -- Without a first page the start is the only turn.
  have refused {result : Except Fault Bool} {listing : Listing} {after : Session}
      (started : PagedListing.start cursor.listing tree (session.noteHook cursor.label .start) =
        (result, listing, after)) (noPage : result ≠ .ok true) :
      ReadsOut tree cursor.filter (.fresh cursor.listing session) []
        (turns tree cursor.filter cursor.listing session) (listing, after) := by
    have here : Reads tree cursor.filter (.fresh cursor.listing session) [] []
      (.fresh cursor.listing session) := .none
    have asked := ReadsOut.last (here.noteHook cursor.label .start) rfl rfl started noPage
    rw [label] at started
    rcases result with fault | _ | _
    · simp only [turns, started]
      exact asked
    · simp only [turns, started]
      exact asked
    · exact absurd rfl noPage
  cases begun with
  | refused started opened => exact refused started (by simp)
  | @empty listing after started opened =>
    exact .ended (opened.close _) ⟨_, refused started (by simp),
      opened.close_calls (Calls.none.noteEvent (.cursorEmpty (PagedListing.label listing)))⟩
  | @found listing next ahead later after started advanced reading =>
    have exhausts := exhausts_started cursor holds start started
    have same := sameReader_advance { cursor with listing, state := .hasResult } later
    rw [advanced] at exhausts same
    obtain ⟨pages, reads, taken, needed⟩ := exhausts
    exact .found reading same.filter reads taken needed
  | ended started advanced opened =>
    have exhausts := exhausts_started cursor holds start started
    rw [advanced] at exhausts
    exact .ended (opened.close _) ⟨_, exhausts, opened.close_calls .none⟩
  | failed started advanced opened =>
    have exhausts := exhausts_started cursor holds start started
    rw [advanced] at exhausts
    exact exhausts

/-- A cursor that is opened has read on to the first entry. One that cannot begin has taken every turn
there is, and is closed at once. -/
theorem ofListing_steps (listing : Listing) {session held : Session}
    (acquired : session.acquire = (.ok tree, held)) (filter : Option NameFilter) :
    match ofListing listing filter session with
    | (.error _, after) => ∃ given,
      GivesBack tree filter (.fresh listing held) [] (turns tree filter listing held) (given, after)
    | (.ok cursor, opened) =>
      Steps tree filter (.fresh listing held) (turns tree filter listing held) (cursor, opened) := by
  have begun := begun_fresh listing tree filter held
  have steps := begun.steps rfl rfl
  simp only [ofListing, acquired]
  rcases began : begin { listing, tree := some tree, filter } tree held with
    ⟨fault | _, cursor, opened⟩ <;> rw [began] at begun steps
  · -- The failure is written down, and then everything is given back.
    have here : Calls tree (cursor.listing, opened) [] (cursor.listing, opened) := .none
    have closed := (begun.opened rfl).close_calls
      (here.noteEvent (.cursorOpenFailed cursor.label fault))
    exact ⟨_, _, steps, closed⟩
  · exact steps

end Cursor

end SmbBrowser
