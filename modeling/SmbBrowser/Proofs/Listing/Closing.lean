import SmbBrowser.Proofs.Cursor.Residence
import SmbBrowser.Proofs.Listing.Adoption

/-!
What the cursors over directories give back: a search that the server has begun is given back once,
at the end of the cursor, and an open directory by the release of its handle.
-/

namespace SmbBrowser

/-- A request that begins a search. -/
def Request.isFindFirst : Request → Bool
  | .findFirst _ => true
  | _ => false

namespace SearchListing

/-- The search that is begun by the answer to a first request: the one of a page that is accepted. -/
def begun? : Except Fault Response → Option SearchId
  | .ok (.find page) => if page.status.endsListing then none else some page.sid
  | _ => none

/-- Beginning a search asks for it once, and the listing has the search that the answer begins. -/
theorem start_asks (listing : SearchListing) (tree : TreeRef) (session : Session) :
    ∃ answer fresh, (listing.start tree session).2.2.passages.toList =
        session.passages.toList ++ fresh ∧
      session.AsksOnce tree listing.first .plain answer fresh ∧
      (listing.start tree session).2.1.sid = (begun? answer).or listing.sid := by
  obtain ⟨fresh, passed, asks⟩ := session.send_asksOnce tree listing.first .plain
  refine ⟨_, fresh, ?_, asks, ?_⟩
  · -- Whatever the answer, nothing passes behind it.
    unfold start
    split <;> rename_i answered <;> rw [answered] at passed
    · split <;> exact passed
    · exact passed
    · split <;> exact passed
  · unfold start
    split <;> rename_i answered <;> rw [answered]
    · rename_i page _
      by_cases ends : page.status.endsListing = true
      · simp [begun?, ends]
      · simp [begun?, ends]
    · rename_i response _ notPage
      cases response with
      | find page => exact absurd rfl (notPage page)
      | _ => rfl
    · split <;> rfl

/-- Going on asks for one further page of the search that was begun, or for nothing without one. -/
theorem fetchMore_asks (listing : SearchListing) (tree : TreeRef) (session : Session) :
    ∃ fresh, (listing.fetchMore tree session).2.2.passages.toList =
        session.passages.toList ++ fresh ∧
      (match listing.sid with
        | none => fresh = []
        | some sid => ∃ answer, session.AsksOnce tree (listing.next sid) .plain answer fresh) ∧
      (listing.fetchMore tree session).2.1.sid = listing.sid := by
  unfold fetchMore
  cases search : listing.sid with
  | none => exact ⟨[], by simp, rfl, search⟩
  | some sid =>
    obtain ⟨fresh, passed, asks⟩ := session.send_asksOnce tree (listing.next sid) .plain
    refine ⟨fresh, ?_, ⟨_, asks⟩, ?_⟩
    · simp only
      split <;> rename_i answered <;> rw [answered] at passed
      · split <;> exact passed
      · exact passed
      · exact passed
    · -- A further page belongs to the same search.
      simp only
      split
      · split <;> exact search
      · exact search
      · exact search

/-- A search that was begun is given back with one request, and no other. -/
theorem finish_asks (listing : SearchListing) (tree : TreeRef) (session : Session) :
    ∃ fresh, (listing.finish tree session).2.2.passages.toList =
        session.passages.toList ++ fresh ∧
      match listing.sid with
        | none => fresh = []
        | some sid => ∃ answer, session.AsksOnce tree (.findClose sid) .cleanup answer fresh := by
  unfold finish
  -- Without a search nothing is asked.
  cases search : listing.sid with
  | none => exact ⟨[], by simp, rfl⟩
  | some sid =>
    obtain ⟨fresh, passed, asks⟩ := session.send_asksOnce tree (.findClose sid) .cleanup
    refine ⟨fresh, ?_, _, asks⟩
    simp only
    split <;> rename_i answered <;> rw [answered] at passed <;> exact passed

/-- What is asked within a search, if there is one, is of one sort if the request of every search
is. -/
theorem onlyAsks_within {search : Option SearchId} {sort : Request → Prop} {tree : TreeRef}
    {session : Session} {ask : SearchId → Request} {delivery : Delivery} {fresh : List Passage}
    (asks : match search with
      | none => fresh = []
      | some sid => ∃ answer, session.AsksOnce tree (ask sid) delivery answer fresh)
    (sorted : ∀ sid, sort (ask sid)) : OnlyAsks sort fresh := by
  -- Without a search nothing is asked, and within one there is a single request.
  cases search with
  | none =>
    rw [show fresh = [] from asks]
    exact .nil
  | some sid =>
    obtain ⟨answer, asks⟩ := asks
    exact asks.onlyAsks (sorted sid)

end SearchListing

instance : HeldListing SearchListing where
  Held listing := listing.sid ≠ none
  Opens request := ∃ query, request = .findFirst query
  Continues request := ∃ query, request = .findNext query
  Gives request := (∃ sid, request = .findClose sid) ∨ request = .treeDisconnect
  gives_tree := .inr rfl
  start_passes listing tree session fresh := by
    obtain ⟨answer, opening, passed, asks, search⟩ := listing.start_asks tree session
    refine ⟨listing.first, answer, opening, [], ⟨_, rfl⟩, passed.trans (by rw [List.append_nil]),
      asks, .nil, fun held => ⟨rfl, ?_⟩⟩
    -- Only an answer that is a page begins a search.
    have same : (PagedListing.start listing tree session).2.1.sid =
        (SearchListing.begun? answer).or listing.sid := search
    rw [same, not_not.mp fresh, Option.or_none] at held
    cases answer with
    | ok response => exact ⟨response, rfl⟩
    | error fault => exact absurd rfl held
  fetchMore_passes listing tree session := by
    obtain ⟨fresh, passed, asks, same⟩ := listing.fetchMore_asks tree session
    refine ⟨fresh, passed, SearchListing.onlyAsks_within asks fun _ => ⟨_, rfl⟩, fun never => ?_,
      not_congr (by rw [← same]; rfl)⟩
    rw [not_not.mp never] at asks
    exact asks
  finish_passes listing tree session := by
    obtain ⟨fresh, passed, asks⟩ := listing.finish_asks tree session
    exact ⟨fresh, passed, SearchListing.onlyAsks_within asks fun sid => .inl ⟨sid, rfl⟩⟩

/-- A request that gives a directory or its tree back. -/
def DirectoryListing.GivesBack (request : Request) : Prop :=
  (∃ fid, request = .close fid) ∨ request = .treeDisconnect

namespace Session

/-- Adopting an open file asks the server for nothing. -/
theorem passages_adoptFile (session : Session) (tree : TreeRef) (fid : FileId) (path : String)
    (mode : OpenMode) :
    (session.adoptFile tree fid path mode).2.passages = session.passages := by
  -- Granted or refused, it is a matter of the tables.
  rcases adopted : session.adoptFile tree fid path mode with ⟨fault | file, after⟩
  · rw [adoptFile_refused adopted]
  · obtain ⟨_, _, log, rfl⟩ := adoptFile_ok adopted
    rfl

/-- Releasing a file asks to close it, and to take its tree back. -/
theorem releaseFile_gives (session : Session) (file : FileRef) :
    ∃ fresh, (session.releaseFile file).2.passages.toList = session.passages.toList ++ fresh ∧
      OnlyAsks DirectoryListing.GivesBack fresh := by
  cases found : session.file? file with
  | none =>
    have same : session.releaseFile file = (.ok (), session) := by simp [releaseFile, found]
    exact ⟨[], by rw [same, List.append_nil], .nil⟩
  | some handle =>
    -- Only the last release asks for anything.
    by_cases last : handle.refs = 1
    · obtain ⟨_, closing, answer, behind, passed, asks, gives⟩ :=
        session.releasesFiles.last file handle found last
      refine ⟨closing ++ behind, by rw [passed, List.append_assoc],
        (asks.onlyAsks (.inl ⟨_, rfl⟩)).append fun sent listed => .inr (gives sent listed)⟩
    · have same := session.releasesFiles.counts file handle found last
      exact ⟨[], by rw [same, List.append_nil], .nil⟩

end Session

namespace DirectoryListing

/-- Giving the open directory back asks for nothing else, and leaves none open. -/
theorem releaseDir_passes (listing : DirectoryListing) (session : Session) :
    ∃ fresh, (listing.releaseDir session).2.2.passages.toList =
        session.passages.toList ++ fresh ∧
      OnlyAsks GivesBack fresh ∧ (listing.releaseDir session).2.1.dir = none := by
  unfold releaseDir
  -- Forgetting the file asks for nothing besides the release.
  cases isDir : listing.dir with
  | none => exact ⟨[], by simp, .nil, isDir⟩
  | some dir =>
    obtain ⟨fresh, passed, gives⟩ := session.releaseFile_gives dir
    exact ⟨fresh, by rw [← passed, Session.passages_forgetFile], gives, rfl⟩

/-- The first page comes with the opening; reading it asks nothing. -/
theorem passages_firstPage (listing : DirectoryListing) (reply : Option (ChainedReply Response))
    (session : Session) :
    (listing.firstPage reply session).2.2.passages = session.passages := by
  -- At most the log is written to.
  obtain ⟨_, _, log, noted⟩ := listing.firstPage_eq listing reply session session
  rw [noted]

/-- A directory that was just opened is kept with its first page, or given back. -/
theorem firstOrRelease_passes (listing : DirectoryListing)
    (reply : Option (ChainedReply Response)) (session : Session) :
    ∃ fresh, (listing.firstOrRelease reply session).2.2.passages.toList =
        session.passages.toList ++ fresh ∧
      OnlyAsks GivesBack fresh ∧
      ((listing.firstOrRelease reply session).2.1.dir ≠ none → fresh = []) := by
  have samePassages := listing.passages_firstPage reply session
  unfold firstOrRelease
  split <;> rename_i outcome <;> rw [outcome] at samePassages
  · exact ⟨[], by rw [samePassages, List.append_nil], .nil, fun _ => rfl⟩
  · rename_i fault first later
    obtain ⟨fresh, passed, gives, gone⟩ := first.releaseDir_passes later
    rw [samePassages] at passed
    -- Whether or not that fails, the directory is gone.
    split <;> rename_i released <;> rw [released] at passed gone
    · exact ⟨fresh, passed, gives, fun held => absurd gone held⟩
    · exact ⟨fresh, passed, gives, fun held => absurd gone held⟩

/-- Holding a directory asks the server for nothing. -/
theorem passages_hold (listing : DirectoryListing) (dir : FileRef) (session : Session) :
    (listing.hold dir session).2.passages = session.passages := by
  unfold hold
  -- The directory that was held before is forgotten.
  cases listing.dir with
  | none => rfl
  | some old => exact session.passages_forgetFile old

/-- What has passed behind the answer to the opening: whatever was opened is held, or what gives it
back was sent. -/
def Opened (before : Session) (opening : List Passage) (answer : Except Fault Response)
    (outcome : Except Fault Bool × DirectoryListing × Session) : Prop :=
  ∃ closing, outcome.2.2.passages.toList = before.passages.toList ++ (opening ++ closing) ∧
    OnlyAsks GivesBack closing ∧
    (outcome.2.1.dir ≠ none → closing = [] ∧ ∃ response, answer = .ok response)

/-- Opening a directory asks for one chain, and for what gives back what it opened and could not
read. -/
theorem start_passes (listing : DirectoryListing) (tree : TreeRef) (session : Session)
    (fresh : listing.dir = none) :
    ∃ requests answer opening, session.AsksOnce tree (.chain requests) .plain answer opening ∧
      Opened session opening answer (listing.start tree session) := by
  obtain ⟨opening, passed, asks⟩ := session.send_asksOnce tree
    (.chain [.create (OpenMode.directory.toCreate listing.path), listing.query session 0 0]) .plain
  refine ⟨_, _, opening, asks, ?_⟩
  -- Unless a directory was opened, nothing passes behind the answer and nothing is held.
  have unopened (answer : Except Fault Response) (result : Except Fault Bool) (later : Session)
      (same : later.passages.toList = session.passages.toList ++ opening) :
      Opened session opening answer (result, listing, later) :=
    ⟨[], by rw [List.append_nil]; exact same, .nil, fun held => absurd fresh held⟩
  unfold start
  simp only
  split <;> rename_i answered <;> rw [answered] at passed ⊢
  · exact unopened _ _ _ passed
  · exact unopened _ _ _ passed
  · rename_i opened rest later
    split
    · exact unopened _ _ _ passed
    · split
      · rename_i file _
        have sameAdopted := later.passages_adoptFile tree file.fid listing.path .directory
        split <;> rename_i adopted <;> rw [adopted] at sameAdopted
        · exact unopened _ _ _ (by rw [sameAdopted]; exact passed)
        · rename_i dir behind
          -- The directory is given back at once if its first page cannot be read.
          have sameHeld := listing.passages_hold dir behind
          generalize listing.hold dir behind = held at sameHeld ⊢
          obtain ⟨closing, further, gives, none⟩ :=
            firstOrRelease_passes held.1 rest.head? held.2
          refine ⟨closing, ?_, gives, fun holds => ⟨none holds, _, rfl⟩⟩
          rw [further, sameHeld, sameAdopted, passed, List.append_assoc]
      · exact unopened _ _ _ passed
  · exact unopened _ _ _ passed

/-- Going on asks for one page of the open directory at most, and keeps it open. -/
theorem fetchMore_passes (listing : DirectoryListing) (tree : TreeRef) (session : Session) :
    ∃ fresh, (listing.fetchMore tree session).2.2.passages.toList =
        session.passages.toList ++ fresh ∧
      OnlyAsks (fun request => ∃ query, request = .queryDirectory query) fresh ∧
      (listing.dir = none → fresh = []) ∧
      (listing.fetchMore tree session).2.1.dir = listing.dir := by
  unfold fetchMore
  split
  · rename_i dir last isDir _
    obtain ⟨fresh, passed, asks⟩ := session.send_asksOnce tree
      (listing.query session last.fileIndex QueryFlags.indexSpecified) .plain
    refine ⟨fresh, ?_, asks.onlyAsks ⟨_, rfl⟩, fun none => ?_, ?_⟩
    · simp only
      split <;> rename_i answered <;> rw [answered] at passed
      · split <;> exact passed
      · exact passed
      · exact passed
    · rw [isDir] at none
      exact absurd none (by simp)
    · -- A further page is one of the same directory.
      simp only
      split
      · split <;> rfl
      · rfl
      · rfl
  · exact ⟨[], by simp, .nil, fun _ => rfl, rfl⟩

end DirectoryListing

instance : HeldListing DirectoryListing where
  Held listing := listing.dir ≠ none
  Opens request := ∃ requests, request = .chain requests
  Continues request := ∃ query, request = .queryDirectory query
  Gives := DirectoryListing.GivesBack
  gives_tree := .inr rfl
  start_passes listing tree session fresh := by
    obtain ⟨requests, answer, opening, asks, closing, passed, gives, held⟩ :=
      listing.start_passes tree session (not_not.mp fresh)
    exact ⟨_, answer, opening, closing, ⟨requests, rfl⟩, passed, asks, gives, held⟩
  fetchMore_passes listing tree session := by
    obtain ⟨fresh, passed, continues, nothing, same⟩ := listing.fetchMore_passes tree session
    exact ⟨fresh, passed, continues, fun never => nothing (not_not.mp never),
      not_congr (by rw [← same]; rfl)⟩
  finish_passes listing _ session := by
    obtain ⟨fresh, passed, gives, _⟩ := listing.releaseDir_passes session
    exact ⟨fresh, passed, gives⟩

/-- The search that was begun in a passage. -/
def Passage.begun? : Passage → Option SearchId
  | .asked sent answer =>
    if sent.request.isFindFirst then SearchListing.begun? answer else none
  | .lost => none

/-- Whatever else is asked begins no search. -/
theorem OnlyAsks.begun_none {passages : List Passage}
    (others : OnlyAsks (·.isFindFirst = false) passages) :
    passages.findSome? Passage.begun? = none := by
  rw [List.findSome?_eq_none_iff]
  intro passage listed
  -- A loss begins nothing, and a request does if it is the first of a search.
  cases passage with
  | lost => rfl
  | asked sent answer =>
    have isSent : sent ∈ requestsOf passages :=
      List.mem_filterMap.mpr ⟨.asked sent answer, listed, rfl⟩
    simp [Passage.begun?, others sent isSent]

/-- A first request that is sent begins what its answer tells. -/
theorem Session.AsksOnce.begun {session : Session} {tree : TreeRef} {query : FindFirst}
    {delivery : Delivery} {answer : Except Fault Response} {fresh : List Passage}
    (asks : session.AsksOnce tree (.findFirst query) delivery answer fresh) :
    fresh.findSome? Passage.begun? = SearchListing.begun? answer := by
  -- Where nothing is sent there is no answer that would begin a search.
  rcases asks with ⟨_, owner, scratch, _, rfl⟩ | ⟨_, rfl, fault, rfl⟩
  · unfold exchanged
    split <;> cases begun : SearchListing.begun? answer <;>
      simp [Passage.begun?, Request.isFindFirst, begun]
  · rfl

namespace SearchListing

open Cursor

/-- What a deed asks, if this passes in it, in the life of a cursor in which this search was begun,
if any was. -/
def Asks (tree : TreeRef) (begun : Option SearchId) (deed : Deed SearchListing)
    (passed : List Passage) : Prop :=
  match deed.call, begun with
  | .start, _ => ∃ answer, deed.session.AsksOnce tree deed.listing.first .plain answer passed
  | .fetchMore, some sid =>
    ∃ answer, deed.session.AsksOnce tree (deed.listing.next sid) .plain answer passed
  | .finish, some sid =>
    ∃ answer, deed.session.AsksOnce tree (.findClose sid) .cleanup answer passed
  | .fetchMore, none | .finish, none => passed = []
  | .release, _ | .forget, _ => OnlyAsks (· = .treeDisconnect) passed

variable {tree : TreeRef} {listing last : SearchListing} {session : Session}
  {begun : Option SearchId}

/-- A further page is asked for in the search that was begun, if the listing still has it. -/
theorem asks_fetchMore (held : listing.sid = begun) :
    Asks tree begun ⟨.fetchMore, listing, session⟩
      (Deed.passed tree ⟨.fetchMore, listing, session⟩) := by
  obtain ⟨fresh, passed, asks, _⟩ := listing.fetchMore_asks tree session
  have same : Deed.passed tree ⟨.fetchMore, listing, session⟩ = fresh := Session.since_eq passed
  rw [held] at asks
  -- Without a search nothing is asked.
  cases begun with
  | none => exact same.trans asks
  | some sid =>
    obtain ⟨answer, asks⟩ := asks
    exact ⟨answer, by rw [same]; exact asks⟩

/-- At the end it is given back. -/
theorem asks_finish (held : listing.sid = begun) :
    Asks tree begun ⟨.finish, listing, session⟩
      (Deed.passed tree ⟨.finish, listing, session⟩) := by
  obtain ⟨fresh, passed, asks⟩ := listing.finish_asks tree session
  have same : Deed.passed tree ⟨.finish, listing, session⟩ = fresh := Session.since_eq passed
  rw [held] at asks
  -- What is given back is the search of the listing, if it has one.
  cases begun with
  | none => exact same.trans asks
  | some sid =>
    obtain ⟨answer, asks⟩ := asks
    exact ⟨answer, by rw [same]; exact asks⟩

/-- Behind the end nothing is asked but to take the tree back. -/
theorem asks_behind {deed : Deed SearchListing}
    (behind : deed.call = .release ∨ deed.call = .forget) :
    Asks tree begun deed (deed.passed tree) := by
  have only := deed.passed_behind tree behind
  obtain ⟨call, listing, session⟩ := deed
  -- Neither call reaches the listing.
  rcases behind with rfl | rfl <;> exact only

/-- Behind the start no deed begins a search. -/
theorem Asks.begun_none {deed : Deed SearchListing} (asks : Asks tree begun deed (deed.passed tree))
    (behind : deed.call ≠ .start) : (deed.passed tree).findSome? Passage.begun? = none := by
  suffices others : OnlyAsks (·.isFindFirst = false) (deed.passed tree) from others.begun_none
  obtain ⟨call, listing, session⟩ := deed
  have nothing (none : Deed.passed tree ⟨call, listing, session⟩ = []) :
      OnlyAsks (·.isFindFirst = false) (Deed.passed tree ⟨call, listing, session⟩) := by
    rw [none]
    exact .nil
  -- What each call asks is known, and only that of the start is a first request.
  cases call with
  | start => exact absurd rfl behind
  | fetchMore =>
    cases begun with
    | none => exact nothing asks
    | some sid =>
      obtain ⟨answer, asks⟩ := asks
      exact asks.onlyAsks rfl
  | finish =>
    cases begun with
    | none => exact nothing asks
    | some sid =>
      obtain ⟨answer, asks⟩ := asks
      exact asks.onlyAsks rfl
  | release | forget =>
    intro sent listed
    rw [asks sent listed]
    rfl

/-- Every further page is asked for within one search, which is still there behind the last. -/
theorem asks_fetches {fetches : List (Deed SearchListing)}
    (chained : Deeds tree listing fetches last)
    (fetching : ∀ deed ∈ fetches, deed.call = .fetchMore) (held : listing.sid = begun) :
    (∀ deed ∈ fetches, Asks tree begun deed (deed.passed tree)) ∧ last.sid = begun := by
  -- A further page leaves the search that there is.
  have keeps (deed : Deed SearchListing) (listed : deed ∈ fetches)
      (same : deed.listing.sid = begun) : (deed.outcome tree).1.sid = begun := by
    obtain ⟨call, listing, session⟩ := deed
    obtain rfl : call = .fetchMore := fetching _ listed
    obtain ⟨_, _, _, kept⟩ := listing.fetchMore_asks tree session
    exact kept.trans same
  obtain ⟨found, still⟩ := chained.keeps (·.sid = begun) keeps held
  refine ⟨fun deed listed => ?_, still⟩
  have same := found deed listed
  obtain ⟨call, listing, session⟩ := deed
  obtain rfl : call = .fetchMore := fetching _ listed
  exact asks_fetchMore same

/-- At the end the search is given back first, and then the tree. -/
theorem asks_ends {isClosed : Bool} {ends : List (Deed SearchListing)}
    (chained : Deeds tree listing ends last)
    (ending : ends.map (·.call) = if isClosed then [.finish, .release, .forget] else [])
    (held : listing.sid = begun) :
    ∀ deed ∈ ends, Asks tree begun deed (deed.passed tree) ∧ deed.call ≠ .start := by
  intro deed listed
  -- The listing is finished first, in the search that is still there.
  rcases chained.ends ending deed listed with ⟨isFinish, found⟩ | isBehind
  · obtain ⟨call, there, session⟩ := deed
    simp only at isFinish found
    subst isFinish found
    exact ⟨asks_finish held, by simp⟩
  · exact ⟨asks_behind isBehind, by rcases isBehind with same | same <;> simp [same]⟩

/-- In the life of a cursor every deed asks what it should for the search that was begun. -/
theorem asks_of_life {isClosed : Bool} {passed : List Passage} {done : List (Deed SearchListing)}
    (life : Life tree listing isClosed passed done last) (fresh : listing.sid = none) :
    ∀ deed ∈ done, Asks tree (passed.findSome? Passage.begun?) deed (deed.passed tree) := by
  obtain ⟨session, fetches, ends, middle, rfl, chained, behind, fetching, ending⟩ := life.split
  obtain ⟨answer, opening, started, asks, search⟩ := listing.start_asks tree session
  have start : Deed.passed tree ⟨.start, listing, session⟩ = opening := Session.since_eq started
  rw [fresh, Option.or_none] at search
  -- The search stays the one that the start has begun, and nothing later begins another.
  obtain ⟨fetched, still⟩ := asks_fetches chained fetching search
  have ended := asks_ends behind ending still
  have later : ((fetches ++ ends).flatMap (Deed.passed tree)).findSome? Passage.begun? = none := by
    rw [List.findSome?_eq_none_iff]
    intro passage listed
    obtain ⟨deed, isDeed, listed⟩ := List.mem_flatMap.mp listed
    refine List.findSome?_eq_none_iff.mp ?_ passage listed
    rcases List.mem_append.mp isDeed with early | late
    · exact (fetched deed early).begun_none (by simp [fetching deed early])
    · exact (ended deed late).1.begun_none (ended deed late).2
  have whole : passed.findSome? Passage.begun? = begun? answer := by
    rw [← life.passed, List.cons_append, List.flatMap_cons, start, List.findSome?_append, later,
      Option.or_none]
    exact asks.begun
  rw [whole]
  intro deed listed
  rcases List.mem_append.mp listed with early | late
  · rcases List.mem_cons.mp early with rfl | further
    · exact ⟨answer, by rw [start]; exact asks⟩
    · exact fetched deed further
  · exact (ended deed late).1

end SearchListing

namespace Cursor

section Wrap

variable {Kind : Type} [PagedListing Kind] {tree : TreeRef} {sort : Kind → Listing}

/-- A deed over a listing of one sort, as one over a listing of any sort. -/
def Deed.wrap (sort : Kind → Listing) (deed : Deed Kind) : Deed Listing :=
  ⟨deed.call, sort deed.listing, deed.session⟩

/-- A listing of any sort is called as the listing of one sort that it is. -/
def Lifts (tree : TreeRef) (sort : Kind → Listing) : Prop :=
  ∀ (call : Call) (listing : Kind) (session : Session),
    call.make tree (sort listing, session) =
      (sort (call.make tree (listing, session)).1, (call.make tree (listing, session)).2)

/-- The same passes in a deed, whether its listing is seen as one of its sort or of any sort. -/
theorem Deed.passed_wrap (lifts : Lifts tree sort) (deed : Deed Kind) :
    (deed.wrap sort).passed tree = deed.passed tree := by
  -- The session comes to the same.
  obtain ⟨call, listing, session⟩ := deed
  exact congrArg (fun outcome => session.since outcome.2) (lifts call listing session)

/-- The same files are adopted in it, too. -/
theorem Deed.adopted_wrap (lifts : Lifts tree sort) (deed : Deed Kind) :
    (deed.wrap sort).adopted tree = deed.adopted tree := by
  -- What is adopted is seen in the session alone.
  obtain ⟨call, listing, session⟩ := deed
  exact congrArg (fun outcome => outcome.2.held? ⟨session.files.size⟩) (lifts call listing session)

/-- The deeds of a listing of any sort are those of its sort, in the same sessions. -/
theorem Deeds.unwrap (lifts : Lifts tree sort) {whole last : Listing} {done : List (Deed Listing)}
    (deeds : Deeds tree whole done last) {listing : Kind} (isWhole : whole = sort listing) :
    ∃ plain rest, Deeds tree listing plain rest ∧ done = plain.map (Deed.wrap sort) ∧
      last = sort rest := by
  -- One deed after the other finds the listing that the one before has left.
  induction deeds generalizing listing with
  | none => exact ⟨[], listing, .none, rfl, isWhole⟩
  | @first call _ session done last _ ih =>
    subst isWhole
    obtain ⟨plain, rest, chained, rfl, isLast⟩ := ih (congrArg Prod.fst (lifts call listing session))
    exact ⟨⟨call, listing, session⟩ :: plain, rest, .first chained, rfl, isLast⟩

/-- The life of a cursor over a listing of any sort is one over a listing of its sort. -/
theorem Life.unwrap (lifts : Lifts tree sort) {listing : Kind} {last : Listing} {isClosed : Bool}
    {passed : List Passage} {done : List (Deed Listing)}
    (life : Life tree (sort listing) isClosed passed done last) :
    ∃ plain rest, Life tree listing isClosed passed plain rest ∧
      done = plain.map (Deed.wrap sort) ∧ last = sort rest := by
  obtain ⟨plain, rest, chained, rfl, isLast⟩ := life.chained.unwrap lifts rfl
  obtain ⟨pages, calls⟩ := life.calls
  refine ⟨plain, rest, ⟨chained, ⟨pages, ?_⟩, ?_⟩, rfl, isLast⟩
  · rw [← calls, List.map_map]
    rfl
  · -- The same has passed in each of the deeds.
    rw [← life.passed, List.flatMap_map]
    exact congrArg (plain.flatMap ·) (funext fun deed => (deed.passed_wrap lifts).symm)

end Wrap

/-- Searches are called as searches. -/
theorem lifts_search (tree : TreeRef) : Lifts tree Listing.search := by
  intro call listing session
  -- A call of the sum is the call of its summand, by definition.
  cases call <;> rfl

/-- Open directories are called as open directories. -/
theorem lifts_directory (tree : TreeRef) : Lifts tree Listing.directory := by
  intro call listing session
  -- As for searches, by definition.
  cases call <;> rfl

end Cursor

open Cursor

/-- The search that was begun in some deeds, if one was. -/
def Listing.begunIn (tree : TreeRef) (deeds : List (Deed Listing)) : Option SearchId :=
  (deeds.flatMap (Deed.passed tree)).findSome? Passage.begun?

/-- The file that was adopted in some deeds and not given back in the same one, if there is one. -/
def Listing.adoptedIn (tree : TreeRef) (deeds : List (Deed Listing)) : Option FileRef :=
  deeds.findSome? (Deed.adopted tree)

/-- What a cursor over a search asks in its life: each deed what it should for the search that was
begun, in which the opening comes first and what gives back comes last. -/
structure SearchListing.Tidies (tree : TreeRef) (deeds : List (Deed Listing)) : Prop where
  /-- Each deed asks what it should, in the session in which it is done. -/
  asks : ∀ deed ∈ deeds, ∃ plain : Deed SearchListing, deed = plain.wrap .search ∧
    Asks tree (Listing.begunIn tree deeds) plain (deed.passed tree)
  /-- The opening comes first, and what gives back comes last. -/
  successive : Successive (fun request => ∃ query, request = .findFirst query)
    (fun request => ∃ query, request = .findNext query)
    (fun request => (∃ sid, request = .findClose sid) ∨ request = .treeDisconnect)
    (deeds.flatMap (Deed.passed tree))

/-- What a cursor over an open directory asks in its life. -/
structure DirectoryListing.Tidies (tree : TreeRef) (isClosed : Bool) (deeds : List (Deed Listing))
    (last : Listing) : Prop where
  /-- At the end the directory is released that the opening has left open, and nothing else. -/
  releases : ∀ deed ∈ deeds, deed.call = .finish →
    deed.passed tree = (Listing.adoptedIn tree deeds).elim [] fun dir =>
      deed.session.since (deed.session.releaseFile dir).2
  /-- Closed, it has no directory any more. -/
  released : isClosed = true → ∃ listing : DirectoryListing, last = .directory listing ∧
    listing.dir = none
  /-- The opening comes first, and what gives back comes last. -/
  successive : Successive (fun request => ∃ requests, request = .chain requests)
    (fun request => ∃ query, request = .queryDirectory query) GivesBack
    (deeds.flatMap (Deed.passed tree))

/-- What a cursor does in its life, and asks by that. For the other sorts of listings the server
begins nothing that could be given back. -/
structure Listing.Tidies (listing : Listing) (tree : TreeRef) (isClosed : Bool)
    (deeds : List (Deed Listing)) (last : Listing) : Prop where
  /-- The listing is started once, and closed it is ended once. -/
  calls : ∃ pages, deeds.map (·.call) = lifetime pages isClosed
  /-- What the server has begun for it is given back. -/
  gives : match listing with
    | .search _ => SearchListing.Tidies tree deeds
    | .directory _ => DirectoryListing.Tidies tree isClosed deeds last
    | .network _ | .host _ | .rehearsed _ => True

namespace Cursor

variable {tree : TreeRef} {listing last : Listing} {isClosed : Bool} {passed : List Passage}
  {deeds : List (Deed Listing)}

/-- A cursor over a search asks what it should in its life. -/
theorem Life.search_tidies {search : SearchListing} (fresh : search.sid = none)
    (life : Life tree (.search search) isClosed passed deeds last) :
    SearchListing.Tidies tree deeds := by
  have whole := life.passed
  obtain ⟨plain, rest, plainLife, rfl, _⟩ := life.unwrap (lifts_search tree)
  have asks := SearchListing.asks_of_life plainLife fresh
  refine ⟨fun deed listed => ?_, ?_⟩
  · -- Each deed is one of the search, in the same session.
    obtain ⟨same, isPlain, rfl⟩ := List.mem_map.mp listed
    refine ⟨same, rfl, ?_⟩
    rw [Listing.begunIn, whole, same.passed_wrap (lifts_search tree)]
    exact asks same isPlain
  · rw [whole]
    exact plainLife.successive (not_not.mpr fresh)

/-- A cursor over an open directory asks what it should in its life. -/
theorem Life.directory_tidies {directory : DirectoryListing} (fresh : directory.dir = none)
    (life : Life tree (.directory directory) isClosed passed deeds last) :
    DirectoryListing.Tidies tree isClosed deeds last := by
  have whole := life.passed
  obtain ⟨plain, rest, plainLife, rfl, rfl⟩ := life.unwrap (lifts_directory tree)
  refine ⟨fun deed listed isFinish => ?_, fun closed => ⟨rest, rfl, ?_⟩, ?_⟩
  · -- What is adopted by a deed of the directory is adopted by the same deed of the listing.
    have adopted : Listing.adoptedIn tree (plain.map (Deed.wrap .directory)) =
        plain.findSome? (Deed.adopted tree) := by
      rw [Listing.adoptedIn, List.findSome?_map]
      exact congrArg (plain.findSome? ·) (funext fun deed => deed.adopted_wrap (lifts_directory tree))
    obtain ⟨⟨call, held, session⟩, isPlain, rfl⟩ := List.mem_map.mp listed
    obtain rfl : call = .finish := isFinish
    rw [adopted, ← plainLife.dir_of_finish fresh _ isPlain rfl,
      Deed.passed_wrap (lifts_directory tree)]
    exact Deed.passed_finish held session
  · -- The last thing that becomes of the listing is that its directory is released.
    rw [closed] at plainLife
    obtain ⟨before, session, rfl⟩ := plainLife.last_closed
    obtain ⟨_, _, _, gone⟩ := before.releaseDir_passes session
    exact gone
  · rw [whole]
    exact plainLife.successive (not_not.mpr fresh)

/-- A cursor over a listing for which the server had begun nothing asks what it should. -/
theorem Life.tidies (life : Life tree listing isClosed passed deeds last)
    (unbegun : listing.Unbegun) : listing.Tidies tree isClosed deeds last := by
  refine ⟨life.calls, ?_⟩
  -- Only searches and open directories have something to give back.
  cases listing with
  | search search => exact life.search_tidies unbegun
  | directory directory => exact life.directory_tidies unbegun
  | _ => trivial

/-- So does a cursor that lives in a session among others who use it. -/
theorem Resides.tidies {origin session : Session} {cursor : Cursor Listing}
    (resides : Resides origin listing tree cursor session deeds) (unbegun : listing.Unbegun)
    (calls : ∃ pages, deeds.map (·.call) = lifetime pages cursor.isClosed) :
    listing.Tidies tree cursor.isClosed deeds cursor.listing :=
  -- Whatever others do in between, the deeds are chained as in a life of its own.
  Life.tidies ⟨resides.chained, calls, rfl⟩ unbegun

/-- And so does one that cannot be opened, before that is answered. -/
theorem tidies_refused {filter : Option NameFilter} {session held after : Session} {fault : Fault}
    (unbegun : listing.Unbegun) (acquired : session.acquire = (.ok tree, held))
    (failed : ofListing listing filter session = (.error fault, after)) :
    ∃ deeds given, Acts tree (listing, held) deeds (given, after) ∧
      listing.Tidies tree true deeds given := by
  -- It has lived to its end, although nobody has seen it.
  obtain ⟨pages, given, made⟩ := calls_refused acquired failed
  obtain ⟨deeds, done, calls⟩ := made.acts
  exact ⟨deeds, given, done, Life.tidies ⟨done.deeds, ⟨pages, calls⟩, rfl⟩ unbegun⟩

end Cursor

end SmbBrowser
