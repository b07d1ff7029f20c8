import SmbBrowser.Proofs.Listing.Complete

/-! Listing a directory by search, whatever pages the server cuts it into. -/

namespace SmbBrowser

/-- A success is no status that ends a listing. -/
theorem NtStatus.endsListing_of_isSuccess {status : NtStatus} (success : status.isSuccess = true) :
    status.endsListing = false := by
  -- Both statuses that end a listing are none of success.
  simp only [endsListing, Bool.or_eq_false_iff, decide_eq_false_iff_not]
  constructor <;> rintro rfl <;> exact absurd success (by decide)

/-- That there are no more files is no success. -/
theorem NtStatus.ne_noMoreFiles_of_isSuccess {status : NtStatus}
    (success : status.isSuccess = true) : status ≠ noMoreFiles := by
  -- It is a warning.
  rintro rfl
  exact absurd success (by decide)

namespace SearchListing

/-- The answers to a continuing request that say only that there are no more pages. -/
inductive Ends : Outcome → Prop where
  /-- The request fails for the lack of further files. -/
  | refused : Ends (.status .noMoreFiles)
  /-- A page says that there are no further files. -/
  | told {page : FindPage} (status : page.status = .noMoreFiles) : Ends (.ok (.find page))
  /-- A page without entries comes. -/
  | empty {page : FindPage} (status : page.status.isSuccess = true) (noEntry : page.entries = []) :
    Ends (.ok (.find page))

/-- The pages behind a page of a search, and the answers that bring them and end the search. -/
inductive Recorded : FindPage → List FindPage → List Exchange → Prop where
  /-- The page is flagged as the last one, and nothing more is asked. -/
  | flagged {page : FindPage} (closed : page.endOfSearch = true) : Recorded page [] []
  /-- The page is the last one, but only a further answer says so. -/
  | ended {page : FindPage} {answer : Outcome} (more : page.endOfSearch = false)
    (ends : Ends answer) : Recorded page [] [⟨"find_next2", answer⟩]
  /-- A further page comes. -/
  | page {page next : FindPage} {pages : List FindPage} {script : List Exchange}
    (more : page.endOfSearch = false) (status : next.status.isSuccess = true)
    (filled : next.entries ≠ []) (behind : Recorded next pages script) :
    Recorded page (next :: pages) (⟨"find_next2", .ok (.find next)⟩ :: script)

variable {listing : SearchListing} {session : Session} {sid : SearchId} {closing : Response}
  {asked : List (Option TreeId × Request × Delivery)}

/-- A search that was begun and has come to its end is given back. -/
theorem completes_ended (begun : listing.sid = some sid)
    (stands : Stands session { asked, script := [⟨"find_close2", .ok closing⟩] }) :
    Cursor.Reading.Completes
      { failure := none, listing := Listing.search listing, session, pages := [] } []
      (asked ++ [(some ⟨1⟩, .findClose sid, .cleanup)]) := by
  obtain ⟨after, sent, still⟩ := (stands.noteHook "legacy" .finish).send Nat.one_pos
    (.findClose sid) .cleanup rfl (by simp [Playback.result])
  refine ⟨rfl, rfl, .search { listing with sid := none }, after, #[], ?_, still⟩
  -- The search is given back by its number, and none is left behind.
  have finished : SearchListing.finish listing ⟨0⟩ (session.noteHook "legacy" .finish) =
      (.ok (), { listing with sid := none }, after) := by
    simp only [finish, begun, sent, Playback.result]
  exact congrArg (Listing.lift Listing.search) finished

/-- Behind a page that ends the search unflagged, one answer is asked for that ends the listing. -/
theorem fetchMore_ends {answer : Outcome} {rest : List Exchange} (begun : listing.sid = some sid)
    (ends : Ends answer)
    (stands : Stands session { asked, script := ⟨"find_next2", answer⟩ :: rest }) :
    ∃ later after, listing.fetchMore ⟨0⟩ session = (.ok false, later, after) ∧
      later.sid = some sid ∧
      Stands after
        { asked := asked ++ [(some ⟨1⟩, listing.next sid, .plain)], script := rest } := by
  -- None of the three answers loses the connection.
  have keeps : ∀ fault, Playback.result answer = .error fault → fault.losesConnection = false := by
    cases ends with
    | refused => rintro fault ⟨⟩; decide
    | told | empty => simp [Playback.result]
  obtain ⟨after, sent, still⟩ := stands.send Nat.one_pos (listing.next sid) .plain rfl keeps
  simp only [fetchMore, begun, sent]
  -- The status is looked for in the failure, then on the page, and an empty page ends as well.
  cases ends with
  | refused => exact ⟨listing, after, rfl, begun, still⟩
  | told status =>
    simp only [Playback.result, status, if_true]
    exact ⟨listing, after, rfl, begun, still⟩
  | @empty page success noEntry =>
    simp only [Playback.result, if_neg (NtStatus.ne_noMoreFiles_of_isSuccess success), noEntry]
    exact ⟨listing.accept page, after, rfl, begun, still⟩

/-- A further page is asked for with the marks of the page before it. -/
theorem fetchMore_page {next : FindPage} {rest : List Exchange} (begun : listing.sid = some sid)
    (success : next.status.isSuccess = true) (filled : next.entries ≠ [])
    (stands : Stands session { asked, script := ⟨"find_next2", .ok (.find next)⟩ :: rest }) :
    ∃ after, listing.fetchMore ⟨0⟩ session = (.ok true, listing.accept next, after) ∧
      Stands after
        { asked := asked ++ [(some ⟨1⟩, listing.next sid, .plain)], script := rest } := by
  obtain ⟨after, sent, still⟩ := stands.send Nat.one_pos (listing.next sid) .plain rfl
    (by simp [Playback.result])
  refine ⟨after, ?_, still⟩
  -- A page that succeeds is not marked as the end, and it has entries.
  have going := NtStatus.ne_noMoreFiles_of_isSuccess success
  have found : next.entries.isEmpty = false := by simpa using filled
  simp only [fetchMore, begun, sent, Playback.result, if_neg going, found, Bool.not_false]

/-- Behind a page of a search come the recorded pages, each asked for with the marks of the page
before it, and the search is given back at the end. -/
theorem completes_behind (filter : Option NameFilter) {page : FindPage} {pages : List FindPage}
    {script : List Exchange} (begun : listing.sid = some sid) (recorded : Recorded page pages script)
    (stands : Stands session { asked, script := script ++ [⟨"find_close2", .ok closing⟩] }) :
    (Cursor.readOutBehind ⟨0⟩ filter (Listing.search (listing.accept page)) session).Completes
      (pages.flatMap (·.entries))
      (asked ++ ((page :: pages).filter (!·.endOfSearch)).map
          (fun page => (some ⟨1⟩, (listing.accept page).next sid, .plain)) ++
        [(some ⟨1⟩, .findClose sid, .cleanup)]) := by
  have kept (page : FindPage) : (listing.accept page).sid = some sid := begun
  -- The induction is on what was recorded behind the page.
  induction recorded generalizing asked session with
  | @flagged page closed =>
    have done : PagedListing.isDone (Listing.search (listing.accept page)) = true := closed
    have unasked : [page].filter (!·.endOfSearch) = [] := by simp [closed]
    rw [Cursor.readOutBehind, if_pos done, unasked, List.map_nil, List.append_nil]
    exact completes_ended (kept page) (stands.noteHook _ _)
  | @ended page answer more ends =>
    have going : PagedListing.isDone (Listing.search (listing.accept page)) = false := more
    have once : [page].filter (!·.endOfSearch) = [page] := by simp [more]
    obtain ⟨left, after, fetched, stays, still⟩ := fetchMore_ends (kept page) ends
      ((stands.noteHook "legacy" .isDone).noteHook "legacy" .fetchMore)
    rw [Cursor.readOutBehind_ended going (congrArg (Listing.lift Listing.search) fetched), once]
    exact completes_ended stays still
  | @page page next pages script more success filled behind ih =>
    have going : PagedListing.isDone (Listing.search (listing.accept page)) = false := more
    have first : (page :: next :: pages).filter (!·.endOfSearch) =
        page :: (next :: pages).filter (!·.endOfSearch) := List.filter_cons_of_pos (by simp [more])
    obtain ⟨after, fetched, still⟩ := fetchMore_page (kept page) success filled
      ((stands.noteHook "legacy" .isDone).noteHook "legacy" .fetchMore)
    rw [Cursor.readOutBehind_page going (congrArg (Listing.lift Listing.search) fetched), first,
      List.map_cons, List.append_cons asked]
    -- The marks of the page before are forgotten with the next one.
    exact (ih (still.noteAll (Cursor.remarks filter next.entries))).behind next.entries

/-- A search comes with its first page and every recorded page behind it. -/
theorem completes_readOut (filter : Option NameFilter) {first : FindPage} {pages : List FindPage}
    {script : List Exchange} (success : first.status.isSuccess = true)
    (filled : first.entries ≠ []) (recorded : Recorded first pages script)
    (stands : Stands session
      { asked
        script := ⟨"find_first2", .ok (.find first)⟩ ::
          (script ++ [⟨"find_close2", .ok closing⟩]) }) :
    (Cursor.readOut ⟨0⟩ filter (Listing.search listing) session).Completes
      ((first :: pages).flatMap (·.entries))
      (asked ++ [(some ⟨1⟩, listing.first, .plain)] ++
        ((first :: pages).filter (!·.endOfSearch)).map
          (fun page => (some ⟨1⟩, (listing.accept page).next first.sid, .plain)) ++
        [(some ⟨1⟩, .findClose first.sid, .cleanup)]) := by
  obtain ⟨after, sent, still⟩ := (stands.noteHook "legacy" .start).send Nat.one_pos listing.first
    .plain rfl (by simp [Playback.result])
  have started : listing.start ⟨0⟩ (session.noteHook "legacy" .start) =
      (.ok true, { listing with sid := some first.sid }.accept first, after) := by
    have going := NtStatus.endsListing_of_isSuccess success
    have found : first.entries.isEmpty = false := by simpa using filled
    simp only [start, sent, Playback.result, going, Bool.false_eq_true, if_false, accept, found,
      Bool.not_false]
  have begun : ({ listing with sid := some first.sid } : SearchListing).sid = some first.sid := rfl
  rw [Cursor.readOut_page (congrArg (Listing.lift Listing.search) started)]
  -- The pages behind the first one are asked for in the search that it began.
  exact (completes_behind filter begun recorded
    (still.noteAll (Cursor.remarks filter first.entries))).behind first.entries

end SearchListing

/-- Listing a directory by search gives the wanted entries of every page, whatever the pages are. The
search goes on behind each page with the marks that came with it, and is given back once. -/
theorem Session.list_search {settings : Settings} {sharePath oemDomain : String}
    {locator : Locator} {options : ListOptions} {first : FindPage} {pages : List FindPage}
    {script : List Exchange} {closing : Response}
    (place : locator.kind = .share ∨ locator.kind = .directory)
    (separated : locator.checkSeparators = .ok ()) (success : first.status.isSuccess = true)
    (filled : first.entries ≠ []) (recorded : SearchListing.Recorded first pages script) :
    (Session.new settings
        (.ofTranscript
          { dialect := .smb1
            exchanges := ⟨"find_first2", .ok (.find first)⟩ ::
              (script ++ [⟨"find_close2", .ok closing⟩]) })
        sharePath oemDomain).Lists locator options
      ((first :: pages).flatMap (·.entries))
      ([(none, .treeConnect sharePath, .plain),
          (some ⟨1⟩,
            .findFirst
              { path := locator.uncPath
                pattern := options.pattern
                searchAttributes := options.searchAttributes
                maxItems := settings.listCount
                maxBuffer := settings.listSize },
            .plain)] ++
        ((first :: pages).filter (!·.endOfSearch)).map (fun page =>
          (some ⟨1⟩,
            .findNext
              { sid := first.sid
                resumeKey := page.resumeKey
                lastName := page.lastName
                maxItems := settings.listCount
                maxBuffer := settings.listSize },
            .plain)) ++
        [(some ⟨1⟩, .findClose first.sid, .cleanup)] ++
        [(some ⟨1⟩, .treeDisconnect, .cleanup)]) := by
  let listing : SearchListing :=
    { path := locator.uncPath
      pattern := options.pattern
      searchAttributes := options.searchAttributes
      maxItems := settings.listCount
      maxBuffer := settings.listSize }
  -- A share is listed as the directory at its top.
  have called (server : Playback) (dialect : server.dialect = .smb1) :
      (new settings server sharePath oemDomain).listingOf locator options =
        .ok (.search listing) := by
    rcases place with isShare | isDirectory
    · simp [listingOf, isShare, new, dialect, SearchListing.new, separated, Except.map, listing]
    · simp [listingOf, isDirectory, new, dialect, SearchListing.new, separated, Except.map, listing]
  refine lists_new (called _ rfl) (by simp) fun held stands => ?_
  exact SearchListing.completes_readOut options.nameFilter success filled recorded stands

/-- Two entries on a page each; that there are no more is said only when it is asked for. -/
theorem Session.list_search_twoPages :
    let first : FindPage :=
      { sid := ⟨7⟩, resumeKey := 40, lastName := "..", entries := [{ name := ".." }] }
    let last : FindPage := { resumeKey := 41, lastName := "kept", entries := [{ name := "kept" }] }
    (new {}
        (.ofTranscript
          { dialect := .smb1
            exchanges :=
              [⟨"find_first2", .ok (.find first)⟩, ⟨"find_next2", .ok (.find last)⟩,
                ⟨"find_next2", .status .noMoreFiles⟩, ⟨"find_close2", .ok .empty⟩] })
        "\\\\srv\\data" "").Lists (.ofShare "srv" "data") { searchAttributes := 22 }
      [{ name := ".." }, { name := "kept" }]
      [(none, .treeConnect "\\\\srv\\data", .plain),
        (some ⟨1⟩, .findFirst ⟨"\\", "*", 22, 200, 65435⟩, .plain),
        (some ⟨1⟩, .findNext ⟨⟨7⟩, 40, "..", 200, 65435⟩, .plain),
        (some ⟨1⟩, .findNext ⟨⟨7⟩, 41, "kept", 200, 65435⟩, .plain),
        (some ⟨1⟩, .findClose ⟨7⟩, .cleanup),
        (some ⟨1⟩, .treeDisconnect, .cleanup)] := by
  intro first last
  -- There is one further page, and a refusal ends the search behind it.
  have recorded : SearchListing.Recorded first [last]
      [⟨"find_next2", .ok (.find last)⟩, ⟨"find_next2", .status .noMoreFiles⟩] :=
    .page rfl (by decide) (by simp [last]) (.ended rfl .refused)
  have listed := @list_search {} "\\\\srv\\data" "" (.ofShare "srv" "data")
    { searchAttributes := 22 } first [last] _ .empty (.inl rfl) (by decide) (by decide)
    (by simp [first]) recorded
  exact listed

end SmbBrowser
