import SmbBrowser.Proofs.Listing.Complete

/-!
Listing servers over overlapping pages: every page behind the first repeats the last record of the
page before it, and each record is handed out once all the same.
-/

namespace SmbBrowser

namespace NetworkListing

/-- Records that are cut into pages, each of which begins with the last record of the page before. -/
inductive Cut : List ServerRecord → List (List ServerRecord) → Prop where
  /-- All of them are on one page. -/
  | whole (records : List ServerRecord) : Cut records [records]
  /-- A page ends with the record that the next page begins with. -/
  | further {front : List ServerRecord} {last : ServerRecord} {rest : List ServerRecord}
    {pages : List (List ServerRecord)} (behind : Cut (last :: rest) pages) :
    Cut (front ++ last :: rest) ((front ++ [last]) :: pages)

/-- The answer that brings a page of records. -/
def reply (status : Win32Status) (page : List ServerRecord) : Exchange :=
  ⟨"net_server_enum", .ok (.serverList { status, entries := page })⟩

/-- The answers that bring pages of records: all but the last say that there is more. -/
def replies : List (List ServerRecord) → List Exchange
  | [] => []
  | [page] => [reply .success page]
  | page :: next :: pages => reply .moreData page :: replies (next :: pages)

/-- Records are cut into one page at least. -/
theorem Cut.ne_nil {records : List ServerRecord} {pages : List (List ServerRecord)}
    (cut : Cut records pages) : pages ≠ [] := by
  -- Even where nothing is cut there is the whole page.
  cases cut <;> exact List.cons_ne_nil _ _

/-- The first page of two or more is answered as a partial one. -/
theorem replies_cons {page : List ServerRecord} {pages : List (List ServerRecord)}
    (more : pages ≠ []) : replies (page :: pages) = reply .moreData page :: replies pages := by
  -- Only the last page is answered as a whole one.
  cases pages with
  | nil => exact absurd rfl more
  | cons next pages => rfl

/-- Pages of records answer queries for servers, and nothing else. -/
theorem expect_replies {pages : List (List ServerRecord)} {first : Exchange}
    (front : first ∈ (replies pages).head?) : first.expect = "net_server_enum" := by
  -- The front is the answer to a last page or to an earlier one.
  rcases pages with _ | ⟨page, _ | ⟨next, pages⟩⟩ <;>
    simp only [replies, List.head?_nil, List.head?_cons, Option.mem_def, Option.some.injEq,
      reduceCtorEq] at front
  · rw [← front, reply]
  · rw [← front, reply]

/-- The query for the page that goes on from a name. -/
def further (query : ServerQuery) (resume : Option String) : Request :=
  .serverEnum { query with command := .netServerEnum3, lastName := resume }

/-- The listing with a page of records. -/
def turned (listing : NetworkListing) (status : Win32Status) (page : List ServerRecord) :
    NetworkListing :=
  { listing with status, page := page.map ServerRecord.toEntry }

/-- The listing that goes on from a name. -/
def resumed (listing : NetworkListing) (resume : String) : NetworkListing :=
  { listing with
    query := { listing.query with command := .netServerEnum3, lastName := some resume } }

variable {listing : NetworkListing} {session : Session} {rest : List Exchange}
  {asked : List (Option TreeId × Request × Delivery)}

/-- A whole page hands out all its records. -/
theorem results_whole (listing : NetworkListing) (page : List ServerRecord) :
    (listing.turned .success page).results = page.map ServerRecord.toEntry := by
  -- Its status does not say that there is more.
  simp [results, isPartial, turned, Win32Status.success, Win32Status.moreData]

/-- The last record of a partial page is withheld. -/
theorem results_partial (listing : NetworkListing) (front : List ServerRecord)
    (last : ServerRecord) :
    (listing.turned .moreData (front ++ [last])).results = front.map ServerRecord.toEntry := by
  -- The last of the entries is dropped, since the next page repeats it.
  simp [results, isPartial, turned]

/-- The last entry of a page is that of its last record. -/
theorem getLast?_turned (listing : NetworkListing) (status : Win32Status)
    (front : List ServerRecord) (last : ServerRecord) :
    (listing.turned status (front ++ [last])).page.getLast? = some last.toEntry := by
  -- The records become entries one by one.
  rw [turned, List.map_append]
  exact List.getLast?_concat

/-- Behind a whole page there is no other. -/
theorem isDone_whole (listing : NetworkListing) (page : List ServerRecord) :
    PagedListing.isDone (Listing.network (listing.turned .success page)) = true := by
  -- Its status does not say that there is more.
  simp [PagedListing.isDone, Listing.isDone, isPartial, turned, Win32Status.success,
    Win32Status.moreData]

/-- Behind a partial page there is another. -/
theorem isDone_partial (isPartial : listing.status = .moreData) :
    PagedListing.isDone (Listing.network listing) = false := by
  -- This is what its status says.
  simp [PagedListing.isDone, Listing.isDone, NetworkListing.isPartial, isPartial]

/-- A whole or partial page comes as it is asked for. -/
theorem ask_page {status : Win32Status} {page : List ServerRecord}
    (fine : status = .success ∨ status = .moreData)
    (stands : Stands session { asked, script := reply status page :: rest }) :
    ∃ after, listing.ask ⟨0⟩ session = (.ok (), listing.turned status page, after) ∧
      Stands after
        { asked := asked ++ [(some ⟨1⟩, .serverEnum listing.query, .plain)], script := rest } := by
  obtain ⟨after, sent, still⟩ := stands.send Nat.one_pos (.serverEnum listing.query) .plain rfl
    (by simp [Playback.result])
  -- Neither of the two statuses is a failure.
  have installed : status ≠ .serviceNotInstalled := by
    rcases fine with rfl | rfl <;> decide
  simp only [ask, sent, Playback.result, if_neg installed, if_pos fine]
  exact ⟨_, rfl, still.note _⟩

/-- Going on is one query from the last name on, whose answer must get further. -/
theorem fetchMore_eq {last : Entry} {tree : TreeRef} (continues : listing.workgroup = true)
    (isLast : listing.page.getLast? = some last) :
    listing.fetchMore tree session =
      match (listing.resumed last.name).ask tree session with
      | (.error fault, listing, session) => (.error fault, listing, session)
      | (.ok (), listing, session) =>
        if listing.isStalled last.name then
          (.error (.protocol "server list continuation made no progress"), listing, session)
        else (.ok true, listing, session) := by
  -- There is a last name, and the listing is one that goes on.
  unfold fetchMore
  rw [if_neg (by simp [continues]), isLast]
  rfl

/-- A further page is asked for from the last name of the page before it on, and must get further. -/
theorem fetchMore_page {status : Win32Status} {page : List ServerRecord} {last : ServerRecord}
    (continues : listing.workgroup = true) (isLast : listing.page.getLast? = some last.toEntry)
    (fine : status = .success ∨ status = .moreData)
    (progress : (listing.turned status page).isStalled last.name = false)
    (stands : Stands session { asked, script := reply status page :: rest }) :
    ∃ after,
      listing.fetchMore ⟨0⟩ session =
          (.ok true, (listing.resumed last.name).turned status page, after) ∧
        Stands after
          { asked := asked ++ [(some ⟨1⟩, further listing.query (some last.name), .plain)]
            script := rest } := by
  obtain ⟨after, came, still⟩ := (listing.resumed last.name).ask_page fine stands
  refine ⟨after, ?_, still⟩
  have name : last.toEntry.name = last.name := rfl
  -- What the page must get beyond is judged by the page alone.
  have further : ((listing.resumed last.name).turned status page).isStalled last.name = false :=
    progress
  rw [fetchMore_eq continues isLast, name, came]
  simp only [further, Bool.false_eq_true, if_false]

/-- Behind a whole page nothing is asked for, and nothing need be given back. -/
theorem completes_whole (filter : Option NameFilter) (listing : NetworkListing)
    {page : List ServerRecord} (stands : Stands session { asked, script := [] }) :
    let turned := Listing.network (listing.turned .success page)
    ((Cursor.readOutBehind ⟨0⟩ filter turned session).behind
      (PagedListing.results turned)).Completes (page.map ServerRecord.toEntry) asked := by
  intro turned
  have brought : PagedListing.results turned = page.map ServerRecord.toEntry :=
    results_whole listing page
  -- The listing is done behind its page, and it holds nothing at the server.
  have ended : (Cursor.readOutBehind ⟨0⟩ filter turned session).Completes [] asked := by
    rw [Cursor.readOutBehind, if_pos (isDone_whole listing page)]
    exact ⟨rfl, rfl, turned, _, #[], rfl, (stands.noteHook _ _).noteHook _ _⟩
  have complete := ended.behind (PagedListing.results turned)
  rw [List.append_nil, brought] at complete
  rwa [brought]

/-- Behind a partial page come the pages that the records behind it are cut into, each asked for
from the last name of the page before it on. The withheld record is the first that is handed out. -/
theorem completes_behind (filter : Option NameFilter) {last : ServerRecord}
    {records : List ServerRecord} {pages : List (List ServerRecord)}
    (continues : listing.workgroup = true) (isPartial : listing.status = .moreData)
    (isLast : listing.page.getLast? = some last.toEntry) (cut : Cut (last :: records) pages)
    (long : ∀ page ∈ pages.dropLast, 2 ≤ page.length)
    (distinct : ((last :: records).map (·.name)).Nodup)
    (stands : Stands session { asked, script := replies pages }) :
    (Cursor.readOutBehind ⟨0⟩ filter (Listing.network listing) session).Completes
      ((last :: records).map ServerRecord.toEntry)
      (asked ++ (some ⟨1⟩, further listing.query (some last.name), .plain) ::
        pages.dropLast.map fun page =>
          (some ⟨1⟩, further listing.query (page.getLast?.map (·.name)), .plain)) := by
  -- The induction is on how the records are cut; the first of them is the one that was withheld.
  generalize whole : last :: records = remaining at cut distinct
  induction cut generalizing listing last records asked session with
  | whole remaining =>
    have progress : (listing.turned .success remaining).isStalled last.name = false := by
      simp [isStalled, NetworkListing.isPartial, turned, Win32Status.success, Win32Status.moreData]
    obtain ⟨after, fetched, still⟩ := fetchMore_page continues isLast (.inl rfl) progress
      ((stands.noteHook "servers" .isDone).noteHook "servers" .fetchMore)
    rw [Cursor.readOutBehind_page (isDone_partial isPartial)
      (congrArg (Listing.lift Listing.network) fetched)]
    exact completes_whole filter (listing.resumed last.name) (still.noteAll _)
  | @further front next rest pages behind ih =>
    have partialPages : ((front ++ [next]) :: pages).dropLast =
        (front ++ [next]) :: pages.dropLast := List.dropLast_cons_of_ne_nil behind.ne_nil
    rw [partialPages] at long ⊢
    -- The page begins with the withheld record and ends with another one.
    have among : last ∈ front := by
      cases front with
      | nil => simpa using long _ List.mem_cons_self
      | cons first others =>
        obtain ⟨rfl, _⟩ := List.cons_eq_cons.mp whole
        exact List.mem_cons_self
    rw [List.map_append] at distinct
    obtain ⟨_, apart, disjoint⟩ := List.nodup_append.mp distinct
    have others : last.name ≠ next.name :=
      disjoint _ (List.mem_map_of_mem among) _ List.mem_cons_self
    have ended := (listing.resumed last.name).getLast?_turned .moreData front next
    have progress : (listing.turned .moreData (front ++ [next])).isStalled last.name = false := by
      simp [isStalled, getLast?_turned, ServerRecord.toEntry, others.symm]
    rw [replies_cons behind.ne_nil] at stands
    obtain ⟨after, fetched, still⟩ := fetchMore_page continues isLast (.inr rfl) progress
      ((stands.noteHook "servers" .isDone).noteHook "servers" .fetchMore)
    have brought : PagedListing.results
        (Listing.network ((listing.resumed last.name).turned .moreData (front ++ [next]))) =
          front.map ServerRecord.toEntry := results_partial _ front next
    have goesOn : ((listing.resumed last.name).turned .moreData (front ++ [next])).workgroup = true :=
      continues
    rw [Cursor.readOutBehind_page (isDone_partial isPartial)
      (congrArg (Listing.lift Listing.network) fetched), brought, List.map_append,
      List.append_cons asked, List.map_cons, List.map_cons, List.getLast?_concat]
    exact (ih goesOn rfl ended (fun page behind => long page (List.mem_cons_of_mem _ behind))
      (still.noteAll _) rfl apart).behind (front.map ServerRecord.toEntry)

/-- The first page must hold something. -/
theorem start_page {status : Win32Status} {page : List ServerRecord} (filled : page ≠ [])
    (fine : status = .success ∨ status = .moreData)
    (stands : Stands session { asked, script := reply status page :: rest }) :
    ∃ after, listing.start ⟨0⟩ session = (.ok true, listing.turned status page, after) ∧
      Stands after
        { asked := asked ++ [(some ⟨1⟩, .serverEnum listing.query, .plain)], script := rest } := by
  -- The query brings the page, and the page is not empty.
  obtain ⟨after, came, still⟩ := ask_page fine stands
  refine ⟨after, ?_, still⟩
  have found : (listing.turned status page).page.isEmpty = false := by simpa [turned] using filled
  simp only [start, came, found, Bool.not_false]

/-- The records come over all the pages that they are cut into, and each of them once. -/
theorem completes_readOut (filter : Option NameFilter) {records : List ServerRecord}
    {pages : List (List ServerRecord)} (continues : listing.workgroup = true)
    (filled : records ≠ []) (cut : Cut records pages)
    (long : ∀ page ∈ pages.tail.dropLast, 2 ≤ page.length)
    (distinct : (records.map (·.name)).Nodup)
    (stands : Stands session { asked, script := replies pages }) :
    (Cursor.readOut ⟨0⟩ filter (Listing.network listing) session).Completes
      (records.map ServerRecord.toEntry)
      (asked ++ (some ⟨1⟩, .serverEnum listing.query, .plain) ::
        pages.dropLast.map fun page =>
          (some ⟨1⟩, further listing.query (page.getLast?.map (·.name)), .plain)) := by
  cases cut with
  | whole =>
    obtain ⟨after, started, still⟩ := start_page filled (.inl rfl)
      (stands.noteHook "servers" .start)
    rw [Cursor.readOut_page (congrArg (Listing.lift Listing.network) started)]
    exact completes_whole filter listing (still.noteAll _)
  | @further front last rest pages behind =>
    rw [replies_cons behind.ne_nil] at stands
    obtain ⟨after, started, still⟩ := start_page (by simp) (.inr rfl)
      (stands.noteHook "servers" .start)
    have brought : PagedListing.results
        (Listing.network (listing.turned .moreData (front ++ [last]))) =
          front.map ServerRecord.toEntry := results_partial _ front last
    rw [Cursor.readOut_page (congrArg (Listing.lift Listing.network) started), brought,
      List.dropLast_cons_of_ne_nil behind.ne_nil, List.append_cons asked, List.map_append,
      List.map_cons, List.map_cons, List.getLast?_concat]
    rw [List.map_append] at distinct
    -- What the first page withholds is the first of what comes behind it.
    have goesOn : (listing.turned .moreData (front ++ [last])).workgroup = true := continues
    exact (completes_behind filter goesOn rfl (listing.getLast?_turned _ front last) behind long
      (List.nodup_append.mp distinct).2.1 (still.noteAll _)).behind _

end NetworkListing

/-- Listing the network or a workgroup hands out every record once, in order, however the server cuts
the records into overlapping pages. The first query names no record, each further one the last record
of the page before it, and all of them ask for the same. -/
theorem Session.list_network {settings : Settings} {dialect : Dialect}
    {sharePath oemDomain : String} {locator : Locator} {options : ListOptions} {domain : String}
    {serverTypes : UInt32} {records : List ServerRecord} {pages : List (List ServerRecord)}
    (place :
      locator.kind = .root ∧ domain = oemDomain ∧ serverTypes = ServerRecord.domainType ∨
        locator.kind = .workgroup ∧ domain = locator.host ∧ serverTypes = ServerRecord.anyType)
    (filled : records ≠ []) (cut : NetworkListing.Cut records pages)
    (long : ∀ page ∈ pages.tail.dropLast, 2 ≤ page.length)
    (distinct : (records.map (·.name)).Nodup) :
    (new settings
        (.ofTranscript { dialect, exchanges := NetworkListing.replies pages })
        sharePath oemDomain).Lists locator options
      (records.map ServerRecord.toEntry)
      ([(none, .treeConnect sharePath, .plain)] ++
        (some ⟨1⟩,
          .serverEnum
            { command := .netServerEnum2
              domain
              serverTypes
              lastName := none
              maxBuffer := settings.listSize },
          .plain) ::
        pages.dropLast.map (fun page =>
          (some ⟨1⟩,
            .serverEnum
              { command := .netServerEnum3
                domain
                serverTypes
                lastName := page.getLast?.map (·.name)
                maxBuffer := settings.listSize },
            .plain)) ++
        [(some ⟨1⟩, .treeDisconnect, .cleanup)]) := by
  have called (server : Playback) : (new settings server sharePath oemDomain).listingOf locator
      options = .ok (.network (.new domain serverTypes true settings)) := by
    -- The network is asked about under its own name, and a workgroup under that of its address.
    rcases place with ⟨isRoot, rfl, rfl⟩ | ⟨isWorkgroup, rfl, rfl⟩
    · simp [listingOf, isRoot, new, NetworkListing.domains]
    · simp [listingOf, isWorkgroup, new, NetworkListing.ofWorkgroup]
  refine lists_new (called _) (fun next front => ?_) fun held stands => ?_
  · rw [NetworkListing.expect_replies front]
    decide
  · -- Behind the connecting all pages are read out.
    exact NetworkListing.completes_readOut options.nameFilter rfl filled cut long distinct stands

/-- The first page withholds its only record, and the second page hands it out. -/
theorem Session.list_network_threePages :
    let pages : List (List ServerRecord) :=
      [[⟨"alpha", 0, ""⟩], [⟨"alpha", 0, ""⟩, ⟨"beta", 0, ""⟩],
        [⟨"beta", 0, ""⟩, ⟨"gamma", 0, ""⟩]]
    (new {} (.ofTranscript { dialect := .smb1, exchanges := NetworkListing.replies pages })
        "\\\\srv\\ipc$" "LAN").Lists (.workgroup "office") {}
      [ServerRecord.toEntry ⟨"alpha", 0, ""⟩, ServerRecord.toEntry ⟨"beta", 0, ""⟩,
        ServerRecord.toEntry ⟨"gamma", 0, ""⟩]
      [(none, .treeConnect "\\\\srv\\ipc$", .plain),
        (some ⟨1⟩,
          .serverEnum ⟨.netServerEnum2, "office", ServerRecord.anyType, none, 65435⟩, .plain),
        (some ⟨1⟩,
          .serverEnum ⟨.netServerEnum3, "office", ServerRecord.anyType, some "alpha", 65435⟩,
          .plain),
        (some ⟨1⟩,
          .serverEnum ⟨.netServerEnum3, "office", ServerRecord.anyType, some "beta", 65435⟩,
          .plain),
        (some ⟨1⟩, .treeDisconnect, .cleanup)] := by
  intro pages
  let alpha : ServerRecord := ⟨"alpha", 0, ""⟩
  let beta : ServerRecord := ⟨"beta", 0, ""⟩
  let gamma : ServerRecord := ⟨"gamma", 0, ""⟩
  -- The pages are cut from the last one to the first.
  have last : NetworkListing.Cut [beta, gamma] [[beta, gamma]] := .whole _
  have second : NetworkListing.Cut [alpha, beta, gamma] [[alpha, beta], [beta, gamma]] :=
    @NetworkListing.Cut.further [alpha] beta [gamma] _ last
  have cut : NetworkListing.Cut [alpha, beta, gamma] pages :=
    @NetworkListing.Cut.further [] alpha [beta, gamma] _ second
  have listed := @list_network {} .smb1 "\\\\srv\\ipc$" "LAN" (.workgroup "office") {} "office"
    ServerRecord.anyType [alpha, beta, gamma] pages (.inr ⟨rfl, rfl, rfl⟩) (by simp) cut
    (by simp [pages]) (by decide)
  exact listed

end SmbBrowser
