import Mathlib.Data.List.Basic
import SmbBrowser.Proofs.Locator.Segments

/-! A URL spells just one address, and the two notations of an address tell the same path. -/

namespace SmbBrowser.Locator

/-- The addresses that walking down from the whole network comes to. -/
inductive Found : Locator → Prop where
  /-- The walk starts at the whole network. -/
  | root : Found root
  /-- An entry of a place leads one step down. -/
  | child {locator child : Locator} {entry : Entry} (parent : Found locator)
      (down : locator.child entry = .ok child) : Found child

/-- A text with every backslash turned into a slash. -/
def slashed (path : List Char) : List Char := path.map fun c => if c = '\\' then '/' else c

/-- The place that names lead to inside a share, its top directory if there are none. -/
def inside (host share : List Char) (names : List (List Char)) (asDirectory : Bool) : Locator :=
  path (String.ofList host) (String.ofList share)
    (String.ofList (joinSegments names ++ if asDirectory then ['/'] else []))

/-- The addresses that are made of names. -/
inductive Spelled : Locator → Prop where
  /-- The whole network needs no name. -/
  | root : Spelled root
  /-- A workgroup has a name. -/
  | workgroup {host : List Char} (named : IsName host) : Spelled (workgroup (String.ofList host))
  /-- So has a server. -/
  | server {host : List Char} (named : IsName host) : Spelled (server (String.ofList host))
  /-- Inside a share each part of the path has one. -/
  | inside {host share : List Char} {names : List (List Char)} {asDirectory : Bool}
      (named : IsName host) (shared : IsName share) (clean : ∀ name ∈ names, IsName name) :
      Spelled (inside host share names asDirectory)

/-- Without a name inside, the place is the top directory. -/
theorem inside_nil (host share : List Char) (asDirectory : Bool) :
    inside host share [] asDirectory = ofShare (String.ofList host) (String.ofList share) := by
  -- The top directory is one whether or not it is said to be.
  cases asDirectory <;> simp [inside, path, joinSegments, Text.trimBoth]

/-- With a name inside, the path stands in both notations as the names spell it. -/
theorem inside_eq {host share : List Char} {names : List (List Char)} (filled : names ≠ [])
    (clean : ∀ name ∈ names, IsName name) (asDirectory : Bool) :
    inside host share names asDirectory =
      { kind := if asDirectory then .directory else .file
        host := String.ofList host
        share := some (String.ofList share)
        uncPath := String.ofList
          ('\\' :: backslashed (joinSegments names ++ if asDirectory then ['/'] else []))
        url := String.ofList ("smb://".toList ++ host ++ '/' :: share ++ '/' ::
          joinSegments names ++ if asDirectory then ['/'] else []) } := by
  have text := joinSegments_ne_nil filled clean
  -- No name has a slash at either end, so that trimming takes away just the tail.
  have trimmed : ∀ tail : List Char, (∀ c ∈ tail, c = '/') →
      Text.trimBoth (· = '/') (joinSegments names ++ tail) = joinSegments names :=
    fun tail slashes => Text.trimBoth_append text (by simpa using joinSegments_front clean)
      (by simpa using joinSegments_back clean) (by simpa using slashes)
  cases asDirectory with
  | false =>
    -- The last character is a name's, so this is a file.
    have last : (joinSegments names).getLast? ≠ some '/' := fun slash =>
      joinSegments_back clean '/' slash rfl
    have whole := trimmed [] (by simp)
    rw [List.append_nil] at whole
    simp [inside, path, whole, text, last, String.ext_iff, backslashed]
  | true =>
    have whole := trimmed ['/'] (by simp)
    simp [inside, path, whole, text, String.ext_iff, backslashed]

/-- The address that names spell, read from the outside in. -/
def ofNames (asWorkgroup asDirectory : Bool) : List (List Char) → Locator
  | [] => root
  | [host] => if asWorkgroup then workgroup (String.ofList host) else server (String.ofList host)
  | host :: share :: names => inside host share names asDirectory

/-- Reading takes the names between the slashes behind the scheme. -/
theorem parse_smb (rest : List Char) (asWorkgroup : Bool) :
    parse (String.ofList ("smb://".toList ++ rest)) asWorkgroup =
      .ok (ofNames asWorkgroup (rest.getLast? = some '/') ((segments rest).filter (· ≠ []))) := by
  have behind : "smb://".toList.isPrefixOf? ("smb://".toList ++ rest) = some rest := by
    simp [List.isPrefixOf?]
  simp only [parse, String.toList_ofList, behind]
  -- How many names there are tells the kind of the place.
  rcases (segments rest).filter (· ≠ []) with _ | ⟨host, _ | ⟨share, _ | ⟨name, names⟩⟩⟩
  · rfl
  · rfl
  · simp [ofNames, inside_nil]
  · simp [ofNames, inside]

/-- Names spell an address that is made of names. -/
theorem spelled_ofNames {names : List (List Char)} (clean : ∀ name ∈ names, IsName name)
    (asWorkgroup asDirectory : Bool) : Spelled (ofNames asWorkgroup asDirectory names) := by
  -- How many names there are tells how deep the address is.
  rcases names with _ | ⟨host, _ | ⟨share, names⟩⟩
  · exact .root
  · cases asWorkgroup with
    | true => exact .workgroup (clean host (by simp))
    | false => exact .server (clean host (by simp))
  · exact .inside (clean host (by simp)) (clean share (by simp)) fun name listed =>
      clean name (by simp [listed])

/-- What can be read is made of names. -/
theorem spelled_of_parse {target : String} {asWorkgroup : Bool} {locator : Locator}
    (read : parse target asWorkgroup = .ok locator) : Spelled locator := by
  -- What stands behind the scheme is cut into names.
  rcases scheme : "smb://".toList.isPrefixOf? target.toList with _ | rest
  · simp only [parse, scheme, reduceCtorEq] at read
  obtain rfl : String.ofList ("smb://".toList ++ rest) = target := by
    rw [List.append_eq_of_isPrefixOf?_eq_some scheme, String.ofList_toList]
  rw [parse_smb] at read
  obtain rfl := Except.ok.inj read
  exact spelled_ofNames (fun name cut => isName_of_mem_filter cut) _ _

/-- The characters of a name that an address can take up. -/
theorem isName_of_usable {name : String} (usable : isUsableName name = true) :
    IsName name.toList := by
  -- A usable name is not empty and holds no separator.
  simp only [isUsableName, Bool.and_eq_true, decide_eq_true_eq, List.all_eq_true] at usable
  exact ⟨by simpa using usable.1, fun slash => by simpa using usable.2 _ slash⟩

/-- A text without a slash is the same in both notations. -/
theorem backslashed_of_noSlash {text : List Char} (noSlash : '/' ∉ text) :
    backslashed text = text := by
  -- Only slashes are turned.
  refine (List.map_congr_left fun c listed => ?_).trans (List.map_id text)
  rw [if_neg (by rintro rfl; exact noSlash listed), id]

/-- A name found in a directory is one more name of the path. -/
theorem child_inside {host share : List Char} {names : List (List Char)} {asDirectory : Bool}
    {entry : Entry} (open_ : names = [] ∨ asDirectory = true)
    (clean : ∀ name ∈ names, IsName name) (usable : isUsableName entry.name = true) :
    (inside host share names asDirectory).child entry =
      .ok (inside host share (names ++ [entry.name.toList]) entry.isDirectory) := by
  have named := isName_of_usable usable
  have same := backslashed_of_noSlash named.noSlash
  rw [inside_eq (by simp) (by simpa [or_imp, forall_and] using ⟨clean, named⟩) entry.isDirectory]
  -- Directly inside the share there is no path yet to go on from.
  by_cases empty : names = []
  · subst empty
    cases directory : entry.isDirectory <;>
      simp_all [child, inside_nil, ofShare, joinSegments, String.ext_iff, backslashed]
  · obtain rfl : asDirectory = true := open_.resolve_left empty
    rw [inside_eq empty clean true, joinSegments_concat empty]
    cases directory : entry.isDirectory <;>
      simp_all [child, String.ext_iff, backslashed]

/-- What is found by walking down is made of names. -/
theorem spelled_of_found {locator : Locator} (found : Found locator) : Spelled locator := by
  induction found with
  | root => exact .root
  | @child locator child entry parent down spelled =>
    rcases usable : isUsableName entry.name
    · simp [Locator.child, usable] at down
    have named := isName_of_usable usable
    -- A network or a workgroup shows workgroups and servers, under the entry's name.
    have outer : Spelled (if entry.kind = .workgroup then workgroup entry.name
        else server entry.name) := by
      rw [← String.ofList_toList (s := entry.name)]
      split
      · exact .workgroup named
      · exact .server named
    cases spelled with
    | root =>
      obtain rfl : _ = child := by simpa [Locator.child, usable, root] using down
      exact outer
    | workgroup _ =>
      obtain rfl : _ = child := by simpa [Locator.child, usable, workgroup] using down
      exact outer
    | @server host hosted =>
      obtain rfl : ofShare (String.ofList host) entry.name = child := by
        simpa [Locator.child, usable, server] using down
      rw [← String.ofList_toList (s := entry.name), ← inside_nil _ _ true]
      exact .inside hosted named (by simp)
    | @inside host share names asDirectory hosted shared clean =>
      by_cases open_ : names = [] ∨ asDirectory = true
      · rw [child_inside open_ clean usable] at down
        obtain rfl := Except.ok.inj down
        exact .inside hosted shared (by simpa [or_imp, forall_and] using ⟨clean, named⟩)
      · -- A file shows nothing.
        rw [not_or] at open_
        rw [inside_eq open_.1 clean] at down
        simp [Locator.child, usable, open_.2] at down

/-- The names between the slashes of a path that may end with one. -/
theorem names_joinSegments {names : List (List Char)} (filled : names ≠ [])
    (clean : ∀ name ∈ names, IsName name) (asDirectory : Bool) :
    (segments (joinSegments names ++ if asDirectory then ['/'] else [])).filter (· ≠ []) =
      names := by
  have kept : names.filter (· ≠ []) = names := List.filter_eq_self.mpr fun name listed => by
    simpa using (clean name listed).nonempty
  -- A slash at the end adds one empty segment, which is left out.
  cases asDirectory with
  | false => simpa [segments_joinSegments filled clean] using kept
  | true =>
    simpa [segments_append_slash, segments_joinSegments filled clean, segments] using kept

/-- Names written one behind the other, with a slash at the end or not, are read as themselves. -/
theorem parse_joinSegments {names : List (List Char)} (filled : names ≠ [])
    (clean : ∀ name ∈ names, IsName name) (asWorkgroup asDirectory : Bool) :
    parse
        (String.ofList
          ("smb://".toList ++ (joinSegments names ++ if asDirectory then ['/'] else [])))
        asWorkgroup =
      .ok (ofNames asWorkgroup asDirectory names) := by
  -- No name ends with a slash, so only the one at the end tells of a directory.
  have last : ((joinSegments names ++ if asDirectory then ['/'] else []).getLast? = some '/') =
      (asDirectory = true) := by
    cases asDirectory with
    | true => simp
    | false => simpa using fun slash => joinSegments_back clean '/' slash rfl
  rw [parse_smb, names_joinSegments filled clean]
  simp only [last, Bool.decide_eq_true]

/-- An address that is made of names is read back from its URL. -/
theorem Spelled.parse_url {locator : Locator} (spelled : Spelled locator) :
    parse locator.url (locator.kind = .workgroup) = .ok locator := by
  cases spelled with
  | root => rfl
  | @workgroup host named =>
    have url : (Locator.workgroup (String.ofList host)).url =
        String.ofList ("smb://".toList ++ (joinSegments [host] ++ ['/'])) := by
      simp [Locator.workgroup, joinSegments, String.ext_iff]
    rw [url]
    exact parse_joinSegments (by simp) (by simpa using named) true true
  | @server host named =>
    have url : (Locator.server (String.ofList host)).url =
        String.ofList ("smb://".toList ++ (joinSegments [host] ++ ['/'])) := by
      simp [Locator.server, joinSegments, String.ext_iff]
    rw [url]
    exact parse_joinSegments (by simp) (by simpa using named) false true
  | @inside host share names asDirectory hosted shared clean =>
    by_cases empty : names = []
    · -- The top directory is spelled by its server and its share.
      subst empty
      have url : (ofShare (String.ofList host) (String.ofList share)).url =
          String.ofList ("smb://".toList ++ (joinSegments [host, share] ++ ['/'])) := by
        simp [ofShare, joinSegments, String.ext_iff]
      rw [inside_nil, url, ← inside_nil _ _ true]
      exact parse_joinSegments (by simp) (by simpa using ⟨hosted, shared⟩) false true
    · -- Any other place is spelled by all the names on the way.
      have joined : joinSegments (host :: share :: names) =
          host ++ '/' :: share ++ '/' :: joinSegments names := by
        obtain ⟨name, more, rfl⟩ := List.exists_cons_of_ne_nil empty
        simp [joinSegments]
      have filled : host :: share :: names ≠ [] := List.cons_ne_nil _ _
      have read := parse_joinSegments filled (by simpa using ⟨hosted, shared, clean⟩) false
        asDirectory
      rw [ofNames, inside_eq empty clean, joined] at read
      rw [inside_eq empty clean]
      cases asDirectory <;> simpa using read

/-- What the two notations of an address tell about each other and about its kind. -/
structure Aligned (locator : Locator) : Prop where
  /-- Inside a share the URL is the path, with its separators turned. -/
  url_eq : ∀ share, locator.share = some share → locator.url =
    "smb://" ++ locator.host ++ "/" ++ share ++ String.ofList (slashed locator.uncPath.toList)
  /-- The path of all that can be listed ends with a separator. -/
  uncPath_ends : locator.uncPath.toList.getLast? = some '\\' ↔ locator.kind ≠ .file
  /-- So does the URL of what can be listed. -/
  url_ends : locator.kind ≠ .file → locator.url.toList.getLast? = some '/'

/-- A usable name has no backslash. -/
theorem noBackslash_of_usable {name : String} (usable : isUsableName name = true) :
    '\\' ∉ name.toList := by
  -- A usable name holds no separator of either notation.
  simp only [isUsableName, Bool.and_eq_true, List.all_eq_true] at usable
  exact fun backslash => by simpa using usable.2 _ backslash

/-- A text without a backslash is the same in both notations. -/
theorem slashed_of_noBackslash {text : List Char} (noBackslash : '\\' ∉ text) :
    slashed text = text := by
  -- Only backslashes are turned.
  refine (List.map_congr_left fun c listed => ?_).trans (List.map_id text)
  rw [if_neg (by rintro rfl; exact noBackslash listed), id]

/-- The notations of a workgroup are aligned. -/
theorem aligned_workgroup (name : String) : Aligned (workgroup name) := by
  -- The notations of an address outside a share are written out.
  constructor <;> simp [workgroup, List.getLast?_cons]

/-- So are those of a server. -/
theorem aligned_server (host : String) : Aligned (server host) := by
  -- As for a workgroup, they are written out.
  constructor <;> simp [server, List.getLast?_cons]

/-- So are those of the top directory of a share. -/
theorem aligned_ofShare (host share : String) : Aligned (ofShare host share) := by
  -- The path is one separator, which both notations end with.
  constructor <;> simp [ofShare, slashed, String.ext_iff, List.getLast?_cons]

/-- One more name keeps the notations of a directory aligned. -/
theorem Aligned.append {locator : Locator} (aligned : Aligned locator) {name : String}
    (usable : isUsableName name = true) (asDirectory : Bool) :
    Aligned (if asDirectory then
      { locator with
        kind := .directory
        uncPath := locator.uncPath ++ name ++ "\\"
        url := locator.url ++ name ++ "/" }
    else
      { locator with
        kind := .file
        uncPath := locator.uncPath ++ name
        url := locator.url ++ name }) := by
  have same := slashed_of_noBackslash (noBackslash_of_usable usable)
  have url (share : String) (inShare : locator.share = some share) :
      locator.url ++ name = "smb://" ++ locator.host ++ "/" ++ share ++
        String.ofList (slashed (locator.uncPath ++ name).toList) := by
    -- The new name reads the same in both notations.
    conv_lhs => rw [aligned.url_eq share inShare, ← String.ofList_toList (s := name), ← same]
    simp [slashed, String.append_assoc]
  cases asDirectory with
  | true =>
    constructor
    · intro share inShare
      simp only [↓reduceIte] at inShare ⊢
      rw [url share inShare]
      simp [slashed, String.append_assoc]
    · simp
    · simp
  | false =>
    -- The path ends with the name's last character, which is no separator.
    have last : (locator.uncPath ++ name).toList.getLast? ≠ some '\\' := by
      have noBackslash := noBackslash_of_usable usable
      rw [String.toList_append, List.getLast?_append_of_ne_nil _ (isName_of_usable usable).nonempty]
      exact fun ends => noBackslash (List.mem_of_getLast? ends)
    exact ⟨url, by simpa using last, by simp⟩

/-- The notations stay aligned on the way down. -/
theorem Aligned.child {locator child : Locator} {entry : Entry} (aligned : Aligned locator)
    (down : locator.child entry = .ok child) : Aligned child := by
  rcases usable : isUsableName entry.name
  · simp [Locator.child, usable] at down
  have outer : Aligned (if entry.kind = .workgroup then workgroup entry.name
      else server entry.name) := by
    split
    · exact aligned_workgroup _
    · exact aligned_server _
  simp only [Locator.child, usable, Bool.not_true, Bool.false_eq_true, if_false] at down
  -- Above a share the child is one of three addresses; inside it one name is appended; a file has
  -- none.
  cases kind : locator.kind with
  | root | workgroup =>
    rw [kind] at down
    exact Except.ok.inj down ▸ outer
  | server =>
    rw [kind] at down
    exact Except.ok.inj down ▸ aligned_ofShare _ _
  | share | directory =>
    rw [kind] at down
    exact Except.ok.inj down ▸ aligned.append usable _
  | file =>
    rw [kind] at down
    cases down

/-- The notations of all that is found are aligned. -/
theorem aligned_of_found {locator : Locator} (found : Found locator) : Aligned locator := by
  -- The whole network is aligned, and each step down stays so.
  induction found with
  | root => constructor <;> simp [root]
  | child _ down aligned => exact aligned.child down

/-- What can be listed passes the check of its separators, and nothing else does. -/
theorem Aligned.checkSeparators_iff {locator : Locator} (aligned : Aligned locator) :
    locator.checkSeparators = .ok () ↔ locator.kind ≠ .file := by
  -- A file's path has no separator at its end; all others have one in both notations.
  by_cases listable : locator.kind = .file
  · have := mt aligned.uncPath_ends.mp (not_not_intro listable)
    simp [checkSeparators, this, listable]
  · simp [checkSeparators, aligned.uncPath_ends.mpr listable, aligned.url_ends listable, listable]

/-- A file has no children. -/
theorem child_of_file {locator : Locator} (file : locator.kind = .file) (entry : Entry) :
    ∃ fault, locator.child entry = .error fault := by
  -- Whatever the name is, there is nothing below a file.
  rcases usable : isUsableName entry.name <;> simp [child, usable, file]

/--
A URL names its address: whatever was found by walking down or read from a target is read back from
its URL, as a workgroup if it is one.

For what was found by walking down the two notations agree besides, inside a share; all but files
end with a separator in both, and files have no children.
-/
theorem url_names :
    (∀ locator : Locator,
      (Found locator ∨ ∃ target asWorkgroup, parse target asWorkgroup = .ok locator) →
        parse locator.url (locator.kind = .workgroup) = .ok locator) ∧
    (∀ locator : Locator, Found locator →
      (∀ share, locator.share = some share → locator.url =
        "smb://" ++ locator.host ++ "/" ++ share ++
          String.ofList (slashed locator.uncPath.toList)) ∧
      (locator.checkSeparators = .ok () ↔ locator.kind ≠ .file) ∧
      (locator.kind = .file → ∀ entry, ∃ fault, locator.child entry = .error fault)) := by
  refine ⟨fun locator origin => ?_, fun locator found => ?_⟩
  · -- Walking down and reading both come to addresses that are made of names.
    rcases origin with found | ⟨target, asWorkgroup, read⟩
    · exact (spelled_of_found found).parse_url
    · exact (spelled_of_parse read).parse_url
  · -- Only what was found by walking down is aligned, since a target may hold backslashes.
    have aligned := aligned_of_found found
    exact ⟨aligned.url_eq, aligned.checkSeparators_iff, child_of_file⟩

/-- A file found two steps inside a share, and a directory read from a URL with slashes too many. -/
theorem url_names_bothWays :
    let file : Locator :=
      ⟨.file, "srv", some "data", "\\docs\\a b.txt", "smb://srv/data/docs/a b.txt"⟩
    let directory : Locator :=
      ⟨.directory, "srv", some "data", "\\a\\b\\c\\", "smb://srv/data/a\\b/c/"⟩
    (parse file.url false = .ok file ∧ parse directory.url false = .ok directory) ∧
      file.url = "smb://srv/data" ++ String.ofList (slashed file.uncPath.toList) ∧
      ∃ fault, file.child { name := "inner" } = .error fault := by
  intro file directory
  -- The file is found from the network down, by server, share and directory.
  have found : Found file := by
    have server : Found (server "srv") :=
      @Found.child _ _ { name := "srv" } .root (by decide +kernel)
    have share : Found (ofShare "srv" "data") :=
      @Found.child _ _ { name := "data" } server (by decide +kernel)
    have docs : Found (path "srv" "data" "docs/") :=
      @Found.child _ _ { name := "docs", attributes := Attributes.directory } share
        (by decide +kernel)
    exact @Found.child _ _ { name := "a b.txt" } docs (by decide +kernel)
  have read : parse "smb://srv//data/a\\b//c///" false = .ok directory := by decide +kernel
  exact ⟨⟨url_names.1 file (.inl found), url_names.1 directory (.inr ⟨_, _, read⟩)⟩,
    (url_names.2 file found).1 "data" rfl, (url_names.2 file found).2.2 rfl _⟩

end SmbBrowser.Locator
