import Gazetteer.Configuration.Basic
import Gazetteer.Proofs.Datasette.Carriage
import Gazetteer.Proofs.Url.Address

/-!
Where requests go.  The address of a server and the name of a database are put together as texts and read as one
address.  The database is found below the address of the server if neither has a mark in it that means something else
there.
-/

namespace Gazetteer.Datasette

open Url

/-- The address of a request is that of a database below the address of its server, with the pairs of a query alone. -/
structure Reaches (server : Url) (database : String) (carried : List (String × String)) (sent : Url) : Prop where
  scheme : sent.scheme = server.scheme
  authority : sent.authority = server.authority
  path : sent.path.chars = server.path.chars.rdropWhile (· == '/') ++
    '/' :: (escapeWhere escapedInPath database.toList ++ ".json".toList)
  query : sent.query = some (Text.Form.encodePairs carried)
  fragment : sent.fragment = none

def marks : List Char := ['?', '#', '/', '\\', '\t', '\n', '\r']

/-- An address and a name that mean the same when they are put together. -/
structure Settings.Separable (s : Settings) : Prop where
  no_query : '?' ∉ s.url.toList
  no_fragment : '#' ∉ s.url.toList
  last : ∀ c ∈ (unbroken s.url.toList).getLast?, 0x20 < c.toNat
  /-- Slashes at the end of the address are slashes at the end of its path. -/
  directory : ∀ directory, Url.parse (trimSlashes s.url ++ "/") = .ok directory →
    ¬ ['/', '/'] <:+ directory.path.chars
  name : ∀ mark ∈ marks, mark ∉ s.database.toList

theorem rdropWhile_behind {α : Type} {p : α → Bool} {c : α} (stays : ¬p c = true) (xs ys : List α) :
    (xs ++ c :: ys).rdropWhile p = xs ++ c :: ys.rdropWhile p := by
  induction ys using List.reverseRecOn with
  | nil => exact List.rdropWhile_concat_neg p xs c stays
  | append_singleton ys last ih =>
    have parts : xs ++ c :: (ys ++ [last]) = (xs ++ c :: ys) ++ [last] := by simp
    rw [parts, List.rdropWhile_concat, List.rdropWhile_concat]
    split
    · exact ih
    · exact parts.symm

theorem rdropWhile_slashes (cs : List Char) (count : Nat) :
    (cs ++ List.replicate count '/').rdropWhile (· == '/') = cs.rdropWhile (· == '/') := by
  induction count with
  | zero => rw [List.replicate_zero, List.append_nil]
  | succ count ih =>
    rw [List.replicate_succ', ← List.append_assoc, List.rdropWhile_concat_pos _ _ _ (by decide), ih]

theorem rdropWhile_eq_self {cs : List Char} (one_slash : ¬ ['/', '/'] <:+ cs ++ ['/']) :
    cs.rdropWhile (· == '/') = cs := by
  refine List.rdropWhile_eq_self_iff.mpr fun some_char last => one_slash ⟨cs.dropLast, ?_⟩
  have slash : cs.getLast some_char = '/' := by simpa using last
  rw [← slash, List.append_cons, List.dropLast_append_getLast]

theorem exists_slashes (cs : List Char) : ∃ count, cs = cs.rdropWhile (· == '/') ++ List.replicate count '/' := by
  refine ⟨(cs.rtakeWhile (· == '/')).length, ?_⟩
  have all_slashes : cs.rtakeWhile (· == '/') = List.replicate (cs.rtakeWhile (· == '/')).length '/' :=
    List.eq_replicate_iff.mpr ⟨rfl, fun c member => by simpa using List.mem_rtakeWhile_imp member⟩
  rw [← all_slashes, List.rdropWhile_append_rtakeWhile]

variable {s : Settings} {scheme rest : List Char}

theorem trimSlashes_chars (whole : s.url.toList = scheme ++ ':' :: rest) (tail : String) :
    (trimSlashes s.url ++ tail).toList = scheme ++ ':' :: (rest.rdropWhile (· == '/') ++ tail.toList) := by
  have trimmed : trimSlashes s.url = .ofList (s.url.toList.rdropWhile (· == '/')) := rfl
  rw [trimmed, whole, rdropWhile_behind (by decide), String.toList_append, String.toList_ofList]
  simp

theorem endpoint_eq (s : Settings) : endpoint s = trimSlashes s.url ++ ("/" ++ (s.database ++ ".json")) := by
  simp only [endpoint, String.append_assoc]

theorem unbroken_slashes (count : Nat) : unbroken (List.replicate count '/') = List.replicate count '/' :=
  List.filter_eq_self.mpr fun c member => by rw [List.eq_of_mem_replicate member]; rfl

/-! ### What goes on behind an address -/

theorem isWeb_tail (web : scheme ∈ webSchemes) (whole : s.url.toList = scheme ++ ':' :: rest) {tail : String} {c : Char}
    (ends : (unbroken tail.toList).getLast? = some c) (visible : 0x20 < c.toNat) :
    IsWeb (trimSlashes s.url ++ tail) scheme (rest.rdropWhile (· == '/') ++ tail.toList) where
  web
  whole := trimSlashes_chars whole tail
  last := by
    intro d last
    rw [unbroken_append, List.getLast?_append, ends] at last
    exact Option.some.inj last ▸ visible

structure IsTail (tail : String) : Prop where
  path : StartsPath (unbroken tail.toList)
  visible : ∃ c, (unbroken tail.toList).getLast? = some c ∧ 0x20 < c.toNat
  no_query : '?' ∉ tail.toList
  no_fragment : '#' ∉ tail.toList

/-- The authority and the path with which all addresses begin that go on behind the address of a server. -/
def Settings.HasFront (s : Settings) (scheme : List Char) (authority : Authority) (path : List Char) : Prop :=
  StartsPath path ∧ ∀ tail, IsTail tail → Url.parse (trimSlashes s.url ++ tail) =
    .ok ⟨scheme, some authority, pathAfter .web (path ++ withSlashes .web (unbroken tail.toList)), none, none⟩

theorem Settings.Separable.isPlain (separable : s.Separable) (web : scheme ∈ webSchemes)
    (whole : s.url.toList = scheme ++ ':' :: rest) : IsPlain s.url scheme rest where
  web
  whole
  last := by
    intro c ends
    refine separable.last c ?_
    rw [whole, getLast?_unbroken, Option.mem_def.mp ends]
    rfl
  no_query member := separable.no_query (by rw [whole]; simp [member])
  no_fragment member := separable.no_fragment (by rw [whole]; simp [member])

theorem Settings.Separable.isPlain_tail (separable : s.Separable) (web : scheme ∈ webSchemes)
    (whole : s.url.toList = scheme ++ ':' :: rest) {tail : String} (isTail : IsTail tail) :
    IsPlain (trimSlashes s.url ++ tail) scheme (rest.rdropWhile (· == '/') ++ tail.toList) := by
  obtain ⟨c, ends, visible⟩ := isTail.visible
  have plain := separable.isPlain web whole
  have absent : ∀ {mark}, mark ∉ rest → mark ∉ tail.toList → mark ∉ rest.rdropWhile (· == '/') ++ tail.toList := by
    intro mark not_rest not_tail member
    obtain trimmed | behind := List.mem_append.mp member
    · exact not_rest ((List.rdropWhile_prefix _ _).subset trimmed)
    · exact not_tail behind
  exact {
    isWeb_tail web whole ends visible with
    no_query := absent plain.no_query isTail.no_query
    no_fragment := absent plain.no_fragment isTail.no_fragment }

/-- The address of a server is read up to its last slashes as all addresses are that go on behind it. -/
theorem exists_front (separable : s.Separable) (web : scheme ∈ webSchemes)
    (whole : s.url.toList = scheme ++ ':' :: rest) {server : Url} (read : Url.parse s.url = .ok server) :
    ∃ authority path, ∃ count : Nat, s.HasFront scheme authority path ∧
      server = ⟨scheme, some authority, pathAfter .web (path ++ List.replicate count '/'), none, none⟩ := by
  obtain ⟨count, split⟩ := exists_slashes rest
  have slashes : unbroken rest = unbroken (rest.rdropWhile (· == '/')) ++ List.replicate count '/' := by
    conv_lhs => rw [split]
    rw [unbroken_append, unbroken_slashes]
  rw [(separable.isPlain web whole).parse_eq, slashes] at read
  have some_host : hostText (unbroken (rest.rdropWhile (· == '/'))) ≠ [] := by
    intro no_host
    rw [hostText_slashes no_host, readAuthority_empty] at read
    cases read
  obtain ⟨host, behind⟩ := hostText_append some_host (startsPath_slashes count)
  rw [host, behind, withSlashes_slashes] at read
  cases found : readAuthority .web scheme (hostText (unbroken (rest.rdropWhile (· == '/')))) with
  | error e => rw [found] at read; cases read
  | ok authority =>
    rw [found] at read
    refine ⟨authority, _, count, ⟨startsPath_pathText _, fun tail isTail => ?_⟩, (Except.ok.inj read).symm⟩
    obtain ⟨host, behind⟩ := hostText_append some_host isTail.path
    rw [(separable.isPlain_tail web whole isTail).parse_eq, unbroken_append, host, behind, found]
    rfl

theorem isTail_slash : IsTail "/" := ⟨startsPath_slashes 1, ⟨'/', rfl, by decide⟩, by decide, by decide⟩

variable {authority : Authority} {path : List Char}

theorem Settings.HasFront.one_slash (front : s.HasFront scheme authority path) (separable : s.Separable) :
    (Path.segments (Url.directory path)).chars.rdropWhile (· == '/') = (Path.segments (Url.directory path)).chars := by
  have one_slash := separable.directory _ (front.2 "/" isTail_slash)
  have below : pathAfter .web (path ++ withSlashes .web (unbroken "/".toList)) =
      .segments (Url.directory path ++ [[]]) := pathAfter_slash front.1 0
  simp only [below, chars_append] at one_slash
  exact rdropWhile_eq_self one_slash

/-! ### The name of a database -/

theorem Settings.Separable.mark_not_mem (separable : s.Separable) {mark : Char}
    (isMark : mark ∈ marks) : mark ∉ (s.database ++ ".json").toList := by
  have ending : ∀ mark ∈ marks, mark ∉ ".json".toList := by simp [marks]
  rw [String.toList_append, List.mem_append]
  rintro (name | behind)
  · exact separable.name mark isMark name
  · exact ending mark isMark behind

theorem name_chars (name : String) : ("/" ++ (name ++ ".json")).toList = '/' :: (name ++ ".json").toList := by
  rw [String.toList_append]
  rfl

theorem unbroken_name (separable : s.Separable) :
    unbroken (s.database ++ ".json").toList = (s.database ++ ".json").toList := by
  refine List.filter_eq_self.mpr fun c member => ?_
  have breaks : ∀ mark ∈ ['\t', '\n', '\r'], mark ∈ marks := by simp [marks]
  have other : ∀ mark ∈ ['\t', '\n', '\r'], c ≠ mark := by
    rintro _ isBreak rfl
    exact separable.mark_not_mem (breaks c isBreak) member
  simp [other]

theorem withSlashes_name (separable : s.Separable) :
    withSlashes .web (s.database ++ ".json").toList = (s.database ++ ".json").toList := by
  have same : ∀ c ∈ (s.database ++ ".json").toList, (if isSlash .web c then '/' else c) = c := by
    intro c member
    have no_slash : isSlash .web c = false := by
      have forward : c ≠ '/' := by rintro rfl; exact separable.mark_not_mem (by decide) member
      have backward : c ≠ '\\' := by rintro rfl; exact separable.mark_not_mem (by decide) member
      simp [isSlash, forward, backward]
    rw [no_slash]
    rfl
  exact (List.map_congr_left (g := id) same).trans (List.map_id _)

theorem escape_name (name : String) : escapeWhere escapedInPath (name ++ ".json").toList =
    escapeWhere escapedInPath name.toList ++ ".json".toList := by
  rw [String.toList_append, escapeWhere_append]
  rfl

theorem last_name (name : String) : (unbroken ("/" ++ (name ++ ".json")).toList).getLast? = some 'n' := by
  rw [String.toList_append, String.toList_append, unbroken_append, unbroken_append, List.getLast?_append,
    List.getLast?_append]
  rfl

theorem isTail_name (separable : s.Separable) : IsTail ("/" ++ (s.database ++ ".json")) where
  path := by
    rw [name_chars]
    intro c first
    exact (Option.some.inj first).symm
  visible := ⟨'n', last_name s.database, by decide⟩
  no_query := by
    rw [name_chars, List.mem_cons, not_or]
    exact ⟨by decide, separable.mark_not_mem (by decide)⟩
  no_fragment := by
    rw [name_chars, List.mem_cons, not_or]
    exact ⟨by decide, separable.mark_not_mem (by decide)⟩

theorem Settings.HasFront.parse_endpoint (front : s.HasFront scheme authority path) (separable : s.Separable) :
    Url.parse (endpoint s) = .ok ⟨scheme, some authority,
      .segments (Url.directory path ++ [escapeWhere escapedInPath (s.database ++ ".json").toList]), none, none⟩ := by
  have last : (escapeWhere escapedInPath (s.database ++ ".json").toList).getLast? = some 'n' := by
    rw [escape_name, List.getLast?_append]
    rfl
  obtain ⟨not_above, not_here⟩ := not_directory last (by decide)
  have tail : withSlashes .web (unbroken ("/" ++ (s.database ++ ".json")).toList) =
      '/' :: (s.database ++ ".json").toList := by
    rw [name_chars, ← List.singleton_append, unbroken_append, unbroken_name separable, withSlashes_append,
      withSlashes_name separable]
    rfl
  rw [endpoint_eq, front.2 _ (isTail_name separable), tail,
    pathAfter_name front.1 (separable.mark_not_mem (by decide)) not_above not_here]

/-! ### Requests -/

theorem parse_of_accepted {client : Client} (accepted : Client.ofSettings s = .ok client) :
    Url.parse (endpoint s) = .ok client.url ∧ client.settings = s := by
  rw [Client.ofSettings] at accepted
  cases read : Url.parse (endpoint s) with
  | error e => rw [read] at accepted; cases accepted
  | ok url =>
    rw [read] at accepted
    obtain rfl := Except.ok.inj accepted
    exact ⟨rfl, rfl⟩

/-- A usable configuration names its server by an address of the web. -/
theorem webScheme_of_usable {config : Configuration} (usable : config.fault? = none) :
    ∃ scheme ∈ webSchemes, ∃ rest, config.datasette.url.toList = scheme ++ ':' :: rest := by
  have unfound : config.checks.find? (·.1) = none := Option.map_eq_none_iff.mp usable
  have http : ¬(!Configuration.isHttp config.datasette.url) = true :=
    List.find?_eq_none.mp unfound (!Configuration.isHttp config.datasette.url, .urlIsNotHttp config.datasette.url)
      (by simp [Configuration.checks])
  rw [Bool.not_eq_true', Bool.not_eq_false, Configuration.isHttp, Bool.or_eq_true, List.isPrefixOf_iff_prefix,
    List.isPrefixOf_iff_prefix] at http
  obtain ⟨behind, same⟩ | ⟨behind, same⟩ := http
  · exact ⟨"http".toList, by decide, '/' :: '/' :: behind, same.symm⟩
  · exact ⟨"https".toList, by decide, '/' :: '/' :: behind, same.symm⟩

variable {config : Configuration}

/-- A request goes to its database below the address of its server, unless one of them has a mark in it that means
something else in the address of both. -/
theorem queryUrl_reaches (usable : config.fault? = none) (separable : config.datasette.Separable) {server : Url}
    (read : Url.parse config.datasette.url = .ok server) :
    ∃ client, Client.ofSettings config.datasette = .ok client ∧
      (∀ q, Reaches server config.datasette.database (queryPairs config.datasette.mode q) (client.queryUrl q)) ∧
      ('%' ∉ config.datasette.database.toList →
        Text.decodeSegment? (escapeWhere escapedInPath config.datasette.database.toList) =
          some config.datasette.database) := by
  obtain ⟨scheme, web, rest, whole⟩ := webScheme_of_usable usable
  obtain ⟨authority, path, count, front, rfl⟩ := exists_front separable web whole read
  obtain ⟨more, segments⟩ := pathAfter_slashes front.1 count
  refine ⟨⟨config.datasette, _⟩, by rw [Client.ofSettings, front.parse_endpoint separable], fun q => ?_,
    fun no_percent => ?_⟩
  · refine ⟨rfl, rfl, ?_, rfl, rfl⟩
    have one : ∀ part, (Path.segments [part]).chars = '/' :: part := by simp [Path.chars]
    change (Path.segments (Url.directory path ++ [_])).chars = (pathAfter .web _).chars.rdropWhile _ ++ _
    rw [segments, chars_append, chars_append, chars_replicate, rdropWhile_slashes, front.one_slash separable, one,
      escape_name]
  · rw [decodeSegment?_escapeWhere no_percent, String.ofList_toList]

def localServer (path : List (List Char)) : Url :=
  ⟨"http".toList, some ⟨[], [], .ipv4 ⟨127, 0, 0, 1⟩, some 8001⟩, .segments path, none, none⟩

def spaced : Configuration where
  host := "127.0.0.1"
  port := 5390
  datasette := ⟨"http://127.0.0.1:8001/maps/../geo//", "in use", 30, .bound, 1⟩

theorem spaced_separable : spaced.datasette.Separable where
  no_query := by decide
  no_fragment := by decide
  last := by
    intro c ends
    obtain rfl : '/' = c := Option.some.inj ends
    decide
  directory := by
    have read : Url.parse (trimSlashes spaced.datasette.url ++ "/") = .ok (localServer ["geo".toList, []]) := rfl
    intro directory same
    rw [read] at same
    obtain rfl := Except.ok.inj same
    decide
  name := by simp [spaced, marks]

theorem spaced_reaches : spaced.fault? = none ∧ spaced.datasette.Separable ∧
    Url.parse spaced.datasette.url = .ok (localServer ["geo".toList, [], []]) ∧
    ∃ client, Client.ofSettings spaced.datasette = .ok client ∧
      (∀ q, Reaches (localServer ["geo".toList, [], []]) "in use" (queryPairs .bound q) (client.queryUrl q)) ∧
      ('%' ∉ "in use".toList →
        Text.decodeSegment? (escapeWhere escapedInPath "in use".toList) = some "in use") :=
  ⟨rfl, spaced_separable, rfl, queryUrl_reaches rfl spaced_separable rfl⟩

/-! ### Marks -/

theorem mark_mem_endpoint {mark : Char} (isMark : mark ∈ ['?', '#']) (web : scheme ∈ webSchemes)
    (whole : s.url.toList = scheme ++ ':' :: rest) (marked : mark ∈ s.url.toList ∨ mark ∈ s.database.toList) :
    mark ∈ unbroken (rest.rdropWhile (· == '/') ++ ("/" ++ (s.database ++ ".json")).toList) := by
  have kept : ∀ mark ∈ ['?', '#'], (mark != '\t' && mark != '\n' && mark != '\r') = true := by simp
  refine List.mem_filter.mpr ⟨?_, kept mark isMark⟩
  rw [String.toList_append, String.toList_append, List.mem_append, List.mem_append, List.mem_append]
  obtain address | name := marked
  · have elsewhere : ∀ scheme ∈ webSchemes, ∀ mark ∈ ['?', '#'], mark ∉ scheme ++ [':'] := by
      simp [webSchemes]
    have not_slash : ∀ mark ∈ ['?', '#'], mark ≠ '/' := by simp
    obtain ⟨count, split⟩ := exists_slashes rest
    rw [whole, split, List.append_cons] at address
    obtain front | behind := List.mem_append.mp address
    · exact absurd front (elsewhere scheme web mark isMark)
    · obtain trimmed | slashes := List.mem_append.mp behind
      · exact .inl trimmed
      · exact absurd (List.eq_of_mem_replicate slashes) (not_slash mark isMark)
  · exact .inr (.inr (.inl name))

/-- Where a question mark or a number sign stands in the address of the server or in the name, no request reaches the
database. -/
theorem not_reaches_of_mark (usable : config.fault? = none) {mark : Char} (isMark : mark ∈ ['?', '#'])
    (marked : mark ∈ config.datasette.url.toList ∨ mark ∈ config.datasette.database.toList) {client : Client}
    (accepted : Client.ofSettings config.datasette = .ok client) (server : Url) (q : Query) :
    ¬Reaches server config.datasette.database (queryPairs config.datasette.mode q) (client.queryUrl q) := by
  intro reaches
  obtain ⟨scheme, web, rest, whole⟩ := webScheme_of_usable usable
  obtain ⟨read, settings⟩ := parse_of_accepted accepted
  have ends := last_name config.datasette.database
  have last : (unbroken (rest.rdropWhile (· == '/') ++
      ("/" ++ (config.datasette.database ++ ".json")).toList)).getLast? = some 'n' := by
    rw [unbroken_append, List.getLast?_append, ends]
    rfl
  have member := mark_mem_endpoint isMark web whole marked
  simp only [List.mem_cons, List.not_mem_nil, or_false] at isMark
  have present := isMark.imp (fun question => question ▸ member) (fun sign => sign ▸ member)
  rw [endpoint_eq] at read
  have address := isWeb_tail web whole ends (by decide)
  obtain signed | ⟨query, some_char, asked⟩ :=
    address.query_or_fragment read last (by decide) (by decide) present
  · exact signed reaches.fragment
  · have sent := reaches.query
    -- what was there already stands before the pairs that are added
    rw [Client.queryUrl, settings, Url.addPairs, asked] at sent
    have before : query ++ ['&'] ++ Text.Form.encodePairs (queryPairs config.datasette.mode q) =
        Text.Form.encodePairs (queryPairs config.datasette.mode q) := by
      simpa [some_char] using sent
    exact absurd (List.append_left_eq_self.mp before) (by simp)

def misnamed : Configuration where
  host := "127.0.0.1"
  port := 5390
  datasette := ⟨"http://127.0.0.1:8001", "a?b", 30, .bound, 1⟩

/-- The question mark of a name ends the path, and what follows it stands among the pairs. -/
theorem misnamed_not_reached : misnamed.fault? = none ∧ ∃ client, Client.ofSettings misnamed.datasette = .ok client ∧
    Url.parse misnamed.datasette.url = .ok (localServer [[]]) ∧
    ∀ q, ¬Reaches (localServer [[]]) "a?b" (queryPairs .bound q) (client.queryUrl q) ∧
      (client.queryUrl q).path.chars = "/a".toList ∧
      (client.queryUrl q).pairs = ("b.json", "") :: queryPairs .bound q := by
  have usable : misnamed.fault? = none := rfl
  have accepted : Client.ofSettings misnamed.datasette =
      .ok ⟨misnamed.datasette, { localServer ["a".toList] with query := some "b.json".toList }⟩ := rfl
  refine ⟨usable, _, accepted, rfl, fun q => ⟨?_, rfl, ?_⟩⟩
  · have question : '?' ∈ misnamed.datasette.database.toList := by decide
    exact not_reaches_of_mark usable (by decide) (.inr question) accepted _ q
  · rw [Client.queryUrl, pairs_addPairs]
    rfl

end Gazetteer.Datasette
