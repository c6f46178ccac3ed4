import Gazetteer.Proofs.Url.Directory
import Mathlib.Data.List.DropRight

/-!
Addresses of the web as texts.  What begins with a slash behind such an address changes nothing before it, up to the
first question mark, which begins a query, and the first number sign, which begins a fragment.
-/

namespace Gazetteer.Url

/-! ### Authorities -/

/-- What stands behind the scheme of an address of the web, without the slashes in front. -/
def located (cs : List Char) : List Char := (withSlashes .web cs).dropWhile (· == '/')

def hostText (cs : List Char) : List Char := (located cs).takeWhile (· != '/')

def pathText (cs : List Char) : List Char := (located cs).dropWhile (· != '/')

theorem withSlashes_append (kind : Kind) (cs ds : List Char) :
    withSlashes kind (cs ++ ds) = withSlashes kind cs ++ withSlashes kind ds := List.map_append

theorem startsPath_pathText (cs : List Char) : StartsPath (pathText cs) := by
  intro c first
  have stopped := List.head?_dropWhile_not (· != '/') (located cs)
  rw [← pathText, first] at stopped
  simpa using stopped

theorem StartsPath.withSlashes {cs : List Char} (path : StartsPath cs) : StartsPath (withSlashes .web cs) := by
  cases cs with
  | nil => exact path
  | cons c cs =>
    obtain rfl := path c rfl
    intro c first
    exact (Option.some.inj first).symm

theorem located_append {cs : List Char} (some_host : hostText cs ≠ []) (tail : List Char) :
    located (cs ++ tail) = located cs ++ withSlashes .web tail := by
  have some_char : ¬(located cs).isEmpty := by
    intro empty
    rw [hostText, List.isEmpty_iff.mp empty] at some_host
    exact some_host rfl
  rw [located, withSlashes_append, List.dropWhile_append, ← located, if_neg some_char]

/-- An authority ends where a path begins. -/
theorem hostText_append {cs tail : List Char} (some_host : hostText cs ≠ []) (path : StartsPath tail) :
    hostText (cs ++ tail) = hostText cs ∧ pathText (cs ++ tail) = pathText cs ++ withSlashes .web tail := by
  have whole : located (cs ++ tail) = hostText cs ++ (pathText cs ++ withSlashes .web tail) := by
    rw [located_append some_host, ← List.append_assoc, hostText, pathText, List.takeWhile_append_dropWhile]
  have host : ∀ c ∈ hostText cs, (c != '/') = true := fun c => List.mem_takeWhile_imp (p := (· != '/'))
  obtain ⟨taken, left⟩ := ((startsPath_pathText cs).append path.withSlashes).takeWhile
  constructor
  · rw [hostText, whole, List.takeWhile_append_of_pos host, taken, List.append_nil]
  · rw [pathText, whole, List.dropWhile_append_of_pos host, left]

theorem withSlashes_slashes (count : Nat) : withSlashes .web (List.replicate count '/') = List.replicate count '/' := by
  rw [withSlashes, List.map_replicate]
  rfl

/-- Slashes behind a text without a host leave it without one. -/
theorem hostText_slashes {cs : List Char} (no_host : hostText cs = []) (count : Nat) :
    hostText (cs ++ List.replicate count '/') = [] := by
  have nothing : located cs = [] := by
    cases left : located cs with
    | nil => rfl
    | cons c rest =>
      have stopped := List.head?_dropWhile_not (· == '/') (withSlashes .web cs)
      rw [← located, left] at stopped
      have different : (c != '/') = true := by simpa using stopped
      rw [hostText, left, List.takeWhile_cons_of_pos (p := (· != '/')) different] at no_host
      cases no_host
  have all_slashes : located (cs ++ List.replicate count '/') = [] := by
    rw [located, withSlashes_append, withSlashes_slashes, List.dropWhile_append, ← located, nothing]
    simp
  rw [hostText, all_slashes]
  rfl

theorem readWeb_eq (scheme cs : List Char) : readWeb scheme cs =
    (readAuthority .web scheme (hostText cs)).map fun a => (some a, pathAfter .web (pathText cs)) := rfl

/-! ### Whole texts -/

def unbroken (cs : List Char) : List Char := cs.filter fun c => c != '\t' && c != '\n' && c != '\r'

theorem unbroken_append (cs ds : List Char) : unbroken (cs ++ ds) = unbroken cs ++ unbroken ds :=
  List.filter_append cs ds

theorem unbroken_blanks {cs blanks : List Char} (blank : ∀ c ∈ blanks, c.toNat ≤ 0x20)
    (last : ∀ c ∈ (unbroken (cs ++ blanks)).getLast?, 0x20 < c.toNat) : unbroken blanks = [] := by
  cases ends : (unbroken blanks).getLast? with
  | none => exact List.getLast?_eq_none_iff.mp ends
  | some c =>
    have low := blank c (List.mem_of_mem_filter (List.mem_of_getLast? ends))
    have high := last c (by rw [unbroken_append, List.getLast?_append, ends]; exact Option.mem_some_self c)
    exact absurd low (Nat.not_le_of_lt high)

/-- Where a visible character is left at the end, nothing but tabs and line breaks is dropped. -/
theorem cleanText_eq {cs : List Char} (first : ∀ c ∈ cs.head?, 0x20 < c.toNat)
    (last : ∀ c ∈ (unbroken cs).getLast?, 0x20 < c.toNat) : cleanText cs = unbroken cs := by
  have begins : cs.dropWhile (·.toNat ≤ 0x20) = cs := by
    cases cs with
    | nil => rfl
    | cons c cs =>
      have visible := first c rfl
      rw [List.dropWhile_cons, if_neg]
      simpa using visible
  have parts := List.rdropWhile_append_rtakeWhile (p := fun c : Char => decide (c.toNat ≤ 0x20)) (l := cs)
  have blank : ∀ c ∈ cs.rtakeWhile fun c => decide (c.toNat ≤ 0x20), c.toNat ≤ 0x20 :=
    fun c member => by simpa using List.mem_rtakeWhile_imp member
  have dropped : unbroken (cs.rtakeWhile fun c => decide (c.toNat ≤ 0x20)) = [] :=
    unbroken_blanks blank (by rwa [parts])
  have cut : cleanText cs = unbroken (cs.rdropWhile fun c => decide (c.toNat ≤ 0x20)) := by
    rw [cleanText, begins]
    rfl
  have whole := congrArg unbroken parts
  rwa [unbroken_append, dropped, List.append_nil, ← cut] at whole

def webSchemes : List (List Char) := ["http".toList, "https".toList]

theorem splitScheme?_web {scheme : List Char} (web : scheme ∈ webSchemes) (rest : List Char) :
    splitScheme? (scheme ++ ':' :: rest) = some (scheme, rest) := by
  have named : ':' ∉ scheme ∧ scheme.head?.any Char.isAlpha = true ∧ scheme.all isSchemeChar = true ∧
      scheme.map Char.toLower = scheme := by
    revert scheme
    decide
  obtain ⟨no_colon, letter, letters, lower⟩ := named
  rw [splitScheme?, Text.splitAtFirst_append no_colon]
  simp [letter, letters, lower]

theorem kind_web {scheme : List Char} (web : scheme ∈ webSchemes) : kind scheme = .web := by
  revert scheme
  decide

theorem getLast?_unbroken (scheme rest : List Char) :
    (unbroken (scheme ++ ':' :: rest)).getLast? = some ((unbroken rest).getLast?.getD ':') := by
  have colon : unbroken (':' :: rest) = ':' :: unbroken rest := rfl
  rw [unbroken_append, colon, List.getLast?_append, List.getLast?_cons, Option.some_or]

theorem cleanText_web {scheme : List Char} (web : scheme ∈ webSchemes) {rest : List Char}
    (last : ∀ c ∈ (unbroken rest).getLast?, 0x20 < c.toNat) :
    cleanText (scheme ++ ':' :: rest) = scheme ++ ':' :: unbroken rest := by
  have kept : ∀ scheme ∈ webSchemes, unbroken scheme = scheme := by decide
  have letter : ∀ scheme ∈ webSchemes, ∃ c ∈ scheme.head?, 0x20 < c.toNat := by simp [webSchemes]
  have first : ∀ c ∈ (scheme ++ ':' :: rest).head?, 0x20 < c.toNat := by
    obtain ⟨c, begins, visible⟩ := letter scheme web
    intro d first
    rw [List.head?_append, Option.mem_def.mp begins, Option.some_or] at first
    exact Option.some.inj first ▸ visible
  rw [cleanText_eq first, unbroken_append, kept scheme web]
  · rfl
  · intro c ends
    rw [getLast?_unbroken] at ends
    obtain rfl := Option.some.inj ends
    cases behind : (unbroken rest).getLast? with
    | none => exact show 0x20 < ':'.toNat by decide
    | some d => exact last d behind

structure IsWeb (s : String) (scheme rest : List Char) : Prop where
  web : scheme ∈ webSchemes
  whole : s.toList = scheme ++ ':' :: rest
  last : ∀ c ∈ (unbroken rest).getLast?, 0x20 < c.toNat

theorem IsWeb.parse_eq {s : String} {scheme rest : List Char} (address : IsWeb s scheme rest) :
    parse s = (readWeb scheme (Text.splitAtFirst '?' (Text.splitAtFirst '#' (unbroken rest)).1).1).map fun parts =>
      { scheme, authority := parts.1, path := parts.2
        query := (partAfter? '?' (Text.splitAtFirst '#' (unbroken rest)).1).map (escapeWhere escapedInWebQuery)
        fragment := (partAfter? '#' (unbroken rest)).map (escapeWhere escapedInFragment) } := by
  simp only [parse, address.whole, cleanText_web address.web address.last, splitScheme?_web address.web,
    readAfterScheme, kind_web address.web]
  rfl

/-- The first number sign begins a fragment, and the first question mark before it a query. -/
theorem IsWeb.of_parse {s : String} {scheme rest : List Char} (address : IsWeb s scheme rest) {url : Url}
    (read : parse s = .ok url) :
    url.fragment = (partAfter? '#' (unbroken rest)).map (escapeWhere escapedInFragment) ∧
      url.query = (partAfter? '?' (Text.splitAtFirst '#' (unbroken rest)).1).map (escapeWhere escapedInWebQuery) := by
  rw [address.parse_eq] at read
  cases parts : readWeb scheme (Text.splitAtFirst '?' (Text.splitAtFirst '#' (unbroken rest)).1).1 with
  | error e => rw [parts] at read; cases read
  | ok found =>
    rw [parts] at read
    obtain rfl := Except.ok.inj read
    exact ⟨rfl, rfl⟩

theorem partAfter?_of_mem {mark c : Char} {cs : List Char} (member : mark ∈ cs) (last : cs.getLast? = some c)
    (other : c ≠ mark) : ∃ behind, partAfter? mark cs = some behind ∧ behind ≠ [] := by
  obtain ⟨before, behind, rfl, absent⟩ := List.eq_append_cons_of_mem member
  refine ⟨behind, by simp [partAfter?, Text.splitAtFirst_append absent], ?_⟩
  rintro rfl
  rw [List.getLast?_concat] at last
  exact other (Option.some.inj last).symm

/-- With a question mark or a number sign that is not its end, an address has a fragment or a query with a text. -/
theorem IsWeb.query_or_fragment {s : String} {scheme rest : List Char} (address : IsWeb s scheme rest) {url : Url}
    (read : parse s = .ok url) {c : Char} (last : (unbroken rest).getLast? = some c) (question : c ≠ '?')
    (sign : c ≠ '#') (marked : '?' ∈ unbroken rest ∨ '#' ∈ unbroken rest) :
    url.fragment ≠ none ∨ ∃ query ≠ [], url.query = some query := by
  obtain ⟨fragment, query⟩ := address.of_parse read
  by_cases signed : '#' ∈ unbroken rest
  · obtain ⟨behind, found, -⟩ := partAfter?_of_mem signed last sign
    refine .inl ?_
    rw [fragment, found]
    exact Option.some_ne_none _
  · obtain ⟨behind, found, some_char⟩ := partAfter?_of_mem (marked.resolve_right signed) last question
    rw [Text.splitAtFirst_of_not_mem signed, found] at query
    exact .inr ⟨_, escapeWhere_ne_nil escapedInWebQuery some_char, query⟩

structure IsPlain (s : String) (scheme rest : List Char) : Prop extends IsWeb s scheme rest where
  no_query : '?' ∉ rest
  no_fragment : '#' ∉ rest

theorem IsPlain.parse_eq {s : String} {scheme rest : List Char} (plain : IsPlain s scheme rest) :
    parse s = (readAuthority .web scheme (hostText (unbroken rest))).map fun a =>
      ⟨scheme, some a, pathAfter .web (pathText (unbroken rest)), none, none⟩ := by
  have no_query : '?' ∉ unbroken rest := fun member => plain.no_query (List.mem_of_mem_filter member)
  have no_fragment : '#' ∉ unbroken rest := fun member => plain.no_fragment (List.mem_of_mem_filter member)
  have query : partAfter? '?' (unbroken rest) = none := by simp [partAfter?, no_query]
  have fragment : partAfter? '#' (unbroken rest) = none := by simp [partAfter?, no_fragment]
  rw [plain.toIsWeb.parse_eq]
  simp only [Text.splitAtFirst_of_not_mem no_fragment, Text.splitAtFirst_of_not_mem no_query, query, fragment,
    readWeb_eq]
  cases readAuthority .web scheme (hostText (unbroken rest)) <;> rfl

theorem readAuthority_empty (scheme : List Char) : readAuthority .web scheme [] = .error .emptyHost := rfl

end Gazetteer.Url
