import Gazetteer.Proofs.Text.Form
import Gazetteer.Proofs.Text.Split
import Gazetteer.Url.Parser

/-!
Paths below a directory.  A name behind one more slash is one more segment, and is read back from its escaped form;
what stands before it is resolved as if nothing followed.
-/

namespace Gazetteer.Url

/-! ### Escaped names -/

theorem escapeWhere_append (isEscaped : Nat → Bool) (cs ds : List Char) :
    escapeWhere isEscaped (cs ++ ds) = escapeWhere isEscaped cs ++ escapeWhere isEscaped ds := by
  rw [escapeWhere, Text.encode_append, List.flatMap_append]
  rfl

theorem le_of_mem_encodeChar {c : Char} (beyond : 0x80 ≤ c.toNat) {b : UInt8} (member : b ∈ Text.Utf8.encodeChar c) :
    0x80 ≤ b.toNat := by
  have range := Text.Utf8.code_range c
  have codes : ∀ ns : List Nat, (∀ n ∈ ns, 0x80 ≤ n ∧ n < 0x100) → b ∈ ns.map UInt8.ofNat → 0x80 ≤ b.toNat := by
    intro ns high coded
    obtain ⟨n, present, rfl⟩ := List.mem_map.mp coded
    have bounds := high n present
    rw [UInt8.toNat_ofNat']
    omega
  simp only [Text.Utf8.encodeChar, if_neg (Nat.not_lt_of_le beyond)] at member
  split at member
  · exact codes [_, _] (by simp; omega) member
  · split at member
    · exact codes [_, _, _] (by simp; omega) member
    · exact codes [_, _, _, _] (by simp; omega) member

/-- A byte of ASCII is a character of the text. -/
theorem mem_of_mem_encode {b : UInt8} (ascii : b.toNat < 0x80) {cs : List Char} (member : b ∈ Text.Utf8.encode cs) :
    Char.ofNat b.toNat ∈ cs := by
  obtain ⟨c, present, coded⟩ := List.mem_flatMap.mp member
  by_cases low : c.toNat < 0x80
  · simp only [Text.Utf8.encodeChar, if_pos low, List.mem_singleton] at coded
    have same : b.toNat = c.toNat := by
      rw [coded, UInt8.toNat_ofNat']
      omega
    rw [same, Char.ofNat_toNat]
    exact present
  · exact absurd (le_of_mem_encodeChar (Nat.le_of_not_lt low) coded) (by omega)

theorem allSome_map_some (cs : List Char) : Text.Utf8.allSome (cs.map some) = some cs := by
  induction cs with
  | nil => rfl
  | cons c cs ih => rw [List.map_cons, Text.Utf8.allSome, ih]; rfl

theorem escapeWhere_ne_nil (isEscaped : Nat → Bool) {cs : List Char} (some_char : cs ≠ []) :
    escapeWhere isEscaped cs ≠ [] := by
  obtain ⟨c, cs, rfl⟩ := List.exists_cons_of_ne_nil some_char
  have some_byte : ∃ b bs, Text.Utf8.encode (c :: cs) = b :: bs := by
    rw [Text.Utf8.encode, List.flatMap_cons, Text.Utf8.encodeChar]
    split
    · exact ⟨_, _, rfl⟩
    · split
      · exact ⟨_, _, rfl⟩
      · split <;> exact ⟨_, _, rfl⟩
  obtain ⟨b, bs, bytes⟩ := some_byte
  rw [escapeWhere, bytes, List.flatMap_cons]
  split
  · exact List.cons_ne_nil _ _
  · exact List.cons_ne_nil _ _

/-- A name without percent signs is read back from its escaped form. -/
theorem decodeSegment?_escapeWhere {cs : List Char} (no_percent : '%' ∉ cs) :
    Text.decodeSegment? (escapeWhere escapedInPath cs) = some (.ofList cs) := by
  have coded : Text.Utf8.encode (escapeWhere escapedInPath cs) = (Text.Utf8.encode cs).flatMap fun b =>
      Text.Utf8.encode (if escapedInPath b.toNat then Text.escapeByte b else [Char.ofNat b.toNat]) := by
    rw [escapeWhere, Text.Utf8.encode, List.flatMap_assoc]
    rfl
  have each : ∀ b ∈ Text.Utf8.encode cs, ∀ rest, Text.unescape
      (Text.Utf8.encode (if escapedInPath b.toNat then Text.escapeByte b else [Char.ofNat b.toNat]) ++ rest) =
        b :: Text.unescape rest := by
    intro b member rest
    split
    next => exact Text.unescape_escapeByte b rest
    next plain =>
      have ascii : b.toNat < 0x80 := by
        simp [escapedInPath, escapedInFragment, isControl] at plain
        omega
      have other : b ≠ 0x25 := by
        rintro rfl
        exact no_percent (mem_of_mem_encode ascii member)
      rw [Text.encode_asciiChar ascii, UInt8.ofNat_toNat, List.singleton_append, Text.unescape_cons other]
  rw [Text.decodeSegment?, coded, Text.unescape_flatMap each, Text.Utf8.decode?, Text.Utf8.scan_encode,
    allSome_map_some]
  rfl

/-! ### Segments -/

/-- Follows segments that have others behind them, from a directory whose segments are given last first. -/
def follow : List (List Char) → List (List Char) → List (List Char)
  | stack, [] => stack
  | stack, segment :: rest =>
    if isAbove segment then follow (stack.drop 1) rest
    else if isHere segment then follow stack rest
    else follow (segment :: stack) rest

theorem resolveSegments_append (stack segments : List (List Char)) {behind : List (List Char)}
    (some_behind : behind ≠ []) :
    resolveSegments stack (segments ++ behind) = resolveSegments (follow stack segments) behind := by
  induction segments generalizing stack with
  | nil => rfl
  | cons segment rest ih =>
    have more : rest ++ behind ≠ [] := List.append_ne_nil_of_right_ne_nil rest some_behind
    obtain ⟨next, others, same⟩ := List.exists_cons_of_ne_nil more
    rw [List.cons_append, same, resolveSegments, ← same, ih, ih, ih, follow]
    · split
      · rfl
      · split <;> rfl
    · simp

theorem resolveSegments_plain (stack : List (List Char)) {name : List Char} (not_above : isAbove name = false)
    (not_here : isHere name = false) : resolveSegments stack [name] = stack.reverse ++ [name] := by
  simp [resolveSegments, not_above, not_here]

theorem resolveSegments_empty (stack : List (List Char)) (count : Nat) :
    resolveSegments stack (List.replicate (count + 1) []) = stack.reverse ++ List.replicate (count + 1) [] := by
  have plain : isAbove [] = false ∧ isHere [] = false := by decide
  induction count generalizing stack with
  | zero => exact resolveSegments_plain stack plain.1 plain.2
  | succ count ih =>
    rw [List.replicate_succ, ← List.singleton_append, resolveSegments_append stack [[]] (by simp), ih]
    simp [follow, plain]

theorem follow_append (stack segments behind : List (List Char)) :
    follow stack (segments ++ behind) = follow (follow stack segments) behind := by
  induction segments generalizing stack with
  | nil => rfl
  | cons segment rest ih =>
    rw [List.cons_append, follow, follow, ih, ih, ih]
    split
    · rfl
    · split <;> rfl

/-- A path that ends in a segment for a directory has a slash at its end. -/
theorem resolveSegments_eq (stack : List (List Char)) {segments : List (List Char)} (some_segment : segments ≠ []) :
    ∃ count, resolveSegments stack segments = (follow stack segments).reverse ++ List.replicate count [] := by
  obtain ⟨front, last, rfl⟩ := (List.eq_nil_or_concat segments).resolve_left some_segment
  rw [List.concat_eq_append, resolveSegments_append stack front (by simp), follow_append]
  by_cases above : isAbove last = true
  · exact ⟨1, by simp [resolveSegments, follow, above]⟩
  · by_cases here : isHere last = true
    · exact ⟨1, by simp [resolveSegments, follow, above, here]⟩
    · exact ⟨0, by simp [resolveSegments, follow, above, here]⟩

/-- A segment for a directory ends in a full stop, or in the code of one. -/
theorem not_directory {segment : List Char} {c : Char} (last : segment.getLast? = some c)
    (other : c.toLower ≠ '.' ∧ c.toLower ≠ 'e') : isAbove segment = false ∧ isHere segment = false := by
  have ends : (segment.map Char.toLower).getLast? = some c.toLower := by
    rw [List.getLast?_map, last]
    rfl
  have different : ∀ {texts : List String},
      (∀ text ∈ texts, text.toList.getLast? = some '.' ∨ text.toList.getLast? = some 'e') →
      texts.any (·.toList == segment.map Char.toLower) = false := by
    intro texts dots
    refine List.any_eq_false.mpr fun text member same => ?_
    have dot := dots text member
    rw [beq_iff_eq.mp same, ends, Option.some.injEq, Option.some.injEq] at dot
    exact dot.elim other.1 other.2
  exact ⟨different (by decide), different (by decide)⟩

/-! ### Paths -/

/-- A path behind an authority is empty or begins with a slash. -/
def StartsPath (cs : List Char) : Prop := ∀ c ∈ cs.head?, c = '/'

theorem StartsPath.append {cs ds : List Char} (left : StartsPath cs) (right : StartsPath ds) :
    StartsPath (cs ++ ds) := by
  cases cs with
  | nil => exact right
  | cons c cs => exact left

theorem StartsPath.takeWhile {cs : List Char} (path : StartsPath cs) :
    cs.takeWhile (· != '/') = [] ∧ cs.dropWhile (· != '/') = cs := by
  cases cs with
  | nil => exact ⟨rfl, rfl⟩
  | cons c cs =>
    obtain rfl := path c rfl
    exact ⟨rfl, rfl⟩

theorem startsPath_slashes (count : Nat) : StartsPath (List.replicate count '/') := by
  intro c first
  exact List.eq_of_mem_replicate (List.mem_of_mem_head? first)

def parts : List Char → List (List Char)
  | [] => []
  | _ :: path => (path.splitOn '/').map (escapeWhere escapedInPath)

def directory (cs : List Char) : List (List Char) := (follow [] (parts cs)).reverse

theorem segmentsOf_below {cs : List Char} (path : StartsPath cs) (rest : List Char) :
    segmentsOf (dropSlash (cs ++ '/' :: rest)) =
      resolveSegments (directory cs).reverse ((rest.splitOn '/').map (escapeWhere escapedInPath)) := by
  have some_part : (rest.splitOn '/').map (escapeWhere escapedInPath) ≠ [] := by
    simp [List.splitOn_ne_nil]
  rw [directory, List.reverse_reverse, ← resolveSegments_append [] _ some_part]
  cases cs with
  | nil => rfl
  | cons c cs =>
    obtain rfl := path c rfl
    rw [List.cons_append, dropSlash, segmentsOf, Text.splitOn_append_cons, List.map_append]
    rfl

theorem splitOn_slashes (count : Nat) :
    (List.replicate count '/').splitOn '/' = List.replicate (count + 1) [] := by
  induction count with
  | zero => rfl
  | succ count ih => simp [List.replicate_succ, List.splitOn_cons_eq_if_modifyHead, ih]

theorem pathAfter_web (cs : List Char) : pathAfter .web cs = .segments (segmentsOf (dropSlash cs)) := by
  simp [pathAfter]

theorem pathAfter_name {cs name : List Char} (path : StartsPath cs) (single : '/' ∉ name)
    (not_above : isAbove (escapeWhere escapedInPath name) = false)
    (not_here : isHere (escapeWhere escapedInPath name) = false) :
    pathAfter .web (cs ++ '/' :: name) = .segments (directory cs ++ [escapeWhere escapedInPath name]) := by
  have one : (name.splitOn '/').map (escapeWhere escapedInPath) = [escapeWhere escapedInPath name] := by
    rw [List.splitOn_eq_singleton single]
    rfl
  rw [pathAfter_web, segmentsOf_below path, one, resolveSegments_plain _ not_above not_here, List.reverse_reverse]

theorem pathAfter_slash {cs : List Char} (path : StartsPath cs) (count : Nat) :
    pathAfter .web (cs ++ '/' :: List.replicate count '/') =
      .segments (directory cs ++ List.replicate (count + 1) []) := by
  have empty : (List.replicate (count + 1) []).map (escapeWhere escapedInPath) = List.replicate (count + 1) [] := by
    rw [List.map_replicate]
    rfl
  rw [pathAfter_web, segmentsOf_below path, splitOn_slashes, empty, resolveSegments_empty, List.reverse_reverse]

theorem pathAfter_slashes {cs : List Char} (path : StartsPath cs) (count : Nat) :
    ∃ more, pathAfter .web (cs ++ List.replicate count '/') = .segments (directory cs ++ List.replicate more []) := by
  cases count with
  | succ count => exact ⟨count + 1, pathAfter_slash path count⟩
  | zero =>
    rw [List.replicate_zero, List.append_nil, pathAfter_web]
    cases cs with
    | nil => exact ⟨1, rfl⟩
    | cons c cs =>
      obtain rfl := path c rfl
      have some_part : (cs.splitOn '/').map (escapeWhere escapedInPath) ≠ [] := by
        simp [List.splitOn_ne_nil]
      obtain ⟨more, resolved⟩ := resolveSegments_eq [] some_part
      refine ⟨more, ?_⟩
      rw [dropSlash, segmentsOf, resolved]
      rfl

theorem chars_append (parts others : List (List Char)) :
    (Path.segments (parts ++ others)).chars = (Path.segments parts).chars ++ (Path.segments others).chars :=
  List.flatMap_append

theorem chars_replicate (count : Nat) : (Path.segments (List.replicate count [])).chars = List.replicate count '/' := by
  induction count with
  | zero => rfl
  | succ count ih =>
    rw [List.replicate_succ, List.replicate_succ, ← ih]
    rfl

end Gazetteer.Url
