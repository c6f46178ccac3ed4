import Gazetteer.Files.Place
import Gazetteer.Proofs.Text.Split

/-!
Where expanded paths lead.  Joining puts the parts of a relative path behind those of its base, so that what
follows a tilde and a slash leads on from the home directory.  A second slash there begins a path from the
root, and joining forgets the home directory.
-/

namespace Gazetteer

namespace Path

/-! ### Parts -/

inductive Part where
  | root
  /-- A dot that a relative path begins with; all others count for nothing. -/
  | here
  | up
  | name (name : Name)
  deriving DecidableEq, Repr

def Part.ofName (name : Name) : Part := if name = parent then .up else .name name

def start (path : String) : List Part :=
  if isAbsolute path then [.root]
  else if (path.toList.splitOn '/').head? = some ['.'] then [.here]
  else []

def parts (path : String) : List Part := start path ++ (names path).map .ofName

def Below (directory path : String) : Prop := parts directory <+: parts path

instance (directory path : String) : Decidable (Below directory path) :=
  inferInstanceAs (Decidable (parts directory <+: parts path))

variable {base path : String}

theorem parts_of_isAbsolute (absolute : isAbsolute path = true) : parts path = .root :: (names path).map .ofName := by
  rw [parts, start, if_pos absolute, List.singleton_append]

example : parts "/srv/./café//.." = [.root, .name "srv".toList, .name "café".toList, .up] := by decide

/-! ### Joining -/

theorem join_of_isAbsolute (absolute : isAbsolute path = true) (base : String) : join base path = path := by
  rw [join, if_pos absolute]

/-- A relative path stands behind its base with one slash between them, unless the base is empty. -/
theorem join_of_relative (relative : isAbsolute path = false) (base : String) :
    (base = "" ∧ join base path = path) ∨
      ∃ front, (join base path).toList = front ++ '/' :: path.toList ∧ base ≠ "" ∧
        (base.toList = front ∨ base.toList = front ++ ['/']) := by
  have nonempty : ∀ {c}, base.toList.getLast? = some c → base ≠ "" := by
    rintro c last rfl
    cases last
  rw [join, relative, if_neg Bool.false_ne_true]
  split
  next empty =>
    obtain rfl : base = "" := String.toList_eq_nil_iff.mp (List.getLast?_eq_none_iff.mp empty)
    exact .inl ⟨rfl, String.empty_append⟩
  next slash =>
    obtain ⟨front, same⟩ := List.getLast?_eq_some_iff.mp slash
    exact .inr ⟨front, by simp [same], nonempty slash, .inr same⟩
  next last => exact .inr ⟨base.toList, by simp, nonempty last, .inl rfl⟩

theorem isAbsolute_join (base path : String) : isAbsolute (join base path) = (isAbsolute path || isAbsolute base) := by
  cases absolute : isAbsolute path with
  | true => rw [join_of_isAbsolute absolute, absolute, Bool.true_or]
  | false =>
    rw [Bool.false_or]
    obtain ⟨rfl, alone⟩ | ⟨front, joined, nonempty, same⟩ := join_of_relative absolute base
    · rw [alone, absolute]
      rfl
    · rw [isAbsolute, joined, isAbsolute]
      cases front with
      | cons c front => rcases same with same | same <;> rw [same] <;> rfl
      | nil =>
        rcases same with empty | slash
        · exact absurd (String.toList_eq_nil_iff.mp empty) nonempty
        · rw [slash]
          rfl

theorem names_eq_of_toList {before after : List Char} (cut : path.toList = before ++ '/' :: after) :
    names path = names (.ofList before) ++ names (.ofList after) := by
  rw [names, cut, Text.splitOn_append_cons, List.filter_append, names, names, String.toList_ofList, String.toList_ofList]

theorem names_join (relative : isAbsolute path = false) (base : String) :
    names (join base path) = names base ++ names path := by
  obtain ⟨rfl, alone⟩ | ⟨front, joined, -, same⟩ := join_of_relative relative base
  · rw [alone]
    rfl
  · have names_base : names base = names (.ofList front) := by
      rcases same with same | slash
      · rw [← same, String.ofList_toList]
      · -- behind the last slash there is no name
        rw [names_eq_of_toList slash]
        exact List.append_nil _
    rw [names_eq_of_toList joined, names_base, String.ofList_toList]

end Path

namespace Place

open Gazetteer.Path

variable {place : Place} {text home rest : String}

theorem isAbsolute_absolute (rooted : isAbsolute place.directory = true) (path : String) :
    isAbsolute (place.absolute path) = true := by
  rw [Place.absolute, isAbsolute_join, rooted, Bool.or_true]

theorem isAbsolute_expand (rooted : isAbsolute place.directory = true) (text : String) :
    isAbsolute (place.expand text) = true := by
  rw [expand]
  split
  · exact rooted
  · exact isAbsolute_absolute rooted _

theorem expand_of_trim {path : String} (meant : Text.trim text = path) (full : path.isEmpty = false) :
    place.expand text = place.absolute (place.unfoldHome path) := by
  rw [expand, meant, full, if_neg Bool.false_ne_true]

theorem expand_home (known : place.home? = some home) (tilde : Text.trim text = "~") :
    place.expand text = place.absolute home := by
  rw [expand_of_trim tilde rfl, unfoldHome, known]
  rfl

theorem expand_under_home (known : place.home? = some home) (tilde : Text.trim text = "~/" ++ rest) :
    place.expand text = place.absolute (join home rest) := by
  have spelled : ("~/" ++ rest).toList = '~' :: '/' :: rest.toList := String.toList_append
  have full : ("~/" ++ rest).isEmpty = false := by
    rw [← Bool.not_eq_true, String.isEmpty_iff, ← String.toList_eq_nil_iff, spelled]
    exact List.cons_ne_nil _ _
  rw [expand_of_trim tilde full, unfoldHome, known, spelled]
  exact congrArg (fun path => place.absolute (join home path)) String.ofList_toList

theorem names_absolute_join (relative : isAbsolute rest = false) (place : Place) (home : String) :
    names (place.absolute (join home rest)) = names (place.absolute home) ++ names rest := by
  -- the current directory comes first only where the home directory does not start at the root itself
  cases from_root : isAbsolute home with
  | true =>
    have also : isAbsolute (join home rest) = true := by rw [isAbsolute_join, from_root, Bool.or_true]
    rw [Place.absolute, Place.absolute, join_of_isAbsolute also, join_of_isAbsolute from_root, names_join relative]
  | false =>
    have also : isAbsolute (join home rest) = false := by rw [isAbsolute_join, from_root, relative]; rfl
    rw [Place.absolute, Place.absolute, names_join also, names_join relative, names_join from_root, List.append_assoc]

theorem parts_expand_of_relative (rooted : isAbsolute place.directory = true) (known : place.home? = some home)
    (tilde : Text.trim text = "~/" ++ rest) (relative : isAbsolute rest = false) :
    parts (place.expand text) = parts (place.absolute home) ++ (names rest).map .ofName := by
  rw [expand_under_home known tilde, parts_of_isAbsolute (isAbsolute_absolute rooted _),
    parts_of_isAbsolute (isAbsolute_absolute rooted home), names_absolute_join relative, List.map_append, List.cons_append]

theorem expand_of_isAbsolute (known : place.home? = some home) (tilde : Text.trim text = "~/" ++ rest)
    (absolute : isAbsolute rest = true) : place.expand text = rest := by
  rw [expand_under_home known tilde, join_of_isAbsolute absolute, Place.absolute, join_of_isAbsolute absolute]

/-- Every text is expanded to an absolute path.  A tilde is expanded to the home directory, and what follows a tilde
and a slash leads on from there if it is a relative path; an absolute one, which a second slash begins, is left
alone and so leads below the home directory only if it names that itself. -/
theorem expand_leads_home (place : Place) (rooted : isAbsolute place.directory = true) (text : String) :
    isAbsolute (place.expand text) = true ∧
      ∀ home, place.home? = some home →
        (Text.trim text = "~" → parts (place.expand text) = parts (place.absolute home)) ∧
        ∀ rest, Text.trim text = "~/" ++ rest →
          (isAbsolute rest = false →
            parts (place.expand text) = parts (place.absolute home) ++ (names rest).map .ofName) ∧
          (isAbsolute rest = true → place.expand text = rest) ∧
          (Below (place.absolute home) (place.expand text) ↔
            isAbsolute rest = false ∨ Below (place.absolute home) rest) := by
  refine ⟨isAbsolute_expand rooted text, fun home known => ⟨?_, fun rest tilde => ?_⟩⟩
  · intro tilde
    rw [expand_home known tilde]
  · refine ⟨parts_expand_of_relative rooted known tilde, expand_of_isAbsolute known tilde, ?_⟩
    cases absolute : isAbsolute rest with
    | true => rw [expand_of_isAbsolute known tilde absolute]; simp
    | false =>
      rw [Below, parts_expand_of_relative rooted known tilde absolute]
      simp

def served : Place where
  home? := some "/home/user"
  directory := "/srv/search"
  content? _ := none

/-- A relative path leads on from the home directory, past a dot and blanks that count for nothing, and an absolute one stays
below it where it names that itself. -/
theorem notes_lead_home :
    isAbsolute served.directory = true ∧ served.home? = some "/home/user" ∧
      Text.trim " ~/./notes.json " = "~/" ++ "./notes.json" ∧ isAbsolute "./notes.json" = false ∧
      parts (served.expand " ~/./notes.json ") = parts (served.absolute "/home/user") ++ [.name "notes.json".toList] ∧
      Text.trim "~//home/user/notes.json" = "~/" ++ "/home/user/notes.json" ∧
      Below (served.absolute "/home/user") (served.expand "~//home/user/notes.json") := by
  have rooted : isAbsolute served.directory = true := by decide
  have trimmed : Text.trim " ~/./notes.json " = "~/" ++ "./notes.json" := by decide
  have relative : isAbsolute "./notes.json" = false := by decide
  have also : Text.trim "~//home/user/notes.json" = "~/" ++ "/home/user/notes.json" := by decide
  have named : Below (served.absolute "/home/user") "/home/user/notes.json" := by decide
  have leads := ((expand_leads_home served rooted " ~/./notes.json ").2 _ rfl).2 _ trimmed
  have stays := ((expand_leads_home served rooted "~//home/user/notes.json").2 _ rfl).2 _ also
  exact ⟨rooted, rfl, trimmed, relative, leads.1 relative, also, stays.2.2.mpr (.inr named)⟩

/-- A second slash behind the tilde leads out of the home directory. -/
theorem doubled_slash_leaves_home :
    isAbsolute served.directory = true ∧ served.home? = some "/home/user" ∧
      Text.trim "~//notes.json" = "~/" ++ "/notes.json" ∧ served.expand "~//notes.json" = "/notes.json" ∧
      ¬ Below (served.absolute "/home/user") (served.expand "~//notes.json") := by
  decide

end Place

end Gazetteer
