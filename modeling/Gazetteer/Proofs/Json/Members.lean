import Gazetteer.Json.Parts
import Mathlib.Data.List.Nodup

/-!
Members of objects.  Where no key of interest stands twice, the parts of a structure are what stands under their names.
-/

namespace Gazetteer.Json

abbrev Members := List (List Piece × Tree)

def member? (members : Members) (key : String) : Option Tree :=
  (members.find? fun member => pieceText? member.1 == some key).map (·.2)

def KeysDistinct (members : Members) : Prop :=
  (members.map fun member => pieceText? member.1).Nodup

def AtMostOnce (members : Members) (key : String) : Prop :=
  (members.map fun member => pieceText? member.1).count (some key) ≤ 1

def KeysAreTexts (members : Members) : Prop := ∀ member ∈ members, ∃ key, pieceText? member.1 = some key

variable {members : Members} {named : List (String × Tree)}

theorem KeysDistinct.atMostOnce (distinct : KeysDistinct members) (key : String) : AtMostOnce members key :=
  List.nodup_iff_count_le_one.mp distinct (some key)

theorem named?_cons (member : List Piece × Tree) (rest : Members) :
    named? (member :: rest) =
      (pieceText? member.1).bind fun key => (named? rest).map ((key, member.2) :: ·) := by
  rw [named?, List.mapM_cons]
  cases pieceText? member.1 with
  | none => rfl
  | some key =>
    change (named? rest).bind (fun named => some ((key, member.2) :: named)) = (named? rest).map _
    cases named? rest <;> rfl

theorem exists_named?_iff : (∃ named, named? members = some named) ↔ KeysAreTexts members := by
  induction members with
  | nil => exact ⟨fun _ => by simp [KeysAreTexts], fun _ => ⟨[], rfl⟩⟩
  | cons member rest ih =>
    simp only [KeysAreTexts, List.forall_mem_cons] at ih ⊢
    rw [← ih, named?_cons]
    cases pieceText? member.1 with
    | none => simp
    | some key => simp

theorem filter_named (read : named? members = some named) (key : String) :
    named.filter (·.1 == key) = (members.filter fun member => pieceText? member.1 == some key).map (key, ·.2) := by
  induction members generalizing named with
  | nil =>
    obtain rfl := Option.some.inj read
    rfl
  | cons member rest ih =>
    rw [named?_cons] at read
    obtain ⟨text, spelled, behind⟩ := Option.bind_eq_some_iff.mp read
    obtain ⟨later, read_later, rfl⟩ := Option.map_eq_some_iff.mp behind
    by_cases same : text = key
    · subst same
      rw [List.filter_cons_of_pos (by simp), List.filter_cons_of_pos (by simp [spelled]), ih read_later]
      rfl
    · rw [List.filter_cons_of_neg (by simpa using same), List.filter_cons_of_neg (by simp [spelled, same]), ih read_later]

/-- A part that may be missing is the member under its name. -/
theorem partNamed?_eq_some_iff (read : named? members = some named) {key : String} {part : Option Tree} :
    partNamed? named key = some part ↔ AtMostOnce members key ∧ part = member? members key := by
  have count : (members.map fun member => pieceText? member.1).count (some key) =
      (members.filter fun member => pieceText? member.1 == some key).length := by
    rw [List.count, List.countP_map, List.countP_eq_length_filter]
    rfl
  have first : member? members key = (members.filter fun member => pieceText? member.1 == some key).head?.map (·.2) := by
    rw [member?, List.head?_filter]
  rw [partNamed?, filter_named read, AtMostOnce, count, first]
  generalize (members.filter fun member => pieceText? member.1 == some key) = found
  rcases found with - | ⟨one, - | ⟨again, others⟩⟩
  · simp [@eq_comm _ part]
  · simp [@eq_comm _ part]
  · simp

theorem parts?_object_eq_some_iff {names : List String} {parts : List (Option Tree)} :
    (Tree.object members).parts? names = some parts ↔
      KeysAreTexts members ∧ (∀ name ∈ names, AtMostOnce members name) ∧ parts = names.map (member? members) := by
  rw [Tree.parts?, Option.bind_eq_some_iff, ← exists_named?_iff]
  have each {named : List (String × Tree)} (read : named? members = some named) :
      names.mapM (partNamed? named) = some parts ↔
        (∀ name ∈ names, AtMostOnce members name) ∧ parts = names.map (member? members) := by
    induction names generalizing parts with
    | nil =>
      rw [List.mapM_nil, Option.pure_def, Option.some.injEq, List.map_nil, eq_comm]
      exact (and_iff_right (List.forall_mem_nil _)).symm
    | cons name names ih =>
      simp only [List.mapM_cons, Option.bind_eq_bind, Option.bind_eq_some_iff, partNamed?_eq_some_iff read, ih,
        Option.pure_def, Option.some.injEq, List.forall_mem_cons, List.map_cons]
      constructor
      · rintro ⟨_, ⟨once, rfl⟩, _, ⟨others, rfl⟩, rfl⟩
        exact ⟨⟨once, others⟩, rfl⟩
      · rintro ⟨⟨once, others⟩, rfl⟩
        exact ⟨_, ⟨once, rfl⟩, _, ⟨others, rfl⟩, rfl⟩
  constructor
  · rintro ⟨named, read, spelled⟩
    exact ⟨⟨named, read⟩, (each read).mp spelled⟩
  · rintro ⟨⟨named, read⟩, spelled⟩
    exact ⟨named, read, (each read).mpr spelled⟩

/-- The parts of an object whose keys are distinct texts. -/
theorem parts?_object (read : named? members = some named) (distinct : KeysDistinct members) (names : List String) :
    (Tree.object members).parts? names = some (names.map (member? members)) :=
  parts?_object_eq_some_iff.mpr ⟨exists_named?_iff.mp ⟨named, read⟩, fun name _ => distinct.atMostOnce name, rfl⟩

theorem parts?_object_of_badKey (unread : named? members = none) (names : List String) :
    (Tree.object members).parts? names = none := by
  rw [Tree.parts?, unread, Option.bind_none]

end Gazetteer.Json
