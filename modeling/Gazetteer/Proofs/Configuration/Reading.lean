import Gazetteer.Configuration.File
import Gazetteer.Proofs.Json.Members
import Gazetteer.Proofs.Json.Whole

/-!
What a file gives.  Each field stands under a key in one of two sections of a JSON object, where it may be absent, be null or
have a value; the reader takes all of them as they stand there, or none if one of them cannot be read.
-/

namespace Gazetteer.Configuration

open Json

/-! ### Fields -/

inductive Field where
  | host
  | port
  | url
  | database
  | timeout
  | mode
  | attempts
  deriving DecidableEq, Repr

inductive SectionName where
  | server
  | datasette
  deriving DecidableEq, Repr

namespace SectionName

def text : SectionName → String
  | server => "server"
  | datasette => "datasette"

/-- The keys of the fields, in the order in which an array gives them. -/
def keys : SectionName → List String
  | server => ["host", "port"]
  | datasette => ["url", "database", "timeout_secs", "param_mode", "max_attempts"]

end SectionName

namespace Field

abbrev Value : Field → Type
  | .host | .url | .database => String
  | .port | .timeout | .attempts => Nat
  | .mode => Datasette.ParameterMode

def inSection : Field → SectionName
  | .host | .port => .server
  | .url | .database | .timeout | .mode | .attempts => .datasette

def key : Field → String
  | .host => "host"
  | .port => "port"
  | .url => "url"
  | .database => "database"
  | .timeout => "timeout_secs"
  | .mode => "param_mode"
  | .attempts => "max_attempts"

end Field

/-! ### Values -/

def IsText (t : Tree) (value : String) : Prop := ∃ pieces, t = .string pieces ∧ pieceText? pieces = some value

def IsNatural (bound : Nat) (t : Tree) (value : Nat) : Prop :=
  ∃ digits, t = .number ⟨false, digits, none, none⟩ ∧ digitsFrom 0 digits = value ∧ value ≤ bound

/-- A word, alone or as the one key of an object with nothing under it. -/
inductive IsWord (word : String) : Tree → Prop
  | text {pieces : List Piece} (spelled : pieceText? pieces = some word) : IsWord word (.string pieces)
  | key {pieces : List Piece} (spelled : pieceText? pieces = some word) : IsWord word (.object [(pieces, .null)])

def IsMode (t : Tree) : Datasette.ParameterMode → Prop
  | .bound => IsWord "bound" t
  | .inline => IsWord "inline" t

def Field.Writes : (f : Field) → Tree → f.Value → Prop
  | .host | .url | .database => IsText
  | .port => IsNatural (2 ^ 16 - 1)
  | .timeout => IsNatural (2 ^ 64 - 1)
  | .mode => IsMode
  | .attempts => IsNatural (2 ^ 32 - 1)

def Field.read? : (f : Field) → Tree → Option f.Value
  | .host | .url | .database => Tree.text?
  | .port => naturalOfTree? 0xFFFF
  | .timeout => naturalOfTree? 0xFFFFFFFFFFFFFFFF
  | .mode => modeOfTree?
  | .attempts => naturalOfTree? 0xFFFFFFFF

theorem text?_eq_some_iff {t : Tree} {value : String} : t.text? = some value ↔ IsText t value := by
  cases t <;> simp [Tree.text?, IsText]

theorem naturalOfTree?_eq_some_iff {bound : Nat} (room : bound ≤ greatestNatural) {t : Tree} {value : Nat} :
    naturalOfTree? bound t = some value ↔ IsNatural bound t value := by
  rw [IsNatural]
  cases t with
  | number s =>
    have spelled : naturalOfTree? bound (.number s) = some value ↔ s.number? = some (.integer value) ∧ value ≤ bound := by
      rw [naturalOfTree?]
      rcases s.number? with - | n | -
      · simp
      · simp only [Option.ite_none_right_eq_some, Option.some.injEq, Json.Number.integer.injEq, Bool.and_eq_true,
          decide_eq_true_eq]
        omega
      · simp
    rw [spelled, Spelling.number?_eq_natural_iff]
    constructor
    · rintro ⟨⟨digits, rfl, same, -⟩, small⟩
      exact ⟨digits, rfl, same, small⟩
    · rintro ⟨digits, same, value_eq, small⟩
      exact ⟨⟨digits, Tree.number.inj same, value_eq, Nat.le_trans small room⟩, small⟩
  | null | bool | string | array | object => simp [naturalOfTree?]

theorem ofName?_eq_some_iff {name : String} {mode : Datasette.ParameterMode} :
    Datasette.ParameterMode.ofName? name = some mode ↔ mode.name = name := by
  rw [Datasette.ParameterMode.ofName?, Datasette.ParameterMode.all]
  constructor
  · intro found
    simpa using List.find?_some found
  · rintro rfl
    cases mode <;> rfl

theorem isWord_iff {word : String} {t : Tree} : IsWord word t ↔ ∃ pieces, (t = .string pieces ∨ t = .object [(pieces, .null)]) ∧
    pieceText? pieces = some word := by
  constructor
  · rintro (spelled | spelled)
    · exact ⟨_, .inl rfl, spelled⟩
    · exact ⟨_, .inr rfl, spelled⟩
  · rintro ⟨pieces, rfl | rfl, spelled⟩
    · exact .text spelled
    · exact .key spelled

theorem modeOfTree?_eq_some_iff {t : Tree} {mode : Datasette.ParameterMode} : modeOfTree? t = some mode ↔ IsMode t mode := by
  have named : IsMode t mode ↔ IsWord mode.name t := by cases mode <;> rfl
  rw [named, isWord_iff]
  have spelled {pieces : List Piece} :
      (pieceText? pieces).bind Datasette.ParameterMode.ofName? = some mode ↔ pieceText? pieces = some mode.name := by
    simp [Option.bind_eq_some_iff, ofName?_eq_some_iff]
  unfold modeOfTree?
  split
  · simp [spelled]
  · simp [spelled]
  next alone paired =>
    constructor
    · intro absurd
      cases absurd
    · rintro ⟨pieces, rfl | rfl, -⟩
      · exact (alone pieces rfl).elim
      · exact (paired pieces rfl).elim

theorem Field.read?_eq_some_iff (f : Field) {t : Tree} {value : f.Value} : f.read? t = some value ↔ f.Writes t value := by
  cases f with
  | host | url | database => exact text?_eq_some_iff
  | port | timeout | attempts => exact naturalOfTree?_eq_some_iff (by decide)
  | mode => exact modeOfTree?_eq_some_iff

/-! ### Sections -/

/-- What is given by a part that is absent, null or written. -/
def Gives {α : Type} (writes : Tree → α → Prop) (part : Option Tree) : Option α → Prop
  | none => part = none ∨ part = some .null
  | some value => ∃ t, part = some t ∧ writes t value

theorem given?_eq_some_iff {α : Type} {read? : Tree → Option α} {writes : Tree → α → Prop} {part : Option Tree}
    {value : Option α} (null_unread : read? .null = none) (reads : ∀ {t value}, read? t = some value ↔ writes t value) :
    given? read? part = some value ↔ Gives writes part value := by
  rcases part with - | t
  · cases value <;> simp [given?, partOr?, Gives]
  · cases value with
    | none => cases t <;> simp [given?, partOr?, Tree.nullable?, Gives]
    | some value =>
      simp only [Gives, Option.some.injEq, exists_eq_left', ← reads]
      cases t with
      | null => simp [given?, partOr?, Tree.nullable?, null_unread]
      | bool | number | string | array | object => simp [given?, partOr?, Tree.nullable?]

theorem Field.given?_eq_some_iff (f : Field) {part : Option Tree} {value : Option f.Value} :
    given? f.read? part = some value ↔ Gives f.Writes part value :=
  Configuration.given?_eq_some_iff (by cases f <;> rfl) f.read?_eq_some_iff

def partUnder? (keys : List String) (key : String) : Tree → Option Tree
  | .object members => member? members key
  | .array items => items[keys.idxOf key]?
  | _ => none

/-- A section in which none of the keys stands twice, or one without keys in which nothing is left out. -/
inductive IsSection (keys : List String) : Tree → Prop
  | object {members : Members} (texts : KeysAreTexts members) (once : ∀ key ∈ keys, AtMostOnce members key) :
    IsSection keys (.object members)
  | array {items : List Tree} (complete : items.length = keys.length) : IsSection keys (.array items)

theorem sectionFields?_eq_some_iff {keys : List String} (distinct : keys.Nodup) {t : Tree} {parts : List (Option Tree)} :
    sectionFields? keys t = some parts ↔ IsSection keys t ∧ parts = keys.map (partUnder? keys · t) := by
  cases t with
  | object members =>
    refine parts?_object_eq_some_iff.trans ⟨?_, ?_⟩
    · rintro ⟨texts, once, rfl⟩
      exact ⟨.object texts once, rfl⟩
    · rintro ⟨⟨texts, once⟩, rfl⟩
      exact ⟨texts, once, rfl⟩
  | array items =>
    rw [sectionFields?, Option.ite_none_right_eq_some, Option.some.injEq]
    -- the item for a key stands where the key stands among the keys
    have in_order (complete : items.length = keys.length) : items.map some = keys.map (partUnder? keys · (.array items)) := by
      refine List.ext_getElem (by simp [complete]) fun i _ _ => ?_
      simp [partUnder?, distinct.idxOf_getElem]
    constructor
    · rintro ⟨complete, rfl⟩
      exact ⟨.array complete, in_order complete⟩
    · rintro ⟨isSection, rfl⟩
      cases isSection with
      | array complete => exact ⟨complete, in_order complete⟩
  | null | bool | number | string =>
    constructor
    · intro absurd
      cases absurd
    · rintro ⟨⟨⟩, -⟩

theorem not_isSection {keys : List String} (distinct : keys.Nodup) {t : Tree} (unread : sectionFields? keys t = none) :
    ¬IsSection keys t := by
  intro isSection
  rw [(sectionFields?_eq_some_iff distinct).mpr ⟨isSection, rfl⟩] at unread
  cases unread

theorem serverOfTree?_eq_some_iff {t : Tree} {s : ServerSection} :
    serverOfTree? t = some s ↔ IsSection SectionName.server.keys t ∧
      Gives Field.host.Writes (partUnder? SectionName.server.keys "host" t) s.host ∧
      Gives Field.port.Writes (partUnder? SectionName.server.keys "port" t) s.port := by
  have distinct : SectionName.server.keys.Nodup := by decide
  rw [serverOfTree?, ← SectionName.keys]
  cases fields : sectionFields? SectionName.server.keys t with
  | none => exact ⟨nofun, fun gives => (not_isSection distinct fields gives.1).elim⟩
  | some parts =>
    obtain ⟨isSection, rfl⟩ := (sectionFields?_eq_some_iff distinct).mp fields
    simp only [SectionName.keys, List.map_cons, List.map_nil, Option.bind_eq_bind, Option.bind_eq_some_iff,
      Option.some.injEq]
    constructor
    · rintro ⟨host, read_host, port, read_port, rfl⟩
      exact ⟨isSection, Field.host.given?_eq_some_iff.mp read_host, Field.port.given?_eq_some_iff.mp read_port⟩
    · rintro ⟨-, host, port⟩
      exact ⟨_, Field.host.given?_eq_some_iff.mpr host, _, Field.port.given?_eq_some_iff.mpr port, rfl⟩

theorem datasetteOfTree?_eq_some_iff {t : Tree} {s : DatasetteSection} :
    datasetteOfTree? t = some s ↔ IsSection SectionName.datasette.keys t ∧
      Gives Field.url.Writes (partUnder? SectionName.datasette.keys "url" t) s.url ∧
      Gives Field.database.Writes (partUnder? SectionName.datasette.keys "database" t) s.database ∧
      Gives Field.timeout.Writes (partUnder? SectionName.datasette.keys "timeout_secs" t) s.timeoutSeconds ∧
      Gives Field.mode.Writes (partUnder? SectionName.datasette.keys "param_mode" t) s.mode ∧
      Gives Field.attempts.Writes (partUnder? SectionName.datasette.keys "max_attempts" t) s.maxAttempts := by
  have distinct : SectionName.datasette.keys.Nodup := by decide
  rw [datasetteOfTree?, ← SectionName.keys]
  cases fields : sectionFields? SectionName.datasette.keys t with
  | none => exact ⟨nofun, fun gives => (not_isSection distinct fields gives.1).elim⟩
  | some parts =>
    obtain ⟨isSection, rfl⟩ := (sectionFields?_eq_some_iff distinct).mp fields
    simp only [SectionName.keys, List.map_cons, List.map_nil, Option.bind_eq_bind, Option.bind_eq_some_iff,
      Option.some.injEq]
    constructor
    · rintro ⟨url, read_url, database, read_database, timeout, read_timeout, mode, read_mode, attempts, read_attempts, rfl⟩
      exact ⟨isSection, Field.url.given?_eq_some_iff.mp read_url, Field.database.given?_eq_some_iff.mp read_database,
        Field.timeout.given?_eq_some_iff.mp read_timeout, Field.mode.given?_eq_some_iff.mp read_mode,
        Field.attempts.given?_eq_some_iff.mp read_attempts⟩
    · rintro ⟨-, url, database, timeout, mode, attempts⟩
      exact ⟨_, Field.url.given?_eq_some_iff.mpr url, _, Field.database.given?_eq_some_iff.mpr database,
        _, Field.timeout.given?_eq_some_iff.mpr timeout, _, Field.mode.given?_eq_some_iff.mpr mode,
        _, Field.attempts.given?_eq_some_iff.mpr attempts, rfl⟩

/-! ### Files -/

namespace Field

def part? (f : Field) (members : Members) : Option Tree :=
  (member? members f.inSection.text).bind (partUnder? f.inSection.keys f.key)

def IsGiven (f : Field) (members : Members) (value : Option f.Value) : Prop :=
  Gives f.Writes (f.part? members) value

def given? (file : Sections) : (f : Field) → Option f.Value
  | .host => file.server.bind (·.host)
  | .port => file.server.bind (·.port)
  | .url => file.datasette.bind (·.url)
  | .database => file.datasette.bind (·.database)
  | .timeout => file.datasette.bind (·.timeoutSeconds)
  | .mode => file.datasette.bind (·.mode)
  | .attempts => file.datasette.bind (·.maxAttempts)

end Field

def IsSectionOrMissing (members : Members) (s : SectionName) : Prop :=
  ∀ t, member? members s.text = some t → t = .null ∨ IsSection s.keys t

/-- The members of a JSON object that is a file of configuration. -/
structure IsFile (members : Members) : Prop where
  texts : KeysAreTexts members
  once : ∀ s : SectionName, AtMostOnce members s.text
  sections : ∀ s, IsSectionOrMissing members s
  fields : ∀ f : Field, ∃ value, f.IsGiven members value
  /-- What means nothing has a value all the same. -/
  others : ∀ member ∈ members, ∀ key, pieceText? member.1 = some key → (∀ s, key ≠ SectionName.text s) →
    ∃ value, member.2.value? (greatestDepth - 1) = some value

variable {members : Members}

namespace Field

theorem isGiven_none {f : Field} (missing : member? members f.inSection.text = none ∨
    member? members f.inSection.text = some .null) : f.IsGiven members none := by
  refine .inl ?_
  rcases missing with absent | null
  · rw [part?, absent, Option.bind_none]
  · rw [part?, null]
    rfl

theorem isGiven_iff {f : Field} {t : Tree} (found : member? members f.inSection.text = some t) {value : Option f.Value} :
    f.IsGiven members value ↔ Gives f.Writes (partUnder? f.inSection.keys f.key t) value := by
  rw [IsGiven, part?, found, Option.bind_some]

theorem IsGiven.unique {f : Field} {value value' : Option f.Value} (one : f.IsGiven members value)
    (other : f.IsGiven members value') : value = value' :=
  Option.some.inj ((f.given?_eq_some_iff.mpr one).symm.trans (f.given?_eq_some_iff.mpr other))

end Field

theorem isSectionOrMissing_of_found {s : SectionName} {t : Tree} (found : member? members s.text = some t)
    (isSection : IsSection s.keys t) : IsSectionOrMissing members s := by
  intro t' found'
  obtain rfl : t = t' := Option.some.inj (found.symm.trans found')
  exact .inr isSection

theorem isSectionOrMissing_of_missing {s : SectionName} (missing : member? members s.text = none ∨
    member? members s.text = some .null) : IsSectionOrMissing members s := by
  intro t found
  rcases missing with absent | null
  · exact (Option.some_ne_none t (found.symm.trans absent)).elim
  · exact .inl (Option.some.inj (found.symm.trans null))

/-- What is read where a section may be missing gives its fields, if reading the section does. -/
theorem isGiven_of_given? {α : Type} {read? : Tree → Option α} (null_unread : read? .null = none) {s : SectionName}
    {part : Option α} (value : Option α → (f : Field) → Option f.Value)
    (nothing : ∀ f : Field, f.inSection = s → value none f = none)
    (reads : ∀ {t a}, read? t = some a → IsSection s.keys t ∧
      ∀ f : Field, f.inSection = s → Gives f.Writes (partUnder? s.keys f.key t) (value (some a) f))
    (read : given? read? (member? members s.text) = some part) :
    IsSectionOrMissing members s ∧ ∀ f : Field, f.inSection = s → f.IsGiven members (value part f) := by
  have gives : Gives (fun t a => read? t = some a) (member? members s.text) part :=
    (given?_eq_some_iff null_unread .rfl).mp read
  cases part with
  | none =>
    refine ⟨isSectionOrMissing_of_missing gives, ?_⟩
    rintro f rfl
    rw [nothing f rfl]
    exact Field.isGiven_none gives
  | some a =>
    obtain ⟨t, stands, read⟩ := gives
    obtain ⟨isSection, fields⟩ := reads read
    refine ⟨isSectionOrMissing_of_found stands isSection, ?_⟩
    rintro f rfl
    exact (Field.isGiven_iff stands).mpr (fields f rfl)

theorem exists_given? {α : Type} {read? : Tree → Option α} (null_unread : read? .null = none) {s : SectionName}
    (isSection : IsSectionOrMissing members s)
    (reads : ∀ {t}, member? members s.text = some t → IsSection s.keys t → ∃ a, read? t = some a) :
    ∃ part, given? read? (member? members s.text) = some part := by
  suffices gives : ∃ part, Gives (fun t a => read? t = some a) (member? members s.text) part from
    gives.imp fun _ => (given?_eq_some_iff null_unread .rfl).mpr
  cases stands : member? members s.text with
  | none => exact ⟨none, .inl rfl⟩
  | some t =>
    rcases isSection t stands with rfl | isSection
    · exact ⟨none, .inr rfl⟩
    · obtain ⟨a, read⟩ := reads stands isSection
      exact ⟨some a, t, rfl, read⟩

theorem server_isGiven {server : Option ServerSection} (datasette : Option DatasetteSection)
    (read : given? serverOfTree? (member? members "server") = some server) :
    IsSectionOrMissing members .server ∧
      ∀ f : Field, f.inSection = .server → f.IsGiven members (f.given? ⟨server, datasette⟩) := by
  refine isGiven_of_given? rfl (fun server f => f.given? ⟨server, datasette⟩) (fun f here => ?_) (fun read => ?_) read
  · cases f with
    | host | port => rfl
    | url | database | timeout | mode | attempts => cases here
  · obtain ⟨isSection, host, port⟩ := serverOfTree?_eq_some_iff.mp read
    refine ⟨isSection, fun f here => ?_⟩
    cases f with
    | host => exact host
    | port => exact port
    | url | database | timeout | mode | attempts => cases here

theorem datasette_isGiven (server : Option ServerSection) {datasette : Option DatasetteSection}
    (read : given? datasetteOfTree? (member? members "datasette") = some datasette) :
    IsSectionOrMissing members .datasette ∧
      ∀ f : Field, f.inSection = .datasette → f.IsGiven members (f.given? ⟨server, datasette⟩) := by
  refine isGiven_of_given? rfl (fun datasette f => f.given? ⟨server, datasette⟩) (fun f here => ?_) (fun read => ?_) read
  · cases f with
    | host | port => cases here
    | url | database | timeout | mode | attempts => rfl
  · obtain ⟨isSection, url, database, timeout, mode, attempts⟩ := datasetteOfTree?_eq_some_iff.mp read
    refine ⟨isSection, fun f here => ?_⟩
    cases f with
    | host | port => cases here
    | url => exact url
    | database => exact database
    | timeout => exact timeout
    | mode => exact mode
    | attempts => exact attempts

theorem exists_server (isSection : IsSectionOrMissing members .server) (fields : ∀ f : Field, ∃ value, f.IsGiven members value) :
    ∃ server, given? serverOfTree? (member? members "server") = some server := by
  refine exists_given? rfl isSection fun stands isSection => ?_
  obtain ⟨host, host_given⟩ := fields .host
  obtain ⟨port, port_given⟩ := fields .port
  exact ⟨⟨host, port⟩, serverOfTree?_eq_some_iff.mpr
    ⟨isSection, (Field.isGiven_iff stands).mp host_given, (Field.isGiven_iff stands).mp port_given⟩⟩

theorem exists_datasette (isSection : IsSectionOrMissing members .datasette)
    (fields : ∀ f : Field, ∃ value, f.IsGiven members value) :
    ∃ datasette, given? datasetteOfTree? (member? members "datasette") = some datasette := by
  refine exists_given? rfl isSection fun stands isSection => ?_
  obtain ⟨url, url_given⟩ := fields .url
  obtain ⟨database, database_given⟩ := fields .database
  obtain ⟨timeout, timeout_given⟩ := fields .timeout
  obtain ⟨mode, mode_given⟩ := fields .mode
  obtain ⟨attempts, attempts_given⟩ := fields .attempts
  exact ⟨⟨url, database, timeout, mode, attempts⟩, datasetteOfTree?_eq_some_iff.mpr
    ⟨isSection, (Field.isGiven_iff stands).mp url_given, (Field.isGiven_iff stands).mp database_given,
      (Field.isGiven_iff stands).mp timeout_given, (Field.isGiven_iff stands).mp mode_given,
      (Field.isGiven_iff stands).mp attempts_given⟩⟩

theorem isSection_iff {name : String} : isSection name = true ↔ ∃ s, name = SectionName.text s := by
  rw [isSection, Bool.or_eq_true, beq_iff_eq, beq_iff_eq]
  constructor
  · rintro (rfl | rfl)
    · exact ⟨.server, rfl⟩
    · exact ⟨.datasette, rfl⟩
  · rintro ⟨server | datasette, rfl⟩
    · exact .inl rfl
    · exact .inr rfl

theorem exists_unknownNames?_iff {named : List (String × Tree)} (read : named? members = some named) :
    (∃ names, unknownNames? named = some names) ↔
      ∀ member ∈ members, ∀ key, pieceText? member.1 = some key → (∀ s, key ≠ SectionName.text s) →
        ∃ value, member.2.value? (greatestDepth - 1) = some value := by
  induction members generalizing named with
  | nil =>
    obtain rfl := Option.some.inj read
    exact ⟨fun _ _ member => (List.not_mem_nil member).elim, fun _ => ⟨[], rfl⟩⟩
  | cons member rest ih =>
    rw [named?_cons] at read
    obtain ⟨text, spelled, behind⟩ := Option.bind_eq_some_iff.mp read
    obtain ⟨later, read_later, rfl⟩ := Option.map_eq_some_iff.mp behind
    simp only [List.forall_mem_cons, ← ih read_later, spelled, Option.some.injEq, forall_eq']
    rw [unknownNames?]
    split
    next known =>
      obtain ⟨s, same⟩ := isSection_iff.mp known
      exact ⟨fun read => ⟨fun unknown => (unknown s same).elim, read⟩, And.right⟩
    next unknown =>
      have other (s : SectionName) : text ≠ s.text := fun same => unknown (isSection_iff.mpr ⟨s, same⟩)
      simp [Option.bind_eq_some_iff, other]

/-- A file is read where its members are those of a file of configuration, and gives its fields what they give. -/
theorem ofTree?_isGiven {d : Document} (read : Document.ofTree? (.object members) = some d) :
    IsFile members ∧ ∀ f : Field, f.IsGiven members (f.given? d.sections) := by
  simp only [Document.ofTree?, Option.bind_eq_bind, Option.bind_eq_some_iff, Option.some.injEq] at read
  obtain ⟨named, spelled, server, ⟨_, once_server, read_server⟩, datasette, ⟨_, once_datasette, read_datasette⟩, names,
    read_others, rfl⟩ := read
  obtain ⟨once_server, rfl⟩ := (partNamed?_eq_some_iff spelled).mp once_server
  obtain ⟨once_datasette, rfl⟩ := (partNamed?_eq_some_iff spelled).mp once_datasette
  obtain ⟨isServer, in_server⟩ := server_isGiven datasette read_server
  obtain ⟨isDatasette, in_datasette⟩ := datasette_isGiven server read_datasette
  have given (f : Field) : f.IsGiven members (f.given? ⟨server, datasette⟩) := by
    cases here : f.inSection with
    | server => exact in_server f here
    | datasette => exact in_datasette f here
  exact ⟨⟨exists_named?_iff.mp ⟨named, spelled⟩, fun s => by cases s <;> assumption, fun s => by cases s <;> assumption,
    fun f => ⟨_, given f⟩, (exists_unknownNames?_iff spelled).mp ⟨names, read_others⟩⟩, given⟩

theorem exists_ofTree? (file : IsFile members) : ∃ d, Document.ofTree? (.object members) = some d := by
  obtain ⟨named, spelled⟩ := exists_named?_iff.mpr file.texts
  obtain ⟨server, read_server⟩ := exists_server (file.sections .server) file.fields
  obtain ⟨datasette, read_datasette⟩ := exists_datasette (file.sections .datasette) file.fields
  obtain ⟨names, read_others⟩ := (exists_unknownNames?_iff spelled).mpr file.others
  have server_part := (partNamed?_eq_some_iff spelled).mpr ⟨file.once .server, rfl⟩
  have datasette_part := (partNamed?_eq_some_iff spelled).mpr ⟨file.once .datasette, rfl⟩
  simp only [SectionName.text] at server_part datasette_part
  simp only [Document.ofTree?, Option.bind_eq_bind, spelled, server_part, datasette_part, read_server, read_datasette,
    read_others, Option.bind_some]
  exact ⟨_, rfl⟩

end Gazetteer.Configuration
