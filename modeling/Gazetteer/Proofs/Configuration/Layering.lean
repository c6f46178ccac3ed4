import Gazetteer.Configuration.Load
import Gazetteer.Proofs.Configuration.Reading

/-!
Layers of configuration field by field.  Each field has its value from the first layer that gives one: what is set at the start, the
file that is named or lies in the current directory, the file in the home directory, the default.
-/

namespace Gazetteer.Configuration

open Json

namespace Field

def of (c : Configuration) : (f : Field) → f.Value
  | .host => c.host
  | .port => c.port
  | .url => c.datasette.url
  | .database => c.datasette.database
  | .timeout => c.datasette.timeoutSeconds
  | .mode => c.datasette.mode
  | .attempts => c.datasette.maxAttempts

/-- How often a request is attempted cannot be set at the start. -/
def set? (l : Layer) : (f : Field) → Option f.Value
  | .host => l.host
  | .port => l.port
  | .url => l.url
  | .database => l.database
  | .timeout => l.timeoutSeconds
  | .mode => l.mode
  | .attempts => none

def default : (f : Field) → f.Value
  | .host => "127.0.0.1"
  | .port => 5390
  | .url => "http://127.0.0.1:8001"
  | .database => "entity"
  | .timeout => 30
  | .mode => .bound
  | .attempts => 1

def decided (f : Field) (l : Layer) (overlay profile : Option f.Value) : f.Value :=
  (((set? l f).or overlay).or profile).getD f.default

theorem ext {c c' : Configuration} (same : ∀ f, of c f = of c' f) : c = c' := by
  obtain ⟨host, port, url, database, timeout, mode, attempts⟩ := c
  obtain ⟨host', port', url', database', timeout', mode', attempts'⟩ := c'
  obtain rfl : host = host' := same .host
  obtain rfl : port = port' := same .port
  obtain rfl : url = url' := same .url
  obtain rfl : database = database' := same .database
  obtain rfl : timeout = timeout' := same .timeout
  obtain rfl : mode = mode' := same .mode
  obtain rfl : attempts = attempts' := same .attempts
  rfl

end Field

/-! ### Merging -/

section MergeSection

variable {α β : Type} {merge : α → α → α} {empty : α}

theorem mergeSection_assoc (assoc : ∀ a b c, merge (merge a b) c = merge a (merge b c)) (left : ∀ a, merge empty a = a)
    (a b c : Option α) :
    mergeSection merge empty (mergeSection merge empty a b) c = mergeSection merge empty a (mergeSection merge empty b c) := by
  cases c with
  | none => rfl
  | some c =>
    cases b with
    | none => exact congrArg (fun c => some (merge (a.getD empty) c)) (left c).symm
    | some b => exact congrArg some (assoc _ b c)

/-- A field of merged sections. -/
theorem mergeSection_bind {read? : α → Option β} (layers : ∀ a b, read? (merge a b) = (read? b).or (read? a))
    (nothing : read? empty = none) (current other : Option α) :
    (mergeSection merge empty current other).bind read? = (other.bind read?).or (current.bind read?) := by
  cases other with
  | none => rfl
  | some other =>
    refine (layers _ other).trans (congrArg (Option.or _) ?_)
    cases current with
    | none => exact nothing
    | some current => rfl

end MergeSection

theorem ServerSection.merge_assoc (a b c : ServerSection) : (a.merge b).merge c = a.merge (b.merge c) := by
  simp only [merge, Option.or_assoc]

theorem DatasetteSection.merge_assoc (a b c : DatasetteSection) : (a.merge b).merge c = a.merge (b.merge c) := by
  simp only [merge, Option.or_assoc]

/-- Files that are merged one after the other say what they say if the last ones are merged first. -/
theorem Sections.merge_assoc (a b c : Sections) : (a.merge b).merge c = a.merge (b.merge c) := by
  simp only [merge, mk.injEq]
  exact ⟨mergeSection_assoc ServerSection.merge_assoc (fun s => by simp [ServerSection.merge]) _ _ _,
    mergeSection_assoc DatasetteSection.merge_assoc (fun s => by simp [DatasetteSection.merge]) _ _ _⟩

theorem given?_merge (current other : Sections) (f : Field) :
    Field.given? (current.merge other) f = (Field.given? other f).or (Field.given? current f) := by
  cases f <;> exact mergeSection_bind (fun _ _ => rfl) rfl _ _

theorem resolve_of (l : Layer) (file : Sections) (f : Field) :
    Field.of (resolve l file) f = ((Field.set? l f).or (Field.given? file f)).getD f.default := by
  obtain ⟨server, datasette⟩ := file
  cases f <;> cases server <;> cases datasette <;> rfl

/-! ### The files that are read -/

variable {place : Place} {file profile overlay : Option Members}

/-- The members of what stands at a path, which is nothing or a file of configuration. -/
inductive Holds (place : Place) (path : String) : Option Members → Prop
  | nothing (missing : place.find? path = none) : Holds place path none
  | file {text : String} {members : Members} (found : place.find? path = some (.file text))
    (object : tree? (Text.Utf8.bytes text) = some (.object members)) (isFile : IsFile members) :
    Holds place path (some members)

def ProfileHolds (place : Place) (file : Option Members) : Prop :=
  match place.home? with
  | none => file = none
  | some home => Holds place (profilePath home) file

/-- The file that is named, which must be there, or else the one in the current directory. -/
def OverlayHolds (place : Place) (file : Option Members) : Option String → Prop
  | none => Holds place fileName file
  | some path => file.isSome = true ∧ Holds place (place.expand path) file

def Field.IsGivenIn (f : Field) (file : Option Members) (value : Option f.Value) : Prop :=
  match file with
  | none => value = none
  | some members => f.IsGiven members value

def sections? (file : Option Members) : Option Sections :=
  file.bind fun members => (Document.ofTree? (.object members)).map (·.sections)

def added (current : Sections) (file : Option Members) : Sections :=
  ((sections? file).map current.merge).getD current

def Field.inFile? (f : Field) (file : Option Members) : Option f.Value := (sections? file).bind (given? · f)

theorem given?_added (current : Sections) (file : Option Members) (f : Field) :
    Field.given? (added current file) f = (f.inFile? file).or (Field.given? current f) := by
  rw [added, Field.inFile?]
  cases sections? file with
  | none => rfl
  | some s => exact given?_merge current s f

namespace Holds

variable {path : String}

theorem isSome_eq (holds : Holds place path file) : file.isSome = (place.find? path).isSome := by
  cases holds with
  | nothing missing => rw [missing]; rfl
  | file found => rw [found]; rfl

theorem isFile {members : Members} (holds : Holds place path (some members)) : IsFile members := by
  cases holds with
  | file _ _ isFile => exact isFile

/-- What the loader takes from a file is what its members give. -/
theorem isGivenIn (holds : Holds place path file) (f : Field) : f.IsGivenIn file (f.inFile? file) := by
  cases holds with
  | nothing => rfl
  | file _ _ isFile =>
    obtain ⟨d, read⟩ := exists_ofTree? isFile
    rw [Field.inFile?, sections?, Option.bind_some, read]
    exact (ofTree?_isGiven read).2 f

end Holds

theorem Field.IsGivenIn.unique {f : Field} {value value' : Option f.Value} (one : f.IsGivenIn file value)
    (other : f.IsGivenIn file value') : value = value' := by
  cases file with
  | none => exact one.trans (Eq.symm other)
  | some members => exact IsGiven.unique one other

theorem ProfileHolds.isGivenIn (holds : ProfileHolds place profile) (f : Field) : f.IsGivenIn profile (f.inFile? profile) := by
  unfold ProfileHolds at holds
  split at holds
  · rw [holds]
    rfl
  · exact holds.isGivenIn f

theorem OverlayHolds.isGivenIn {named : Option String} (holds : OverlayHolds place overlay named) (f : Field) :
    f.IsGivenIn overlay (f.inFile? overlay) := by
  cases named with
  | none => exact Holds.isGivenIn holds f
  | some path => exact holds.2.isGivenIn f

theorem map_eq_ok {α β : Type} {x : Except LoadFault α} {f : α → β} {b : β} :
    x.map f = .ok b ↔ ∃ a, x = .ok a ∧ f a = b := by
  cases x <;> simp [Except.map]

theorem bind_eq_ok {α β : Type} {x : Except LoadFault α} {f : α → Except LoadFault β} {b : β} :
    x.bind f = .ok b ↔ ∃ a, x = .ok a ∧ f a = .ok b := by
  cases x <;> simp [Except.bind]

theorem ofText?_eq_some_iff {text : String} {d : Document} : Document.ofText? text = some d ↔
    ∃ members, tree? (Text.Utf8.bytes text) = some (.object members) ∧ Document.ofTree? (.object members) = some d := by
  rw [Document.ofText?, Option.bind_eq_some_iff]
  constructor
  · rintro ⟨t, spelled, read⟩
    cases t with
    | object members => exact ⟨members, spelled, read⟩
    | null | bool | number | string | array => cases read
  · rintro ⟨members, spelled, read⟩
    exact ⟨_, spelled, read⟩

theorem readDocument_ok {path : String} {d : Document} : readDocument place path = .ok d ↔
    ∃ members, Holds place path (some members) ∧ Document.ofTree? (.object members) = some d := by
  have parsed : readDocument place path = .ok d ↔
      ∃ text, place.find? path = some (.file text) ∧ Document.ofText? text = some d := by
    rw [readDocument]
    rcases place.find? path with - | - | text
    · simp
    · simp
    · cases parsed : Document.ofText? text <;> simp [parsed]
  simp only [parsed, ofText?_eq_some_iff]
  constructor
  · rintro ⟨text, found, members, spelled, read⟩
    exact ⟨members, .file found spelled (ofTree?_isGiven read).1, read⟩
  · rintro ⟨members, holds, read⟩
    cases holds with
    | file found spelled => exact ⟨_, found, members, spelled, read⟩

theorem source_load_ok {s : Source} {said : Sections} :
    (s.load place).result = .ok said ↔ ∃ members, Holds place s.path (some members) ∧ sections? (some members) = some said := by
  have loaded : (s.load place).result = .ok said ↔ ∃ d, readDocument place s.path = .ok d ∧ d.sections = said := by
    rw [Source.load, Source.check, readDocument]
    rcases found : place.find? s.path with - | - | text
    · cases s.named <;> simp
    · cases s.named <;> simp
    · have there : (place.find? s.path).isNone = false := by rw [found]; rfl
      cases parsed : Document.ofText? text <;> cases s.named <;> simp [parsed]
  simp only [loaded, readDocument_ok, sections?, Option.bind_some, Option.map_eq_some_iff]
  constructor
  · rintro ⟨d, ⟨members, holds, read⟩, same⟩
    exact ⟨members, holds, d, read, same⟩
  · rintro ⟨members, holds, d, read, same⟩
    exact ⟨d, ⟨members, holds, read⟩, same⟩

theorem loadOnto_append (current : Sections) (first second : List Source) :
    (loadOnto place current (first ++ second)).result =
      (loadOnto place current first).result.bind fun file => (loadOnto place file second).result := by
  induction first generalizing current with
  | nil => rfl
  | cons s first ih =>
    rw [List.cons_append, loadOnto, loadOnto]
    cases (s.load place).result with
    | error e => rfl
    | ok said => exact ih (current.merge said)

theorem loadOnto_singleton (path : String) (named : Bool) {current merged : Sections} :
    (loadOnto place current [⟨path, named⟩]).result = .ok merged ↔
      ∃ members, Holds place path (some members) ∧ added current (some members) = merged := by
  have one : (loadOnto place current [⟨path, named⟩]).result =
      (Source.load place ⟨path, named⟩).result.map current.merge := by
    rw [loadOnto]
    cases (Source.load place ⟨path, named⟩).result <;> rfl
  rw [one, map_eq_ok]
  constructor
  · rintro ⟨said, loaded, rfl⟩
    obtain ⟨members, holds, read⟩ := source_load_ok.mp loaded
    exact ⟨members, holds, by rw [added, read]; rfl⟩
  · rintro ⟨members, holds, rfl⟩
    obtain ⟨d, read⟩ := exists_ofTree? holds.isFile
    have said : sections? (some members) = some d.sections := by rw [sections?, Option.bind_some, read]; rfl
    exact ⟨d.sections, source_load_ok.mpr ⟨members, holds, said⟩, by rw [added, said]; rfl⟩

/-- A file that need not be there. -/
theorem loadOnto_existing (path : String) {current merged : Sections} :
    (loadOnto place current (existing place path)).result = .ok merged ↔
      ∃ file, Holds place path file ∧ added current file = merged := by
  rw [existing]
  split
  next present =>
    rw [loadOnto_singleton]
    constructor
    · rintro ⟨members, holds, same⟩
      exact ⟨some members, holds, same⟩
    · rintro ⟨file, holds, same⟩
      obtain ⟨members, rfl⟩ := Option.isSome_iff_exists.mp (holds.isSome_eq.trans present)
      exact ⟨members, holds, same⟩
  next missing =>
    constructor
    · intro same
      exact ⟨none, .nothing (Option.not_isSome_iff_eq_none.mp missing), Except.ok.inj same⟩
    · rintro ⟨file, holds, same⟩
      obtain rfl : file = none := Option.not_isSome_iff_eq_none.mp (holds.isSome_eq ▸ missing)
      exact congrArg Except.ok same

theorem loadOnto_profile {merged : Sections} :
    (loadOnto place {} (profileSources place)).result = .ok merged ↔
      ∃ profile, ProfileHolds place profile ∧ added {} profile = merged := by
  rw [profileSources]
  simp only [ProfileHolds]
  cases place.home? with
  | none => simp [loadOnto, added, sections?]
  | some home => exact loadOnto_existing (profilePath home)

theorem loadOnto_overlay {current merged : Sections} {named : Option String} :
    (loadOnto place current (overlaySources place named)).result = .ok merged ↔
      ∃ overlay, OverlayHolds place overlay named ∧ added current overlay = merged := by
  cases named with
  | none => exact loadOnto_existing fileName
  | some path =>
    rw [overlaySources, loadOnto_singleton]
    constructor
    · rintro ⟨members, holds, same⟩
      exact ⟨some members, ⟨rfl, holds⟩, same⟩
    · rintro ⟨file, ⟨present, holds⟩, same⟩
      obtain ⟨members, rfl⟩ := Option.isSome_iff_exists.mp present
      exact ⟨members, holds, same⟩

/-- The files that are there are merged over nothing, the one in the home directory first. -/
theorem loadOnto_sources {named : Option String} {merged : Sections} :
    (loadOnto place {} (sources place named)).result = .ok merged ↔
      ∃ profile overlay, ProfileHolds place profile ∧ OverlayHolds place overlay named ∧
        added (added {} profile) overlay = merged := by
  rw [sources, loadOnto_append, bind_eq_ok]
  constructor
  · rintro ⟨current, first, second⟩
    obtain ⟨profile, profile_holds, rfl⟩ := loadOnto_profile.mp first
    obtain ⟨overlay, overlay_holds, rfl⟩ := loadOnto_overlay.mp second
    exact ⟨profile, overlay, profile_holds, overlay_holds, rfl⟩
  · rintro ⟨profile, overlay, profile_holds, overlay_holds, rfl⟩
    exact ⟨_, loadOnto_profile.mpr ⟨profile, profile_holds, rfl⟩, loadOnto_overlay.mpr ⟨overlay, overlay_holds, rfl⟩⟩

/-! ### Use -/

structure Usable (c : Configuration) : Prop where
  host : ∃ address, Net.Address.ofChars? c.host.toList = some address
  port : c.port ≠ 0
  url : "http://".toList <+: c.datasette.url.toList ∨ "https://".toList <+: c.datasette.url.toList
  database : c.datasette.database ≠ ""
  time : c.datasette.timeoutSeconds ≠ 0
  attempts : c.datasette.maxAttempts ≠ 0

theorem isAddress_iff {host : String} :
    isAddress host = true ↔ ∃ address, Net.Address.ofChars? host.toList = some address := Option.isSome_iff_exists

theorem isHttp_iff {url : String} : isHttp url = true ↔ "http://".toList <+: url.toList ∨ "https://".toList <+: url.toList := by
  rw [isHttp, Bool.or_eq_true, List.isPrefixOf_iff_prefix, List.isPrefixOf_iff_prefix]

/-- An empty host is no address, and an empty address is none of the web. -/
theorem fault?_eq_none_iff (c : Configuration) : c.fault? = none ↔ Usable c := by
  have host (address : isAddress c.host = true) : c.host ≠ "" := by
    rintro empty
    rw [empty] at address
    cases address
  have url (http : isHttp c.datasette.url = true) : c.datasette.url ≠ "" := by
    rintro empty
    rw [empty] at http
    cases http
  have passed : c.fault? = none ↔ ∀ check ∈ c.checks, check.1 = false := by
    rw [fault?, Option.map_eq_none_iff, List.find?_eq_none]
    simp only [Bool.not_eq_true]
  rw [passed]
  simp only [checks, List.forall_mem_cons, String.isEmpty_eq_false_iff, Bool.not_eq_false', beq_eq_false_iff_ne]
  constructor
  · rintro ⟨-, address, port, -, http, database, time, attempts, -⟩
    exact ⟨isAddress_iff.mp address, port, isHttp_iff.mp http, database, time, attempts⟩
  · intro usable
    have address := isAddress_iff.mpr usable.host
    have http := isHttp_iff.mpr usable.url
    exact ⟨host address, address, usable.port, url http, http, usable.database, usable.time, usable.attempts,
      List.forall_mem_nil _⟩

theorem checked_ok_iff {c c' : Configuration} : checked c = .ok c' ↔ Usable c ∧ c = c' := by
  rw [checked, ← fault?_eq_none_iff]
  cases c.fault? with
  | none => simp
  | some fault => simp

/-! ### Layers -/

def layered (l : Layer) (profile overlay : Option Members) : Configuration :=
  resolve l (added (added {} profile) overlay)

theorem layered_of (l : Layer) (profile overlay : Option Members) (f : Field) :
    Field.of (layered l profile overlay) f = f.decided l (f.inFile? overlay) (f.inFile? profile) := by
  -- Files are merged over no file at all, which gives nothing.
  have nothing : Field.given? {} f = none := by cases f <;> rfl
  rw [layered, resolve_of, given?_added, given?_added, nothing, Option.or_none, Field.decided, Option.or_assoc]

/-- Each field has its value from the first layer that gives it one. -/
def IsLayered (l : Layer) (profile overlay : Option Members) (c : Configuration) : Prop :=
  ∀ (f : Field) upper lower, f.IsGivenIn overlay upper → f.IsGivenIn profile lower → Field.of c f = f.decided l upper lower

variable {values : CommandLine.Values} {l : Layer} {c : Configuration}

theorem isLayered_iff (first : ProfileHolds place profile) (second : OverlayHolds place overlay values.config) :
    IsLayered l profile overlay c ↔ layered l profile overlay = c := by
  constructor
  · intro isLayered
    refine Field.ext fun f => ?_
    rw [layered_of, isLayered f _ _ (second.isGivenIn f) (first.isGivenIn f)]
  · rintro rfl f upper lower upper_given lower_given
    rw [layered_of, upper_given.unique (second.isGivenIn f), lower_given.unique (first.isGivenIn f)]

theorem load_result (first : ProfileHolds place profile) (second : OverlayHolds place overlay values.config) :
    (load place values).result = checked (layered values.layer profile overlay) := by
  have files := loadOnto_sources.mpr ⟨profile, overlay, first, second, rfl⟩
  rw [load, files]
  rfl

theorem load_ok_iff : (load place values).result = .ok c ↔ ∃ profile overlay, ProfileHolds place profile ∧
    OverlayHolds place overlay values.config ∧ IsLayered values.layer profile overlay c ∧ Usable c := by
  rw [load, bind_eq_ok]
  simp only [checked_ok_iff]
  constructor
  · rintro ⟨merged, read, usable, rfl⟩
    obtain ⟨profile, overlay, first, second, rfl⟩ := loadOnto_sources.mp read
    exact ⟨profile, overlay, first, second, (isLayered_iff first second).mpr rfl, usable⟩
  · rintro ⟨profile, overlay, first, second, isLayered, usable⟩
    obtain rfl := (isLayered_iff first second).mp isLayered
    exact ⟨_, loadOnto_sources.mpr ⟨profile, overlay, first, second, rfl⟩, usable, rfl⟩

/-- Each field of the configuration has its value from the first layer that has one, whatever the layers say of other fields and
whichever files are merged first; what a file gives for a field is what stands under its key.  Loading succeeds exactly if the
files that are there can be read and are files of configuration, the one that is named is there, and what is decided on can be
used, so that a value under another never matters. -/
theorem load_layered (place : Place) (values : CommandLine.Values) :
    (∀ (f : Field) members, IsFile members → ∃ value, f.IsGiven members value ∧ ∀ value', f.IsGiven members value' → value' = value) ∧
    (∀ profile overlay, ProfileHolds place profile → OverlayHolds place overlay values.config →
      ∃ c, (load place values).result = checked c ∧ IsLayered values.layer profile overlay c ∧
        ∀ c', IsLayered values.layer profile overlay c' → c' = c) ∧
    (∀ (place' : Place) (values' : CommandLine.Values) (profile overlay profile' overlay' : Option Members)
      (c c' : Configuration) (f : Field),
      ProfileHolds place profile → OverlayHolds place overlay values.config →
      ProfileHolds place' profile' → OverlayHolds place' overlay' values'.config →
      IsLayered values.layer profile overlay c → IsLayered values'.layer profile' overlay' c' →
      Field.set? values.layer f = Field.set? values'.layer f →
      (∀ value, f.IsGivenIn overlay value → f.IsGivenIn overlay' value) →
      (∀ value, f.IsGivenIn profile value → f.IsGivenIn profile' value) → Field.of c f = Field.of c' f) ∧
    (∀ a b c : Sections, resolve values.layer ((a.merge b).merge c) = resolve values.layer (a.merge (b.merge c))) ∧
    ((∃ c, (load place values).result = .ok c) ↔ ∃ profile overlay c, ProfileHolds place profile ∧
      OverlayHolds place overlay values.config ∧ IsLayered values.layer profile overlay c ∧ Usable c) ∧
    (∀ (place' : Place) (values' : CommandLine.Values) (profile overlay profile' overlay' : Option Members),
      ProfileHolds place profile → OverlayHolds place overlay values.config →
      ProfileHolds place' profile' → OverlayHolds place' overlay' values'.config →
      (∀ (f : Field) upper lower upper' lower', f.IsGivenIn overlay upper → f.IsGivenIn profile lower →
        f.IsGivenIn overlay' upper' → f.IsGivenIn profile' lower' →
        f.decided values.layer upper lower = f.decided values'.layer upper' lower') →
      (load place values).result = (load place' values').result) := by
  refine ⟨fun f members isFile => ?_, fun profile overlay first second => ?_, ?_, fun a b c => ?_, ?_, ?_⟩
  · obtain ⟨value, given⟩ := isFile.fields f
    exact ⟨value, given, fun value' other => other.unique given⟩
  · exact ⟨_, load_result first second, (isLayered_iff first second).mpr rfl,
      fun c' isLayered => ((isLayered_iff first second).mp isLayered).symm⟩
  · intro place' values' profile overlay profile' overlay' c c' f first second _ _ isLayered isLayered' set_same
      overlay_same profile_same
    have upper := second.isGivenIn f
    have lower := first.isGivenIn f
    rw [isLayered f _ _ upper lower, isLayered' f _ _ (overlay_same _ upper) (profile_same _ lower), Field.decided,
      Field.decided, set_same]
  · rw [Sections.merge_assoc]
  · simp only [load_ok_iff]
    constructor
    · rintro ⟨c, profile, overlay, loaded⟩
      exact ⟨profile, overlay, c, loaded⟩
    · rintro ⟨profile, overlay, c, loaded⟩
      exact ⟨c, profile, overlay, loaded⟩
  · intro place' values' profile overlay profile' overlay' first second first' second' alike
    have same : layered values.layer profile overlay = layered values'.layer profile' overlay' := Field.ext fun f => by
      rw [layered_of, layered_of, alike f _ _ _ _ (second.isGivenIn f) (first.isGivenIn f) (second'.isGivenIn f)
        (first'.isGivenIn f)]
    rw [load_result first second, load_result first' second', same]

def profileText : String :=
  "\x7b\"datasette\":\x7b\"url\":\"http://a\",\"timeout_secs\":45,\"param_mode\":\"inline\",\"max_attempts\":3\x7d,\"server\":\x7b\"port\":0\x7d\x7d"

def overlayText : String := "\x7b\"datasette\":\x7b\"database\":\"b\",\"url\":null,\"max_attempts\":4\x7d,\"server\":\x7b\"port\":7000\x7d\x7d"

/-- A home with a port that cannot be used, and a directory with another one; each of the two files gives fields that the other
leaves out or has as null. -/
def overlaid : Place where
  home? := some "/home"
  directory := "/srv"
  content? path :=
    if path = "/home/.entity-search/entity-search.json" then some (.file profileText)
    else if path = "/srv/entity-search.json" then some (.file overlayText)
    else none

theorem profileText_read : Document.ofText? profileText = some ⟨⟨some ⟨none, some 0⟩,
    some ⟨some "http://a", none, some 45, some .inline, some 3⟩⟩, []⟩ := by decide +kernel

theorem overlayText_read : Document.ofText? overlayText = some ⟨⟨some ⟨none, some 7000⟩,
    some ⟨none, some "b", none, none, some 4⟩⟩, []⟩ := by decide +kernel

theorem overlaid_loads : ∃ profile overlay, ProfileHolds overlaid (some profile) ∧ OverlayHolds overlaid (some overlay) none ∧
    Field.url.IsGiven profile (some "http://a") ∧ Field.url.IsGiven overlay none ∧
    Field.database.IsGiven profile none ∧ Field.database.IsGiven overlay (some "b") ∧
    Field.timeout.IsGiven profile (some 45) ∧ Field.mode.IsGiven profile (some .inline) ∧
    Field.attempts.IsGiven profile (some 3) ∧ Field.attempts.IsGiven overlay (some 4) ∧
    (load overlaid { layer := { timeoutSeconds := some 5 } }).result =
      .ok ⟨"127.0.0.1", 7000, "http://a", "b", 5, .inline, 4⟩ := by
  obtain ⟨profile, profile_spelled, profile_read⟩ := ofText?_eq_some_iff.mp profileText_read
  obtain ⟨overlay, overlay_spelled, overlay_read⟩ := ofText?_eq_some_iff.mp overlayText_read
  obtain ⟨profile_file, in_profile⟩ := ofTree?_isGiven profile_read
  obtain ⟨overlay_file, in_overlay⟩ := ofTree?_isGiven overlay_read
  have first : ProfileHolds overlaid (some profile) := Holds.file rfl profile_spelled profile_file
  have second : OverlayHolds overlaid (some overlay) none := Holds.file rfl overlay_spelled overlay_file
  obtain ⟨c, loaded, isLayered, -⟩ :=
    (load_layered overlaid { layer := { timeoutSeconds := some 5 } }).2.1 _ _ first second
  have planned : c = ⟨"127.0.0.1", 7000, "http://a", "b", 5, .inline, 4⟩ := Field.ext fun f =>
    (isLayered f _ _ (in_overlay f) (in_profile f)).trans (by cases f <;> rfl)
  refine ⟨profile, overlay, first, second, in_profile .url, in_overlay .url, in_profile .database, in_overlay .database,
    in_profile .timeout, in_profile .mode, in_profile .attempts, in_overlay .attempts, ?_⟩
  rw [loaded, planned]
  rfl

end Gazetteer.Configuration
