import RegionWiring.Proofs.Contributions
import RegionWiring.Proofs.Restart

namespace RegionWiring

open Properties (wellFormed)

namespace Source

def Blank (value : Option String) : Prop := ∀ s, value = some s → Text.trimmed s = ""

structure Unlocated (env : Environment) : Prop where
  common : Blank (env Key.location)
  own : ∀ file ∈ BaseFile.all, Blank (env (Key.resourceStem ++ file))

inductive Reads (env : Environment) (embedded : EmbeddedDocuments) (reader : Reader) (file text : String) : Prop where
  | embedded {location path : String} (located : locationOf env file = some location)
      (named : Location.read location = .ok (.embedded path)) (held : embedded.get? path = some text)
  | file {location : String} {path : Path} (located : locationOf env file = some location)
      (named : Location.read location = .ok (.file path)) (readable : reader path = .ok text)

-- Missing, unreadable and non-text files are reported.
inductive Unread (env : Environment) (embedded : EmbeddedDocuments) (reader : Reader) (file : String) : Prop where
  | unlocated (nowhere : locationOf env file = none)
  | unsupported {location : String} {cause : ConfigFault} (located : locationOf env file = some location)
      (refused : Location.read location = .error cause)
  | absent {location path : String} (located : locationOf env file = some location)
      (named : Location.read location = .ok (.embedded path)) (missing : embedded.get? path = none)
  | unreadable {location : String} {path : Path} {fault : FileFault} (located : locationOf env file = some location)
      (named : Location.read location = .ok (.file path)) (failed : reader path = .error fault)

-- The path ends at the place or passes through it.
def LiesAt (env : Environment) (files : FileTree) (file : String) (place : Place) : Prop :=
  ∃ location path, locationOf env file = some location ∧ Location.read location = .ok (.file path) ∧
    files.Passes place (files.start path) path.steps

theorem setting_eq_none_iff (env : Environment) (key : String) : setting env key = none ↔ Blank (env key) := by
  unfold setting Blank
  cases env key <;> simp [Option.filter_eq_none_iff]

theorem locationOf_eq_none_iff (env : Environment) (file : String) :
    locationOf env file = none ↔ Blank (env (Key.resourceStem ++ file)) ∧ Blank (env Key.location) := by
  rw [locationOf, Option.or_eq_none_iff, Option.map_eq_none_iff, setting_eq_none_iff, setting_eq_none_iff]

theorem entries_locationsOf (env : Environment) : (locationsOf env).entries =
    BaseFile.all.filterMap fun file => (locationOf env file).map (file, ·) := by
  refine Table.entries_ofList _ ?_
  have names : (BaseFile.all.filterMap fun file => (locationOf env file).map (file, ·)).map Prod.fst =
      BaseFile.all.filter fun file => (locationOf env file).isSome := by
    induction BaseFile.all with
    | nil => rfl
    | cons file rest ih => cases located : locationOf env file <;> simp [located, ih]
  have different : BaseFile.all.Nodup := by decide
  rw [names]
  exact different.filter _

theorem get?_locationsOf (env : Environment) {file : String} (base : file ∈ BaseFile.all) :
    (locationsOf env).get? file = locationOf env file := by
  rw [Table.get?, entries_locationsOf, Table.lookup_filterMap, if_pos base]

theorem isEmpty_locationsOf_iff (env : Environment) : (locationsOf env).isEmpty = true ↔ Unlocated env := by
  rw [Table.isEmpty, entries_locationsOf, List.isEmpty_iff, List.filterMap_eq_nil_iff]
  simp only [Option.map_eq_none_iff, locationOf_eq_none_iff]
  constructor
  · intro blank
    exact ⟨(blank BaseFile.regions (by decide)).2, fun file base => (blank file base).1⟩
  · intro unlocated file base
    exact ⟨unlocated.own file base, unlocated.common⟩

theorem ofEnvironment_unlocated {env : Environment} (unlocated : Unlocated env) (embedded : EmbeddedDocuments) :
    ofEnvironment env embedded = .error (.noConfiguration Key.location Key.resourceStem) :=
  if_pos ((isEmpty_locationsOf_iff env).2 unlocated)

theorem ofEnvironment_located {env : Environment} (located : ¬ Unlocated env) (embedded : EmbeddedDocuments) :
    ofEnvironment env embedded = .ok ⟨locationsOf env, embedded⟩ :=
  if_neg fun empty => located ((isEmpty_locationsOf_iff env).1 empty)

variable {env : Environment} {embedded : EmbeddedDocuments} {reader : Reader} {file text : String}

theorem textOf_located (base : file ∈ BaseFile.all) : (Source.mk (locationsOf env) embedded).textOf reader file =
    (locationOf env file).elim (.ok none) ((Source.mk (locationsOf env) embedded).textAt reader) := by
  unfold textOf location?
  rw [get?_locationsOf env base]
  cases locationOf env file <;> rfl

-- A missing file is no fault, but has no text.
theorem ifPresent_text (reader : Reader) (path : Path) : (reader.ifPresent path).toOption.join = (reader path).toOption := by
  unfold Reader.ifPresent
  cases reader path with
  | ok text => rfl
  | error fault => cases fault <;> rfl

theorem text?_of_reads (base : file ∈ BaseFile.all) (reads : Reads env embedded reader file text) :
    (Source.mk (locationsOf env) embedded).text? reader file = some text := by
  cases reads with
  | embedded located named held => simp [text?, textOf_located base, located, textAt, named, held, Except.toOption]
  | file located named readable =>
      simp only [text?, textOf_located base, located, Option.elim_some, textAt, named, toOption_mapError, ifPresent_text, readable]
      rfl

theorem text?_of_unread (base : file ∈ BaseFile.all) (unread : Unread env embedded reader file) :
    (Source.mk (locationsOf env) embedded).text? reader file = none := by
  cases unread with
  | unlocated nowhere => simp [text?, textOf_located base, nowhere, Except.toOption]
  | unsupported located refused => simp [text?, textOf_located base, located, textAt, refused, Except.toOption]
  | absent located named missing => simp [text?, textOf_located base, located, textAt, named, missing, Except.toOption]
  | unreadable located named failed =>
      simp only [text?, textOf_located base, located, Option.elim_some, textAt, named, toOption_mapError, ifPresent_text, failed]
      rfl

theorem reads_or_unread (env : Environment) (embedded : EmbeddedDocuments) (reader : Reader) (file : String) :
    (∃ text, Reads env embedded reader file text) ∨ Unread env embedded reader file := by
  cases located : locationOf env file with
  | none => exact .inr (.unlocated located)
  | some location =>
      cases named : Location.read location with
      | error cause => exact .inr (.unsupported located named)
      | ok lies =>
          cases lies with
          | embedded path =>
              cases held : embedded.get? path with
              | none => exact .inr (.absent located named held)
              | some text => exact .inl ⟨text, .embedded located named held⟩
          | file path =>
              cases result : reader path with
              | error fault => exact .inr (.unreadable located named result)
              | ok text => exact .inl ⟨text, .file located named result⟩

theorem reads_elsewhere {place : Place} {a b : FileTree} (differ : FileTree.DifferAt place a b)
    (apart : ¬ LiesAt env a file place) (reads : Reads env embedded a.read file text) : Reads env embedded b.read file text := by
  cases reads with
  | embedded located named held => exact .embedded located named held
  | file located named readable =>
      exact .file located named
        (FileTree.read_elsewhere differ (fun passes => apart ⟨_, _, located, named, passes⟩) readable)

theorem text?_elsewhere (base : file ∈ BaseFile.all) {place : Place} {a b : FileTree} (differ : FileTree.DifferAt place a b)
    (apart : ¬ LiesAt env a file place) (alsoApart : ¬ LiesAt env b file place) :
    (Source.mk (locationsOf env) embedded).text? a.read file = (Source.mk (locationsOf env) embedded).text? b.read file := by
  rcases reads_or_unread env embedded a.read file with ⟨text, reads⟩ | unread
  · rw [text?_of_reads base reads, text?_of_reads base (reads_elsewhere differ apart reads)]
  · rcases reads_or_unread env embedded b.read file with ⟨text, reads⟩ | alsoUnread
    · have before := text?_of_reads base (reads_elsewhere differ.symm alsoApart reads)
      rw [text?_of_unread base unread] at before
      cases before
    · rw [text?_of_unread base unread, text?_of_unread base alsoUnread]

end Source

namespace Contribution

def ofEntries (entries : List Properties.Entry) : Contribution :=
  ⟨entries.filterMap identified, typed BundleId.mk FeatureId.mk entries, typed FeatureId.mk Region.mk entries,
    typed Region.mk PackageName.mk entries⟩

end Contribution

namespace RegionTables

structure SameFor (file : String) (a b : RegionTables) : Prop where
  identities : file = BaseFile.identities → a.identities = b.identities
  bundles : file = BaseFile.bundles → a.bundles = b.bundles
  features : file = BaseFile.features → a.features = b.features
  regions : file = BaseFile.regions → a.regions = b.regions

theorem SameFor.symm {file : String} {a b : RegionTables} (same : SameFor file a b) : SameFor file b a :=
  ⟨fun h => (same.identities h).symm, fun h => (same.bundles h).symm, fun h => (same.features h).symm,
    fun h => (same.regions h).symm⟩

theorem SameFor.trans {file : String} {a b c : RegionTables} (first : SameFor file a b) (second : SameFor file b c) :
    SameFor file a c :=
  ⟨fun h => (first.identities h).trans (second.identities h), fun h => (first.bundles h).trans (second.bundles h),
    fun h => (first.features h).trans (second.features h), fun h => (first.regions h).trans (second.regions h)⟩

def ofText (text : Option String) : RegionTables := ofContributions [.ofEntries (Contribution.fileEntries text)]

end RegionTables

namespace Store

theorem tables_ofSource (source : Source) (env : Environment) (reader : Reader) (file : String) :
    (ofSource source env reader).value.tables.SameFor file (RegionTables.ofText (source.text? reader file)) := by
  have built : (ofSource source env reader).value.tables =
      RegionTables.ofContributions [(Contribution.ofSource source reader).value] := rfl
  rw [built, Contribution.ofSource_value]
  constructor
  all_goals
    intro same
    subst same
    rfl

end Store

namespace DataArea

def LiesAt (area : DataArea) (files : FileTree) (place : Place) : Prop :=
  files.Passes place (files.start (area.pathOf LocationTable.documentName)) (area.pathOf LocationTable.documentName).steps

theorem keptLocations_empty (area : DataArea) {files : FileTree}
    (useless : ∀ text, files.read (area.pathOf LocationTable.documentName) = .ok text → LocationTable.ofDocument text = none) :
    area.keptLocations files = .empty := by
  have nothing : (area.textOf? files LocationTable.documentName).bind LocationTable.ofDocument = none :=
    Option.bind_eq_none_iff.2 fun text held => useless text (textOf?_eq_some_iff.1 held)
  rw [keptLocations, nothing]
  rfl

theorem keptLocations_elsewhere (area : DataArea) {place : Place} {a b : FileTree} (differ : FileTree.DifferAt place a b)
    (apart : ¬ area.LiesAt a place) (alsoApart : ¬ area.LiesAt b place) : area.keptLocations a = area.keptLocations b := by
  rw [keptLocations, keptLocations, textOf?, textOf?, FileTree.text_elsewhere differ apart alsoApart]

end DataArea

namespace Session

variable {env : Environment}

theorem openStore_located (located : ¬ Source.Unlocated env) (embedded : EmbeddedDocuments) (area : Option DataArea) (files : FileTree) :
    ∃ opened, openStore env embedded area files = .ok opened ∧
      opened.value = ((Store.ofSource ⟨Source.locationsOf env, embedded⟩ env files.read).value,
        area.elim .empty (·.keptLocations files)) := by
  unfold openStore
  rw [Source.ofEnvironment_located located]
  refine ⟨_, rfl, ?_⟩
  refine congrArg (Prod.mk _) ?_
  cases area with
  | none => rfl
  | some area => exact loadLocations_value area files

-- Opening is refused only where no base file is located. A fault in one file leaves the tables of all others as they are.
theorem opening_contains_faults (env : Environment) (embedded : EmbeddedDocuments) (area : Option DataArea) (files : FileTree) :
    (∀ fault, openStore env embedded area files = .error fault ↔
      fault = .noConfiguration Key.location Key.resourceStem ∧ Source.Unlocated env) ∧
    (¬ Source.Unlocated env → ∃ source opened, Source.ofEnvironment env embedded = .ok source ∧
      openStore env embedded area files = .ok opened ∧
      opened.value = ((Store.ofSource source env files.read).value, area.elim .empty (·.keptLocations files)) ∧
      (∀ reader, ∀ file ∈ BaseFile.all,
        let tables := (Store.ofSource source env reader).value.tables
        (∀ text, Source.Reads env embedded reader file text →
          tables.SameFor file (RegionTables.ofContributions [.ofEntries (wellFormed text)])) ∧
        (Source.Unread env embedded reader file → tables.SameFor file .empty)) ∧
      (∀ a ∈ area, (∀ text, files.read (a.pathOf LocationTable.documentName) = .ok text → LocationTable.ofDocument text = none) →
        opened.value.2 = .empty) ∧
      ∀ place others otherArea reopened, FileTree.DifferAt place files others →
        openStore env embedded otherArea others = .ok reopened →
        (∀ file ∈ BaseFile.all, ¬ Source.LiesAt env files file place → ¬ Source.LiesAt env others file place →
          opened.value.1.tables.SameFor file reopened.value.1.tables) ∧
        (area = otherArea → (∀ a ∈ area, ¬ a.LiesAt files place ∧ ¬ a.LiesAt others place) →
          opened.value.2 = reopened.value.2)) := by
  refine ⟨?_, ?_⟩
  · intro fault
    by_cases unlocated : Source.Unlocated env
    · have refused : openStore env embedded area files = .error (.noConfiguration Key.location Key.resourceStem) := by
        unfold openStore
        rw [Source.ofEnvironment_unlocated unlocated]
        rfl
      rw [refused, Except.error.injEq, eq_comm]
      simp [unlocated]
    · obtain ⟨opened, accepted, _⟩ := openStore_located unlocated embedded area files
      simp [accepted, unlocated]
  · intro located
    obtain ⟨opened, accepted, parts⟩ := openStore_located located embedded area files
    refine ⟨_, opened, Source.ofEnvironment_located located embedded, accepted, parts, ?_, ?_, ?_⟩
    · intro reader file base tables
      have same := Store.tables_ofSource ⟨Source.locationsOf env, embedded⟩ env reader file
      constructor
      · intro text reads
        rw [Source.text?_of_reads base reads] at same
        exact same
      · intro unread
        rw [Source.text?_of_unread base unread] at same
        exact same
    · rintro a rfl useless
      rw [parts]
      exact a.keptLocations_empty useless
    · intro place others otherArea reopened differ acceptedAgain
      obtain ⟨again, sameAgain, otherParts⟩ := openStore_located located embedded otherArea others
      rw [acceptedAgain] at sameAgain
      cases sameAgain
      rw [parts, otherParts]
      refine ⟨?_, ?_⟩
      · intro file base apart alsoApart
        have here := Store.tables_ofSource ⟨Source.locationsOf env, embedded⟩ env files.read file
        have there := Store.tables_ofSource ⟨Source.locationsOf env, embedded⟩ env others.read file
        rw [← Source.text?_elsewhere base differ apart alsoApart] at there
        exact here.trans there.symm
      · rintro rfl apart
        cases area with
        | none => rfl
        | some area => exact area.keptLocations_elsewhere differ (apart area rfl).1 (apart area rfl).2

def scattered : Environment := fun key =>
  if key = Key.location then some " classloader://c/ "
  else if key = Key.resourceStem ++ BaseFile.features then some "/f"
  else if key = Key.resourceStem ++ BaseFile.bundles then some "gopher:b"
  else if key = Key.resourceStem ++ BaseFile.regions then some " "
  else none

def oneFile (content : Content) : FileTree := ⟨Table.empty.insert [[102]] (.file content), []⟩

-- The features become unreadable, the table of regions stays.
theorem opening_contains_faults_scattered :
    let embedded := EmbeddedDocuments.ofList [("c/regions.properties", "r=p\nno separator\n")]
    let place : Place := [[102]]
    ∃ opened reopened,
      openStore scattered embedded (some ⟨.ofString "d"⟩) (oneFile (.text "f=r")) = .ok opened ∧
      openStore scattered embedded none (oneFile .undecodable) = .ok reopened ∧ ¬ Source.Unlocated scattered ∧
      FileTree.DifferAt place (oneFile (.text "f=r")) (oneFile .undecodable) ∧
      Source.Unread scattered embedded (oneFile (.text "f=r")).read BaseFile.bundles ∧
      Source.Reads scattered embedded (oneFile (.text "f=r")).read BaseFile.features "f=r" ∧
      Source.Unread scattered embedded (oneFile .undecodable).read BaseFile.features ∧
      opened.value.1.tables.SameFor BaseFile.bundles .empty ∧
      opened.value.1.tables.SameFor BaseFile.features (RegionTables.ofContributions [.ofEntries (wellFormed "f=r")]) ∧
      opened.value.1.tables.SameFor BaseFile.regions reopened.value.1.tables ∧
      reopened.value.1.tables.regions.keys = [⟨"r"⟩] ∧ opened.value.2 = .empty := by
  intro embedded place
  have location : Source.locationOf scattered BaseFile.features = some "/f" := by decide +kernel
  have path : Location.read "/f" = .ok (.file (.ofString "/f")) := by decide +kernel
  have useless : Source.locationOf scattered BaseFile.bundles = some "gopher:b" := by decide +kernel
  have embeddedAt : Source.locationOf scattered BaseFile.regions = some "classloader://c/regions.properties" := by decide +kernel
  have inside : Location.read "classloader://c/regions.properties" = .ok (.embedded "c/regions.properties") := by decide +kernel
  have located : ¬ Source.Unlocated scattered := by
    intro unlocated
    have blank := unlocated.common " classloader://c/ " rfl
    revert blank
    decide +kernel
  have differ : FileTree.DifferAt place (oneFile (.text "f=r")) (oneFile .undecodable) := by
    refine ⟨rfl, ?_⟩
    intro other apart
    have absent (content : Content) : (oneFile content).nodes.get? other = none :=
      (Table.get?_insert _ _ other _).trans (if_neg (Ne.symm apart))
    rw [FileTree.at?, FileTree.at?, absent, absent]
  have apart (files : FileTree) : ¬ Source.LiesAt scattered files BaseFile.regions place := by
    rintro ⟨found, path, same, named, _⟩
    rw [embeddedAt] at same
    cases same
    rw [inside] at named
    cases named
  have unsupported : Source.Unread scattered embedded (oneFile (.text "f=r")).read BaseFile.bundles :=
    .unsupported useless (by decide +kernel : Location.read "gopher:b" = .error (.unsupportedLocation "gopher:b"))
  have reads : Source.Reads scattered embedded (oneFile (.text "f=r")).read BaseFile.features "f=r" :=
    .file location path (by decide +kernel)
  have unread : Source.Unread scattered embedded (oneFile .undecodable).read BaseFile.features :=
    .unreadable location path (by decide +kernel : (oneFile .undecodable).read (.ofString "/f") = .error .undecodable)
  obtain ⟨-, opens⟩ := opening_contains_faults scattered embedded (some ⟨.ofString "d"⟩) (oneFile (.text "f=r"))
  obtain ⟨source, opened, _, accepted, parts, each, unkept, others⟩ := opens located
  obtain ⟨reopened, again, _⟩ := openStore_located located embedded none (oneFile .undecodable)
  have tables : opened.value.1.tables = (Store.ofSource source scattered (oneFile (.text "f=r")).read).value.tables := by rw [parts]
  obtain ⟨kept, _⟩ := others place _ none reopened differ again
  refine ⟨opened, reopened, accepted, again, located, differ, unsupported, reads, unread, ?_, ?_,
    kept _ (by decide) (apart _) (apart _), ?_, ?_⟩
  · rw [tables]
    exact (each _ _ (by decide)).2 unsupported
  · rw [tables]
    exact (each _ _ (by decide)).1 _ reads
  · cases again
    decide +kernel
  · have missing : (oneFile (.text "f=r")).read ((DataArea.mk (.ofString "d")).pathOf LocationTable.documentName) = .error .missing := by
      decide +kernel
    refine unkept ⟨.ofString "d"⟩ rfl fun text found => ?_
    rw [missing] at found
    cases found

end Session
end RegionWiring
