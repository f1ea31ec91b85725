import RegionWiring.Proofs.IdentityTexts
import RegionWiring.Proofs.LocationDocument
import RegionWiring.Proofs.MergedTables
import RegionWiring.Proofs.RecordForms
import RegionWiring.Proofs.SessionRuns

namespace RegionWiring

namespace RegionTables

def listings? : Json → Option (List (String × List String))
  | .record fields => fields.mapM fun field => (ofJson? field.2).map (field.1, ·)
  | _ => none

def setsOf {α β : Type} [DecidableEq α] [DecidableEq β] (key : String → α) (name : String → β)
    (listings : List (String × List String)) : Table α (Members β) :=
  Table.ofList (listings.map fun listing => (key listing.1, Members.ofList (listing.2.map name)))

def identityListing? (listing : String × List String) : Option (BundleIdentity × List BundleId) :=
  (BundleIdentity.read listing.1).toOption.map fun identity => (identity, listing.2.map BundleId.mk)

def ofForm? (j : Json) : Option RegionTables :=
  match JsonForm.fieldValues ["bsnVerMap", "bundleFeatureMap", "featureRegionMap", "regionPackageMap"] j with
  | some [some identities, some bundles, some features, some regions] => do
      let identities ← (← listings? identities).mapM identityListing?
      let bundles ← listings? bundles
      let features ← listings? features
      let regions ← listings? regions
      return ⟨Table.ofList identities, setsOf BundleId.mk FeatureId.mk bundles, setsOf FeatureId.mk Region.mk features,
        setsOf Region.mk PackageName.mk regions⟩
  | _ => none

def ofText? (text : String) : Option RegionTables := (Json.read text).bind ofForm?

section Listings

variable {α β : Type}

def objectOf (listings : List (String × List String)) : Json :=
  .record (listings.map fun listing => (listing.1, .texts listing.2))

theorem listings?_objectOf (listings : List (String × List String)) : listings? (objectOf listings) = some listings := by
  show (listings.map fun listing => (listing.1, Json.texts listing.2)).mapM (m := Option)
    (fun field => (ofJson? field.2).map (field.1, ·)) = some listings
  induction listings with
  | nil => rfl
  | cons listing rest ih =>
      have read : ofJson? (Json.texts listing.2) = some listing.2 := LawfulForm.ofJson_toJson listing.2
      simp [read, ih]

theorem native_objectOf (listings : List (String × List String)) : (objectOf listings).Native := by
  show Json.NativeFields (listings.map fun listing => (listing.1, Json.texts listing.2))
  induction listings with
  | nil => trivial
  | cons listing rest ih => exact ⟨LawfulForm.native listing.2, ih⟩

def listingsOf (key : α → String) (name : β → String) (t : Table α (Members β)) : List (String × List String) :=
  t.entries.map fun entry => (key entry.1, entry.2.items.map name)

theorem setsForm_eq (key : α → String) (name : β → String) (t : Table α (Members β)) :
    setsForm key name t = objectOf (listingsOf key name t) := by
  simp [setsForm, objectOf, listingsOf, listForm, Function.comp_def]

variable [DecidableEq α] [DecidableEq β]

theorem setsOf_listingsOf {key : α → String} {name : β → String} {readKey : String → α} {readName : String → β}
    (keyBack : ∀ a, readKey (key a) = a) (nameBack : ∀ b, readName (name b) = b) (t : Table α (Members β)) :
    setsOf readKey readName (listingsOf key name t) = t := by
  have each : (listingsOf key name t).map (fun listing => (readKey listing.1, Members.ofList (listing.2.map readName))) =
      t.entries := by
    simp [listingsOf, Function.comp_def, keyBack, nameBack, Members.ofList_items]
  rw [setsOf, each]
  exact Table.eq_of_entries (Table.entries_ofList t.entries t.distinct)

end Listings

section Identities

def Named (t : RegionTables) : Prop := ∀ identity ∈ t.identities.keys, identity.Readable

def identityListings (t : RegionTables) : List (String × List String) :=
  t.identities.entries.map fun entry => (entry.1.render, entry.2.map BundleId.name)

variable {t : RegionTables} (named : t.Named)
include named

-- No two identities share a key.
theorem entries_identitiesByText :
    (identitiesByText t.identities).entries = t.identities.entries.map fun entry => (entry.1.render, entry.2) := by
  apply Table.entries_ofList
  have keys : (t.identities.entries.map fun entry => (entry.1.render, entry.2)).map Prod.fst =
      t.identities.keys.map BundleIdentity.render := by
    simp [Table.keys, Function.comp_def]
  rw [keys]
  refine List.Nodup.map_on ?_ t.identities.distinct
  intro a first b second same
  exact BundleIdentity.render_inj (named a first) (named b second) same

theorem form_eq : t.form = .record [
    ("bsnVerMap", objectOf (identityListings t)),
    ("bundleFeatureMap", objectOf (listingsOf BundleId.name FeatureId.name t.bundles)),
    ("featureRegionMap", objectOf (listingsOf FeatureId.name Region.name t.features)),
    ("regionPackageMap", objectOf (listingsOf Region.name PackageName.name t.regions))] := by
  have identities : (identitiesByText t.identities).entries.map (fun entry => (entry.1, listForm BundleId.name entry.2)) =
      (identityListings t).map fun listing => (listing.1, Json.texts listing.2) := by
    rw [entries_identitiesByText named]
    simp [identityListings, listForm, Function.comp_def]
  rw [form, identities, setsForm_eq, setsForm_eq, regionForm, setsForm_eq]
  rfl

theorem identityListings_read : (identityListings t).mapM identityListing? = some t.identities.entries := by
  have each : ∀ entry ∈ t.identities.entries,
      identityListing? (entry.1.render, entry.2.map BundleId.name) = some entry := by
    intro entry inside
    have read := BundleIdentity.read_render (named entry.1 (List.mem_map_of_mem inside))
    simp [identityListing?, read, Except.toOption, Function.comp_def]
  unfold identityListings
  generalize t.identities.entries = entries at each
  induction entries with
  | nil => rfl
  | cons entry rest ih =>
      obtain ⟨first, others⟩ := List.forall_mem_cons.1 each
      simp [first, ih others]

theorem ofForm?_form : ofForm? t.form = some t := by
  have distinct : ["bsnVerMap", "bundleFeatureMap", "featureRegionMap", "regionPackageMap"].Nodup := by decide
  have given := JsonForm.gives_record [
    ("bsnVerMap", objectOf (identityListings t)),
    ("bundleFeatureMap", objectOf (listingsOf BundleId.name FeatureId.name t.bundles)),
    ("featureRegionMap", objectOf (listingsOf FeatureId.name Region.name t.features)),
    ("regionPackageMap", objectOf (listingsOf Region.name PackageName.name t.regions))]
  have fields := (JsonForm.fieldValues_eq_some_iff distinct).2 ⟨rfl, given⟩
  have identities : Table.ofList t.identities.entries = t.identities :=
    Table.eq_of_entries (Table.entries_ofList t.identities.entries t.identities.distinct)
  simp only [List.map_cons, List.map_nil] at fields
  rw [form_eq named, ofForm?, fields]
  simp [listings?_objectOf, identityListings_read named, setsOf_listingsOf, identities]

theorem native_form : t.form.Native := by
  rw [form_eq named]
  exact ⟨native_objectOf _, native_objectOf _, native_objectOf _, native_objectOf _, trivial⟩

theorem ofText?_compact : ofText? t.form.compact = some t := by
  rw [ofText?, Json.read_compact (native_form named)]
  exact ofForm?_form named

end Identities

end RegionTables

def Contribution.Named (c : Contribution) : Prop := ∀ entry ∈ c.identities, entry.1.Readable

namespace Contribution

theorem named_ofSource (source : Source) (reader : Reader) : (ofSource source reader).value.Named := by
  rw [ofSource_value]
  intro entry inside
  obtain ⟨line, _, listed⟩ := List.mem_filterMap.1 inside
  obtain ⟨identity, read, rfl⟩ := Option.map_eq_some_iff.1 listed
  exact BundleIdentity.readable_of_read (toOption_eq_some_iff.1 read)

theorem named_ofUpdate (id : String) (update : Update) : (ofUpdate id update).value.Named := by
  rw [ofUpdate_value]
  intro entry inside
  obtain ⟨line, _, listed⟩ := List.mem_filterMap.1 inside
  unfold identifiedBy at listed
  split at listed
  · obtain ⟨identity, read, rfl⟩ := Option.map_eq_some_iff.1 listed
    exact BundleIdentity.readable_of_read (toOption_eq_some_iff.1 read)
  · cases listed

end Contribution

theorem RegionTables.named_ofContributions {sources : List Contribution} (named : ∀ c ∈ sources, c.Named) :
    (ofContributions sources).Named := by
  rw [ofContributions_eq]
  intro identity inside
  obtain ⟨entry, listed, rfl, _⟩ := ((gathers_listIdentity _).present identity).1 inside
  obtain ⟨c, source, among⟩ := List.mem_flatMap.1 listed
  exact named c source entry among

namespace Store

structure Named (s : Store) : Prop where
  base : s.base.Named
  overlays : ∀ id overlay, s.overlays.get? id = some overlay → overlay.Named

theorem named_ofSource (source : Source) (env : Environment) (reader : Reader) : (ofSource source env reader).value.Named := by
  refine ⟨Contribution.named_ofSource source reader, ?_⟩
  intro id overlay found
  cases found

theorem named_change {s : Store} (named : s.Named) (c : Change) : (s.change c).Named := by
  cases c with
  | apply id update =>
      rw [change_apply]
      refine ⟨named.base, ?_⟩
      intro other overlay found
      have stored : (s.overlays.insert id (contributed (id, update)).2).get? other = some overlay := found
      rw [Table.get?_insert] at stored
      split at stored
      · cases stored
        exact Contribution.named_ofUpdate id update
      · exact named.overlays other overlay stored
  | remove id =>
      cases active : s.overlays.contains id with
      | false => rw [change_remove_inactive s id active]; exact named
      | true =>
          rw [change_remove_active s id active]
          refine ⟨named.base, ?_⟩
          intro other overlay found
          have stored : (s.overlays.erase id).get? other = some overlay := found
          rw [Table.get?_erase] at stored
          split at stored
          · cases stored
          · exact named.overlays other overlay stored

theorem named_tables {s : Store} (named : s.Named) (opened : Opened s.base s.defaultRegions s.joinedRegions s) : s.tables.Named := by
  rw [opened.tables]
  apply RegionTables.named_ofContributions
  intro c source
  rcases List.mem_cons.1 source with rfl | overlay
  · exact named.base
  · obtain ⟨entry, inside, rfl⟩ := List.mem_map.1 overlay
    exact named.overlays entry.1 entry.2 ((Table.get?_eq_some_iff _ _ _).2 inside)

end Store

namespace Session

def Reached (s : Session) : Prop :=
  ∃ env embedded area files opened steps, start env embedded area files = .ok opened ∧ s = opened.value.after steps

theorem named_next {s : Session} (able : s.Reopenable) (named : s.store.Named) (step : Step) : (s.next step).store.Named := by
  rcases next_cases able step with ⟨_, moved⟩ | ⟨rfl, _⟩
  · rw [moved.store]
    cases step.change? with
    | none => exact named
    | some c => exact Store.named_change named c
  · obtain ⟨source, parts⟩ := next_reopen_parts able
    rw [parts]
    exact Store.named_ofSource source s.env s.files.read

theorem named_after {s : Session} (able : s.Reopenable) (named : s.store.Named) (steps : List Step) : (s.after steps).store.Named := by
  have keeps {s : Session} (step : Step) (both : s.Reopenable ∧ s.store.Named) : (s.next step).Reopenable ∧ (s.next step).store.Named :=
    ⟨next_reopenable both.1 step, named_next both.1 both.2 step⟩
  exact (after_invariant (P := fun s => s.Reopenable ∧ s.store.Named) keeps ⟨able, named⟩ steps).2

theorem Reached.named {s : Session} (reached : s.Reached) : s.store.tables.Named := by
  obtain ⟨env, embedded, area, files, opened, steps, started, rfl⟩ := reached
  obtain ⟨_, able⟩ := start_facts started
  obtain ⟨source, parts⟩ := start_parts started
  have named : opened.value.store.Named := by
    rw [parts]
    exact Store.named_ofSource source env files.read
  exact Store.named_tables (named_after able named steps) (after_rebuilt able (start_rebuilt started) steps)

theorem ask_tablesText_iff {s : Session} {text : String} :
    s.ask .tablesText = .ok (.text text) ↔ s.store.tables.form.compact = text := by
  constructor
  · intro asked
    injection asked with answer
    injection answer
  · rintro rfl
    rfl

theorem tables_read_back {s : Session} (reached : s.Reached) :
    ∃ text, s.ask .tablesText = .ok (.text text) ∧ RegionTables.ofText? text = some s.store.tables ∧
      (∀ identity ∈ s.store.tables.identities.keys, BundleIdentity.read identity.render = .ok identity) ∧
      (RegionTables.identitiesByText s.store.tables.identities).keys = s.store.tables.identities.keys.map BundleIdentity.render ∧
      ∀ t : Session, t.Reached → t.ask .tablesText = .ok (.text text) → t.store.tables = s.store.tables := by
  have back := RegionTables.ofText?_compact reached.named
  refine ⟨_, rfl, back, ?_, ?_, ?_⟩
  · intro identity inside
    exact BundleIdentity.read_render (reached.named identity inside)
  · rw [Table.keys, RegionTables.entries_identitiesByText reached.named]
    simp [Table.keys, Function.comp_def]
  · intro t alsoReached same
    have otherBack := RegionTables.ofText?_compact alsoReached.named
    rw [ask_tablesText_iff.1 same, back] at otherBack
    exact (Option.some.inj otherBack).symm

-- One identity in two spellings, and a name that needs escaping.
theorem tables_read_back_escaped :
    let env : Environment := fun key => if key = Key.location then some "classloader://c" else none
    let embedded := EmbeddedDocuments.ofList [("c/idbsnver.properties", "b~1=y,x,y\nb~1.0.0=y\n")]
    ∃ opened, start env embedded none ⟨.empty, []⟩ = .ok opened ∧
      let s := opened.value.after [.applyOverlay "o" (SortedTable.ofList [(Key.bundleIdentities, .list ["z=a\"é~2.0.0.q"])])]
      let text := "\x7b\"bsnVerMap\":\x7b\"b~1.0.0\":[\"y\",\"x\",\"y\",\"y\"],\"a\\\"é~2.0.0.q\":[\"z\"]\x7d" ++
        ",\"bundleFeatureMap\":\x7b\x7d,\"featureRegionMap\":\x7b\x7d,\"regionPackageMap\":\x7b\x7d\x7d"
      s.Reached ∧ s.ask .tablesText = .ok (.text text) ∧ RegionTables.ofText? text = some s.store.tables ∧
      s.store.tables.identities.entries = [(⟨"b", ⟨1, 0, 0, none⟩⟩, [⟨"y"⟩, ⟨"x"⟩, ⟨"y"⟩, ⟨"y"⟩]), (⟨"a\"é", ⟨2, 0, 0, some "q"⟩⟩, [⟨"z"⟩])] := by
  intro env embedded
  refine ⟨_, rfl, ?_⟩
  intro s text
  have reached : s.Reached := ⟨env, embedded, none, ⟨.empty, []⟩, _, _, rfl, rfl⟩
  have written : s.store.tables.form.compact = text := by decide +kernel
  obtain ⟨found, asked, back, _⟩ := tables_read_back reached
  rw [← ask_tablesText_iff.1 asked, written] at back
  exact ⟨reached, ask_tablesText_iff.2 written, back, by decide +kernel⟩

end Session
end RegionWiring
