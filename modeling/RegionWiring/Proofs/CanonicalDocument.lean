import Mathlib.Data.Set.Insert
import RegionWiring.Proofs.Persisting

namespace RegionWiring

-- The keys there are, and the features of each.
abbrev Contents := String → Option (Set String)

namespace Contents

def alter (c : Contents) : Step → Contents
  | .addLocation key feature => Function.update c key (some (insert feature ((c key).getD ∅)))
  | .replaceLocation key features => Function.update c key (some {feature | feature ∈ features})
  | .removeLocation key => Function.update c key none
  | _ => c

-- Each key once, its features in any order and any number of times.
structure ListedBy (c : Contents) (listing : List (String × List String)) : Prop where
  once : (listing.map Prod.fst).Nodup
  told : ∀ key, c key = (SortedTable.lookup key listing).map fun features => {feature | feature ∈ features}

structure Ascending (listing : List (String × List String)) : Prop where
  keys : (listing.map Prod.fst).Pairwise (· < ·)
  features : ∀ entry ∈ listing, entry.2.Pairwise (· < ·)

end Contents

namespace LocationTable

def contents (t : LocationTable) : Contents := fun key => (t.get? key).map fun features => {feature | feature ∈ features.items}

def ofListing (listing : List (String × List String)) : LocationTable :=
  SortedTable.ofList (listing.map fun entry => (entry.1, SortedSet.ofList entry.2))

def listing (t : LocationTable) : List (String × List String) := t.entries.map fun entry => (entry.1, entry.2.items)

def written (listing : List (String × List String)) : String :=
  (Json.record (listing.map fun entry => (entry.1, Json.texts entry.2))).indented

variable {t u : LocationTable}

theorem contents_inj : t.contents = u.contents ↔ t = u := by
  have injective : Function.Injective fun features : SortedSet => {feature | feature ∈ features.items} :=
    fun _ _ same => SortedSet.eq_of_mem (Set.ext_iff.1 same)
  constructor
  · intro same
    exact SortedTable.eq_of_get? fun key => Option.map_injective injective (congrFun same key)
  · rintro rfl
    rfl

theorem contents_relocate (t : LocationTable) (step : Step) : contents (step.relocate t) = t.contents.alter step := by
  cases step with
  | addLocation key feature =>
      funext k
      by_cases same : key = k
      · subst same
        have members : {f | f ∈ (((t.get? key).getD .empty).insert feature).items} = insert feature ((t.contents key).getD ∅) := by
          ext f
          rw [Set.mem_ofPred_eq, SortedSet.mem_insert, Set.mem_insert_iff, contents]
          cases t.get? key <;> simp [SortedSet.empty]
        simpa [Step.relocate, add, contents, Contents.alter, SortedTable.get?_insert] using members
      · simp [Step.relocate, add, contents, Contents.alter, SortedTable.get?_insert, same, Ne.symm same]
  | replaceLocation key features =>
      funext k
      by_cases same : key = k
      · subst same
        simp [Step.relocate, replace, contents, Contents.alter, SortedTable.get?_insert, SortedSet.mem_ofList]
      · simp [Step.relocate, replace, contents, Contents.alter, SortedTable.get?_insert, same, Ne.symm same]
  | removeLocation key =>
      funext k
      by_cases same : key = k
      · subst same
        simp [Step.relocate, remove, contents, Contents.alter, SortedTable.get?_erase]
      · simp [Step.relocate, remove, contents, Contents.alter, SortedTable.get?_erase, same, Ne.symm same]
  | ask | askPolicy | applyOverlay | removeOverlay | deleteOverlay | hold | persist | reopen | putFile | putInArea | switch
  | manage | begin | finish => rfl

theorem contents_ofListing {listing : List (String × List String)} (once : (listing.map Prod.fst).Nodup) (key : String) :
    (ofListing listing).contents key = (SortedTable.lookup key listing).map fun features => {feature | feature ∈ features} := by
  have found : (ofListing listing).get? key = (SortedTable.lookup key listing).map SortedSet.ofList := by
    rw [ofListing, SortedTable.get?_ofList, ← List.map_reverse, SortedTable.lookup_map,
      SortedTable.lookup_perm listing.reverse_perm once]
  simp [contents, found, Function.comp_def, SortedSet.mem_ofList]

-- The order of a listing does not show in the table.
theorem ofListing_eq {listing : List (String × List String)} (listed : t.contents.ListedBy listing) : ofListing listing = t :=
  contents_inj.1 (funext fun key => (contents_ofListing listed.once key).trans (listed.told key).symm)

theorem listed (t : LocationTable) : t.contents.ListedBy t.listing := by
  have keys : t.listing.map Prod.fst = t.entries.map Prod.fst := by simp [listing, Function.comp_def]
  refine ⟨keys ▸ t.keys_distinct, fun key => ?_⟩
  rw [listing, SortedTable.lookup_map, Option.map_map]
  rfl

theorem ascending (t : LocationTable) : Contents.Ascending t.listing := by
  have keys : t.listing.map Prod.fst = t.entries.map Prod.fst := by simp [listing, Function.comp_def]
  refine ⟨keys ▸ t.sorted, fun entry inside => ?_⟩
  obtain ⟨entry, _, rfl⟩ := List.mem_map.1 inside
  exact entry.2.sorted

theorem document_eq_written (t : LocationTable) : t.document = written t.listing := by
  show (toJson t).indented = _
  rw [written, listing, List.map_map]
  rfl

theorem document_inj : t.document = u.document ↔ t = u := by
  constructor
  · intro same
    have read := ofDocument_document t
    rw [same, ofDocument_document] at read
    exact (Option.some.inj read).symm
  · rintro rfl
    rfl

end LocationTable

namespace Session

def Writes (s : Session) (obstacles : Obstacles) (text : String) : Prop :=
  ∃ area, s.area = some area ∧ (s.persist obstacles).2 = .ok .done ∧
    area.read (s.persist obstacles).1.files LocationTable.documentName = .ok (some text)

def documentText? (s : Session) : Option String := s.area.bind fun area => area.textOf? s.files LocationTable.documentName

-- Persisting saves the present contents, reopening returns to the saved ones.
def recalled (s : Session) (present kept : Contents) : List Step → Contents
  | [] => present
  | step :: rest =>
      recalled (s.next step) (if step.reopens then kept else present.alter step) (if s.saves step then present else kept) rest

variable {s : Session} {area : DataArea} {obstacles : Obstacles} {text : String}

theorem writes_document (configured : s.area = some area) (done : (s.persist obstacles).2 = .ok .done) :
    s.Writes obstacles s.locations.document := by
  refine ⟨area, configured, done, ?_⟩
  rw [persist_configured configured] at done ⊢
  rcases written : area.persistLocations obstacles s.files s.locations with ⟨files, fault | _⟩
  · rw [written] at done
    cases done
  · exact DataArea.read_eq_some_iff.2 (DataArea.textOf?_eq_some_iff.1 (DataArea.write_done written))

theorem eq_document_of_writes (writes : s.Writes obstacles text) : text = s.locations.document := by
  obtain ⟨area, configured, done, found⟩ := writes
  obtain ⟨other, alsoConfigured, _, alsoFound⟩ := writes_document configured done
  cases Option.some.inj (configured.symm.trans alsoConfigured)
  cases Except.ok.inj (found.symm.trans alsoFound)
  rfl

theorem documentText?_persist (held : s.documentText? = some text) (obstacles : Obstacles) :
    (s.persist obstacles).1.documentText? = some text ∨ (s.persist obstacles).1.documentText? = some s.locations.document := by
  obtain ⟨area, configured, there⟩ := Option.bind_eq_some_iff.1 held
  have still (files : FileTree) : documentText? { s with files } = area.textOf? files LocationTable.documentName := by
    simp [documentText?, configured]
  rw [persist_configured configured, still]
  rcases written : area.persistLocations obstacles s.files s.locations with ⟨files, fault | _⟩
  · exact .inl (DataArea.textOf?_failed written there)
  · exact .inr (DataArea.write_done written)

-- Reopening loads the table of the document, which the next persist writes again.
theorem reopen_after_persist (able : s.Reopenable) (writes : s.Writes obstacles text) :
    (s.after [.persist obstacles, .reopen]).documentText? = some text ∧
      (s.after [.persist obstacles, .reopen]).locations.document = text := by
  obtain rfl := eq_document_of_writes writes
  obtain ⟨area, configured, done, found⟩ := writes
  have persisted : s.next (.persist obstacles) =
      { s with files := (area.persistLocations obstacles s.files s.locations).1 } := by
    show (s.persist obstacles).1 = _
    rw [persist_configured configured]
  have loaded : area.loadLocations (s.next (.persist obstacles)).files = .ok s.locations := DataArea.loadLocations_of_read found
  obtain ⟨source, parts⟩ := next_reopen_parts (next_reopenable able (.persist obstacles))
  have again : s.after [.persist obstacles, .reopen] = (s.next (.persist obstacles)).next .reopen := rfl
  have still : (s.next (.persist obstacles)).area = some area := by
    rw [persisted]
    exact configured
  rw [again, parts]
  constructor
  · simp only [documentText?, still, Option.bind_some]
    exact DataArea.textOf?_eq_some_iff.2 (DataArea.read_eq_some_iff.1 found)
  · simp only [still, loadLocations, loaded]
    rfl

theorem next_contents (able : s.Reopenable) {kept : LocationTable} (keeps : Keeps area kept s) (step : Step) :
    (s.next step).locations.contents = if step.reopens then kept.contents else s.locations.contents.alter step := by
  rcases next_cases able step with ⟨stays, moved⟩ | ⟨rfl, _⟩
  · rw [moved.locations, stays]
    exact LocationTable.contents_relocate s.locations step
  · obtain ⟨source, parts⟩ := next_reopen_parts able
    rw [parts, keeps.present, loadLocations_value, keeps.loaded]
    rfl

theorem after_contents (able : s.Reopenable) {kept : LocationTable} (keeps : Keeps area kept s) {steps : List Step}
    (alone : ∀ step ∈ steps, step.intrudes = false) (steady : area.Secluded s.files ∨ s.Clear steps) :
    (s.after steps).locations.contents = recalled s s.locations.contents kept.contents steps := by
  induction steps generalizing kept s with
  | nil => rfl
  | cons step rest ih =>
      obtain ⟨first, others⟩ := List.forall_mem_cons.1 alone
      have later := ih (next_reopenable able step) (next_keeps keeps first (steady.imp_right And.left)) others
        (next_steady keeps.present first steady)
      rw [next_contents able keeps step] at later
      show ((s.next step).after rest).locations.contents = _
      rw [later, recalled, apply_ite LocationTable.contents]

-- The text depends on the contents alone, not on the order in which they were added. After reopening it stays through the next
-- persist, whether that succeeds or not.
theorem persisted_document_canonical {env : Environment} {embedded : EmbeddedDocuments} {area : DataArea} {files : FileTree}
    {opened : Reported Session} (started : start env embedded (some area) files = .ok opened) (steps : List Step) :
    let s := opened.value.after steps
    ((∀ step ∈ steps, step.intrudes = false) → area.Secluded files ∨ opened.value.Clear steps →
      s.locations.contents = recalled opened.value opened.value.locations.contents opened.value.locations.contents steps) ∧
    (∀ obstacles, (s.persist obstacles).2 = .ok .done → ∃ text, s.Writes obstacles text) ∧
    ∀ obstacles text, s.Writes obstacles text →
      (∃ listing, s.locations.contents.ListedBy listing ∧ Contents.Ascending listing ∧ text = LocationTable.written listing) ∧
      (∀ listing, s.locations.contents.ListedBy listing → text = (LocationTable.ofListing listing).document) ∧
      (∀ (t : Session) others other, t.Writes others other → (text = other ↔ s.locations.contents = t.locations.contents)) ∧
      let reopened := s.after [.persist obstacles, .reopen]
      reopened.documentText? = some text ∧ ∀ others, (reopened.next (.persist others)).documentText? = some text := by
  intro s
  obtain ⟨_, startsAble⟩ := start_facts started
  have able : s.Reopenable := after_reopenable startsAble steps
  obtain ⟨keeps, same⟩ := start_keeps started
  refine ⟨fun alone steady => after_contents startsAble keeps alone (by rwa [same]), ?_, ?_⟩
  · intro obstacles done
    cases configured : s.area with
    | none =>
        rw [persist_unconfigured configured] at done
        cases done
    | some area => exact ⟨_, writes_document configured done⟩
  · intro obstacles text writes
    have same : text = s.locations.document := eq_document_of_writes writes
    refine ⟨⟨_, s.locations.listed, s.locations.ascending, ?_⟩, ?_, ?_, ?_⟩
    · rw [same, LocationTable.document_eq_written]
    · intro listing listed
      rw [same, LocationTable.ofListing_eq listed]
    · intro t others other alsoWrites
      rw [same, eq_document_of_writes alsoWrites, LocationTable.document_inj, LocationTable.contents_inj]
    · obtain ⟨held, table⟩ := reopen_after_persist able writes
      refine ⟨held, fun others => ?_⟩
      rcases documentText?_persist held others with still | renewed
      · exact still
      · exact renewed.trans (congrArg some table)

-- Different orders, repetitions and one restart; the last persist fails.
theorem persisted_document_canonical_reordered :
    ∃ opened, start baseless .empty (some ⟨.ofString "data"⟩) ⟨.empty, []⟩ = .ok opened ∧
      let s := opened.value.after [.addLocation "b" "y", .addLocation "a" "x", .removeLocation "b", .addLocation "a" "\"",
        .replaceLocation "c" []]
      let t := opened.value.after [.replaceLocation "c" [], .replaceLocation "a" ["\"", "x", "\""], .persist {},
        .addLocation "late" "z", .reopen]
      let text := "\x7b\n  \"a\": [\n    \"\\\"\",\n    \"x\"\n  ],\n  \"c\": []\n\x7d"
      s.Writes {} text ∧ t.Writes {} text ∧ s.locations.contents = t.locations.contents ∧
        ((s.after [.persist {}, .reopen]).next (.persist diskFull)).documentText? = some text := by
  refine ⟨_, rfl, ?_⟩
  intro s t text
  have writes : s.Writes {} text := ⟨_, rfl, rfl, by decide +kernel⟩
  have alsoWrites : t.Writes {} text := ⟨_, rfl, rfl, by decide +kernel⟩
  obtain ⟨_, _, canonical⟩ := @persisted_document_canonical baseless .empty ⟨.ofString "data"⟩ ⟨.empty, []⟩ _ rfl
    [.addLocation "b" "y", .addLocation "a" "x", .removeLocation "b", .addLocation "a" "\"", .replaceLocation "c" []]
  obtain ⟨_, _, others, _, again⟩ := canonical {} text writes
  exact ⟨writes, alsoWrites, (others t {} text alsoWrites).1 rfl, again diskFull⟩

end Session
end RegionWiring
