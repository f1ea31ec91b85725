import RegionWiring.Proofs.Results
import RegionWiring.Tables.Contribution

namespace RegionWiring

theorem Reported.collect_value {α β : Type} (f : α → Except Warning β) (items : List α) :
    (collect f items).value = items.filterMap fun a => (f a).toOption := by
  induction items with
  | nil => rfl
  | cons a rest ih => cases read : f a <;> simp [collect, read, Except.toOption, ih]

theorem Reported.mem_collect_value {α β : Type} {f : α → Except Warning β} {items : List α} {b : β} :
    b ∈ (collect f items).value ↔ ∃ a ∈ items, f a = .ok b := by
  simp only [collect_value, List.mem_filterMap, toOption_eq_some_iff]

theorem Reported.mem_collect_warnings {α β : Type} {f : α → Except Warning β} {items : List α} {w : Warning} :
    w ∈ (collect f items).warnings ↔ ∃ a ∈ items, f a = .error w := by
  induction items with
  | nil => simp [collect]
  | cons a rest ih => cases read : f a <;> simp [collect, read, ih, eq_comm]

theorem Reported.collect_of_ok {α β γ : Type} {f : α → Except Warning β} {written : γ → α} {meant : γ → β} {items : List γ}
    (accepted : ∀ item ∈ items, f (written item) = .ok (meant item)) : collect f (items.map written) = ⟨items.map meant, []⟩ := by
  induction items with
  | nil => rfl
  | cons item rest ih =>
      obtain ⟨first, others⟩ := List.forall_mem_cons.1 accepted
      simp [collect, first, ih others]

namespace Properties

def wellFormed (text : String) : List Entry :=
  (logicalLines text).filterMap fun line => (Entry.ofChars line.1 line.2).toOption

theorem readDocument_value (source text : String) : (readDocument source text).value = wellFormed text := by
  rw [readDocument, Reported.collect_value, wellFormed]
  simp only [readLine, Entry.read, toOption_mapError]

end Properties

def Source.text? (source : Source) (reader : Reader) (file : String) : Option String := (source.textOf reader file).toOption.join

def Update.entries (update : Update) (key : String) : List Properties.Entry :=
  match update.get? key with
  | none => []
  | some value => (value.entries.zipIdx 1).filterMap fun item => (Properties.Entry.ofChars item.2 item.1.toList).toOption

namespace Contribution
open Properties (Entry wellFormed)

def fileEntries (text : Option String) : List Entry := text.elim [] wellFormed

def identified (entry : Entry) : Option (BundleIdentity × List BundleId) :=
  (BundleIdentity.read entry.key).toOption.map fun identity => (identity, entry.values.map BundleId.mk)

theorem toOption_baseIdentity (file : String) (entry : Entry) : (baseIdentity file entry).toOption = identified entry := by
  unfold baseIdentity identified
  cases BundleIdentity.read entry.key <;> rfl

theorem baseEntries_value (source : Source) (reader : Reader) (file : String) :
    (baseEntries source reader file).value = fileEntries (source.text? reader file) := by
  unfold baseEntries Source.read Source.text?
  cases source.textOf reader file with
  | error fault => rfl
  | ok text =>
      cases text with
      | none => rfl
      | some text => exact Properties.readDocument_value file text

theorem ofSource_value (source : Source) (reader : Reader) :
    (ofSource source reader).value =
      ⟨(fileEntries (source.text? reader BaseFile.identities)).filterMap identified,
        typed BundleId.mk FeatureId.mk (fileEntries (source.text? reader BaseFile.bundles)),
        typed FeatureId.mk Region.mk (fileEntries (source.text? reader BaseFile.features)),
        typed Region.mk PackageName.mk (fileEntries (source.text? reader BaseFile.regions))⟩ := by
  have parts : (ofSource source reader).value =
      ⟨(Reported.collect (baseIdentity BaseFile.identities) (baseEntries source reader BaseFile.identities).value).value,
        typed BundleId.mk FeatureId.mk (baseEntries source reader BaseFile.bundles).value,
        typed FeatureId.mk Region.mk (baseEntries source reader BaseFile.features).value,
        typed Region.mk PackageName.mk (baseEntries source reader BaseFile.regions).value⟩ := rfl
  rw [parts, Reported.collect_value]
  simp only [baseEntries_value, toOption_baseIdentity]

theorem overlayEntries_value (id : String) (update : Update) (key : String) :
    (overlayEntries id update key).value = update.entries key := by
  unfold overlayEntries Update.entries
  cases update.get? key with
  | none => rfl
  | some value =>
      rw [Reported.collect_value]
      simp only [readNumbered, Entry.read, toOption_mapError]

def identifiedBy (entry : Entry) : Option (BundleIdentity × List BundleId) :=
  match entry.values with
  | [value] => (BundleIdentity.read value).toOption.map fun identity => (identity, [⟨entry.key⟩])
  | _ => none

theorem toOption_overlayIdentity (id : String) (entry : Entry) : (overlayIdentity id entry).toOption = identifiedBy entry := by
  obtain ⟨key, values, line⟩ := entry
  match values with
  | [] => rfl
  | [value] => cases read : BundleIdentity.read value <;> simp [overlayIdentity, identifiedBy, read, Except.toOption]
  | _ :: _ :: _ => rfl

theorem ofUpdate_value (id : String) (update : Update) :
    (ofUpdate id update).value =
      ⟨(update.entries Key.bundleIdentities).filterMap identifiedBy,
        typed BundleId.mk FeatureId.mk (update.entries Key.bundleFeatures),
        typed FeatureId.mk Region.mk (update.entries Key.featureRegions),
        typed Region.mk PackageName.mk (update.entries Key.regionPackages)⟩ := by
  have parts : (ofUpdate id update).value =
      ⟨(Reported.collect (overlayIdentity id) (overlayEntries id update Key.bundleIdentities).value).value,
        typed BundleId.mk FeatureId.mk (overlayEntries id update Key.bundleFeatures).value,
        typed FeatureId.mk Region.mk (overlayEntries id update Key.featureRegions).value,
        typed Region.mk PackageName.mk (overlayEntries id update Key.regionPackages).value⟩ := rfl
  rw [parts, Reported.collect_value]
  simp only [overlayEntries_value, toOption_overlayIdentity]

end Contribution
end RegionWiring
