import RegionWiring.Proofs.Contributions
import RegionWiring.Proofs.LogicalLines

namespace RegionWiring

theorem zipIdx_filter {α : Type} (p : α → Bool) (items : List α) (first start : Nat) :
    (items.filter p).zipIdx first = ((items.zipIdx start).filter fun item => p item.1).map
      fun item => (item.1, first + (items.take (item.2 - start)).countP p) := by
  induction items generalizing first start with
  | nil => rfl
  | cons item rest ih =>
      have behind {other : α × Nat} (listed : other ∈ (rest.zipIdx (start + 1)).filter fun item => p item.1) :
          ((item :: rest).take (other.2 - start)).countP p =
            (if p item then 1 else 0) + (rest.take (other.2 - (start + 1))).countP p := by
        have later : start + 1 ≤ other.2 := List.le_snd_of_mem_zipIdx (List.mem_filter.1 listed).1
        have next : other.2 - start = (other.2 - (start + 1)) + 1 := by omega
        rw [next, List.take_succ_cons, List.countP_cons, Nat.add_comm]
      rw [List.zipIdx_cons]
      cases kept : p item with
      | true =>
          rw [List.filter_cons, if_pos kept, List.zipIdx_cons, List.filter_cons, if_pos kept, List.map_cons, Nat.sub_self,
            ih (first + 1) (start + 1)]
          refine congrArg _ (List.map_congr_left fun other listed => ?_)
          rw [behind listed, kept, if_pos rfl, Nat.add_assoc]
      | false =>
          have dropped : ¬ p item = true := by rw [kept]; exact Bool.false_ne_true
          rw [List.filter_cons, if_neg dropped, List.filter_cons, if_neg dropped, ih first (start + 1)]
          refine List.map_congr_left fun other listed => ?_
          rw [behind listed, kept, if_neg Bool.false_ne_true, Nat.zero_add]

namespace Properties

def physicalLines (text : String) : List (List Char × Nat) := ((Text.lines text.toList).map Text.trimStart).zipIdx 1

def documentedBlocks (text : String) : List (Nat × List Char) := Joining.blocks Joining.isComment (physicalLines text)

def ReadFrom (lines : List (Nat × List Char)) (entry : Entry) : Prop :=
  ∃ cs, (entry.line, cs) ∈ lines ∧ Entry.ofChars entry.line cs = .ok entry

inductive PointsInto (skipped : ConfigFault → Warning) (source : String) (lines : List (Nat × List Char)) : Warning → Prop where
  | malformed {number : Nat} {cs : List Char} {defect : EntryDefect} (listed : (number, cs) ∈ lines)
      (refused : Entry.ofChars number cs = .error defect) :
      PointsInto skipped source lines (skipped (.malformedEntry source number defect.reason))
  | identity {entry : Entry} {text : String} {fault : VersionFault} (read : ReadFrom lines entry)
      (named : entry.key = text ∨ entry.values = [text]) (refused : BundleIdentity.read text = .error fault) :
      PointsInto skipped source lines (.skippedIdentity source entry.line fault)
  | values {entry : Entry} (read : ReadFrom lines entry) (several : entry.values.length ≠ 1) :
      PointsInto skipped source lines (.wrongValueCount source entry.line entry.key entry.values.length)

namespace Joining

theorem line_of_mem_blocks {absent : List Char → Bool} {lines : List (List Char × Nat)} {block : Nat × List Char}
    (found : block ∈ blocks absent lines) : ∃ line, (line, block.1) ∈ lines ∧ absent line = false := by
  induction lines using blocks.induct absent with
  | case1 =>
      rw [blocks] at found
      cases found
  | case2 line rest skipped ih =>
      rw [blocks_absent skipped] at found
      obtain ⟨other, listed, begun⟩ := ih found
      exact ⟨other, List.mem_cons_of_mem _ listed, begun⟩
  | case3 line rest begun ih =>
      have begins := Bool.eq_false_iff.2 begun
      rw [blocks_begun begins] at found
      rcases List.mem_cons.1 found with rfl | later
      · exact ⟨line.1, List.mem_cons_self, begins⟩
      · obtain ⟨other, listed, alsoBegins⟩ := ih later
        exact ⟨other, List.mem_of_mem_drop listed, alsoBegins⟩

theorem blocks_eq_iff {lines : List (List Char × Nat)} (single : ∀ a b n, (a, n) ∈ lines → (b, n) ∈ lines → a = b) :
    blocks passedOver lines = blocks isComment lines ↔ ∀ block ∈ blocks isComment lines, (['\\'], block.1) ∉ lines := by
  constructor
  · intro same block found alone
    rw [← same] at found
    obtain ⟨line, listed, begun⟩ := line_of_mem_blocks found
    rw [single _ _ _ listed alone] at begun
    cases begun
  · intro apart
    clear single
    induction lines using blocks.induct isComment with
    | case1 => rw [blocks, blocks]
    | case2 line rest comment ih =>
        have passed : passedOver line.1 = true := Bool.or_eq_true_iff.2 (.inl comment)
        rw [blocks_absent comment] at apart ⊢
        rw [blocks_absent passed]
        exact ih fun block found alone => apart block found (List.mem_cons_of_mem _ alone)
    | case3 line rest begun ih =>
        have begins := Bool.eq_false_iff.2 begun
        rw [blocks_begun begins] at apart ⊢
        obtain ⟨first, others⟩ := List.forall_mem_cons.1 apart
        have notAlone : line.1 ≠ ['\\'] := fun alone => first (alone ▸ List.mem_cons_self)
        rw [blocks_begun (Bool.or_eq_false_iff.2 ⟨begins, by simpa using notAlone⟩)]
        rw [ih fun block found alone => others block found (List.mem_of_mem_drop alone)]

end Joining

theorem logicalLines_eq_blocks (text : String) : logicalLines text = Joining.blocks Joining.passedOver (physicalLines text) :=
  (Joining.run_owing .initial 1 _).trans (Joining.owing_idle 0 _)

theorem logicalLines_eq_documentedBlocks_iff (text : String) :
    logicalLines text = documentedBlocks text ↔ ∀ block ∈ documentedBlocks text, (['\\'], block.1) ∉ physicalLines text := by
  rw [logicalLines_eq_blocks]
  refine Joining.blocks_eq_iff fun a b n here there => ?_
  rw [physicalLines, List.mk_mem_zipIdx_iff_le_and_getElem?_sub] at here there
  exact Option.some.inj (here.2.symm.trans there.2)

section Reading

variable {skipped : ConfigFault → Warning} {source : String} {lines : List (Nat × List Char)} {line : Nat × List Char}

theorem line_ofChars {number : Nat} {cs : List Char} {entry : Entry} (read : Entry.ofChars number cs = .ok entry) :
    entry.line = number := by
  unfold Entry.ofChars at read
  split at read
  · cases read
  · dsimp only at read
    split at read
    · cases read
    · cases read
      rfl

theorem readFrom_of_read {entry : Entry} (listed : line ∈ lines)
    (read : (Entry.read source line.1 line.2).mapError skipped = .ok entry) : ReadFrom lines entry := by
  have whole : Entry.ofChars line.1 line.2 = .ok entry := mapError_eq_ok_iff.1 (mapError_eq_ok_iff.1 read)
  have same := line_ofChars whole
  exact ⟨line.2, same ▸ listed, same ▸ whole⟩

theorem pointsInto_of_read {warning : Warning} (listed : line ∈ lines)
    (refused : (Entry.read source line.1 line.2).mapError skipped = .error warning) : PointsInto skipped source lines warning := by
  unfold Entry.read at refused
  cases result : Entry.ofChars line.1 line.2 with
  | ok entry =>
      rw [result] at refused
      cases refused
  | error defect =>
      rw [result] at refused
      cases refused
      exact .malformed listed result

end Reading
end Properties

namespace PropertyValue

-- Blank lines are not counted.
def counted (v : PropertyValue) : List (Nat × List Char) := (v.entries.zipIdx 1).map fun item => (item.2, item.1.toList)

def trimmedLines (s : String) : List (List Char) := (Text.lines s.toList).map Text.trim

def filledLines (s : String) : List (Nat × List Char) :=
  (((trimmedLines s).zipIdx 1).filter fun line => line.1 ≠ []).map Prod.swap

theorem mem_filledLines {s : String} {line : Nat × List Char} (listed : line ∈ filledLines s) :
    0 < line.1 ∧ line.1 ≤ (trimmedLines s).length := by
  obtain ⟨⟨cs, number⟩, found, rfl⟩ := List.mem_map.1 listed
  have inside := (List.mem_filter.1 found).1
  have positive : 1 ≤ number := List.le_snd_of_mem_zipIdx inside
  have bound : number < (trimmedLines s).length + 1 := List.snd_lt_of_mem_zipIdx inside
  exact ⟨positive, Nat.le_of_lt_succ bound⟩

theorem counted_text (s : String) : (PropertyValue.text s).counted =
    (filledLines s).map fun line => (1 + ((trimmedLines s).take (line.1 - 1)).countP (· ≠ []), line.2) := by
  have items : (PropertyValue.text s).entries = ((trimmedLines s).filter (· ≠ [])).map String.ofList := rfl
  rw [counted, items, List.zipIdx_map, zipIdx_filter _ _ 1 1, filledLines]
  simp [Function.comp_def]

theorem counted_eq_filledLines_iff (s : String) : (PropertyValue.text s).counted = filledLines s ↔
    ∀ line ∈ filledLines s, [] ∉ (trimmedLines s).take (line.1 - 1) := by
  have fixed {line : Nat × List Char} (listed : line ∈ filledLines s) :
      (1 + ((trimmedLines s).take (line.1 - 1)).countP (· ≠ []), line.2) = line ↔ [] ∉ (trimmedLines s).take (line.1 - 1) := by
    obtain ⟨positive, bound⟩ := mem_filledLines listed
    have length : ((trimmedLines s).take (line.1 - 1)).length = line.1 - 1 := List.length_take_of_le (by omega)
    have all : ((trimmedLines s).take (line.1 - 1)).countP (· ≠ []) = line.1 - 1 ↔ [] ∉ (trimmedLines s).take (line.1 - 1) := by
      refine (Eq.congr_right length.symm).trans (List.countP_eq_length.trans ?_)
      simp only [decide_eq_true_iff]
      exact ⟨fun filled blank => filled [] blank rfl, fun none cs inside same => none (same ▸ inside)⟩
    rw [← all, Prod.ext_iff]
    constructor
    · rintro ⟨same, -⟩
      dsimp only at same
      omega
    · intro same
      refine ⟨?_, rfl⟩
      dsimp only
      omega
  have unmoved : (PropertyValue.text s).counted = filledLines s ↔
      (filledLines s).map (fun line => (1 + ((trimmedLines s).take (line.1 - 1)).countP (· ≠ []), line.2)) =
        (filledLines s).map id := by
    rw [counted_text, List.map_id]
  rw [unmoved, List.map_inj_left]
  exact forall₂_congr fun line listed => fixed listed

end PropertyValue
namespace Contribution
open Properties (Entry ReadFrom PointsInto logicalLines readDocument)

section Documents

variable {source : Source} {reader : Reader} {file text : String} {entry : Entry} {warning : Warning}

theorem readDocument_readFrom (listed : entry ∈ (readDocument file text).value) : ReadFrom (logicalLines text) entry := by
  obtain ⟨line, inside, read⟩ := Reported.mem_collect_value.1 listed
  exact Properties.readFrom_of_read inside read

theorem readDocument_pointsInto (warned : warning ∈ (readDocument file text).warnings) :
    PointsInto .skippedEntry file (logicalLines text) warning := by
  obtain ⟨line, inside, refused⟩ := Reported.mem_collect_warnings.1 warned
  exact Properties.pointsInto_of_read inside refused

theorem baseEntries_cases (source : Source) (reader : Reader) (file : String) :
    (∃ fault, baseEntries source reader file = ⟨[], [.unreadableFile file fault]⟩) ∨ baseEntries source reader file = ⟨[], []⟩ ∨
      ∃ text, source.text? reader file = some text ∧ baseEntries source reader file = readDocument file text := by
  unfold baseEntries Source.read Source.text?
  cases source.textOf reader file with
  | error fault => exact .inl ⟨fault, rfl⟩
  | ok text =>
      cases text with
      | none => exact .inr (.inl rfl)
      | some text =>
          refine .inr (.inr ⟨text, rfl, ?_⟩)
          show Reported.mk _ ((_ ++ []) ++ []) = _
          rw [List.append_nil, List.append_nil]
          rfl

def Located (source : Source) (reader : Reader) (file : String) (warning : Warning) : Prop :=
  (∃ fault, warning = .unreadableFile file fault) ∨
    ∃ text, source.text? reader file = some text ∧ PointsInto .skippedEntry file (logicalLines text) warning

theorem baseEntries_readFrom (listed : entry ∈ (baseEntries source reader file).value) :
    ∃ text, source.text? reader file = some text ∧ ReadFrom (logicalLines text) entry := by
  rcases baseEntries_cases source reader file with ⟨fault, same⟩ | same | ⟨text, held, same⟩
  · rw [same] at listed
    cases listed
  · rw [same] at listed
    cases listed
  · rw [same] at listed
    exact ⟨text, held, readDocument_readFrom listed⟩

theorem baseEntries_located (warned : warning ∈ (baseEntries source reader file).warnings) :
    Located source reader file warning := by
  rcases baseEntries_cases source reader file with ⟨fault, same⟩ | same | ⟨text, held, same⟩
  · rw [same] at warned
    exact .inl ⟨fault, List.mem_singleton.1 warned⟩
  · rw [same] at warned
    cases warned
  · rw [same] at warned
    exact .inr ⟨text, held, readDocument_pointsInto warned⟩

theorem baseIdentity_located
    (warned : warning ∈ (Reported.collect (baseIdentity file) (baseEntries source reader file).value).warnings) :
    Located source reader file warning := by
  obtain ⟨entry, listed, refused⟩ := Reported.mem_collect_warnings.1 warned
  obtain ⟨text, held, read⟩ := baseEntries_readFrom listed
  unfold baseIdentity at refused
  cases named : BundleIdentity.read entry.key with
  | ok identity =>
      rw [named] at refused
      cases refused
  | error fault =>
      rw [named] at refused
      cases refused
      exact .inr ⟨text, held, .identity read (.inl rfl) named⟩

theorem ofSource_located (warned : warning ∈ (ofSource source reader).warnings) :
    ∃ file ∈ BaseFile.all, Located source reader file warning := by
  have parts : (ofSource source reader).warnings = (baseEntries source reader BaseFile.identities).warnings ++
      ((Reported.collect (baseIdentity BaseFile.identities) (baseEntries source reader BaseFile.identities).value).warnings ++
        ((baseEntries source reader BaseFile.bundles).warnings ++ ((baseEntries source reader BaseFile.features).warnings ++
          ((baseEntries source reader BaseFile.regions).warnings ++ [])))) := rfl
  rw [parts] at warned
  simp only [List.mem_append, List.append_nil] at warned
  rcases warned with identities | identity | bundles | features | regions
  · exact ⟨BaseFile.identities, by decide, baseEntries_located identities⟩
  · exact ⟨BaseFile.identities, by decide, baseIdentity_located identity⟩
  · exact ⟨BaseFile.bundles, by decide, baseEntries_located bundles⟩
  · exact ⟨BaseFile.features, by decide, baseEntries_located features⟩
  · exact ⟨BaseFile.regions, by decide, baseEntries_located regions⟩

end Documents

section Updates

variable {id key : String} {update : Update} {entry : Entry} {warning : Warning}

def Counted (id : String) (update : Update) (key : String) (warning : Warning) : Prop :=
  ∃ value, update.get? key = some value ∧ PointsInto .skippedOverlayEntry id value.counted warning

theorem overlayEntries_cases (id : String) (update : Update) (key : String) :
    overlayEntries id update key = ⟨[], []⟩ ∨ ∃ value, update.get? key = some value ∧
      overlayEntries id update key = Reported.collect (readNumbered id) (value.entries.zipIdx 1) := by
  unfold overlayEntries
  cases given : update.get? key with
  | none => exact .inl rfl
  | some value => exact .inr ⟨value, rfl, rfl⟩

theorem mem_counted {value : PropertyValue} {item : String × Nat} (listed : item ∈ value.entries.zipIdx 1) :
    (item.2, item.1.toList) ∈ value.counted := List.mem_map_of_mem (f := fun item => (item.2, item.1.toList)) listed

theorem overlayEntries_readFrom (listed : entry ∈ (overlayEntries id update key).value) :
    ∃ value, update.get? key = some value ∧ ReadFrom value.counted entry := by
  rcases overlayEntries_cases id update key with same | ⟨value, given, same⟩
  · rw [same] at listed
    cases listed
  · rw [same] at listed
    obtain ⟨item, inside, read⟩ := Reported.mem_collect_value.1 listed
    exact ⟨value, given, Properties.readFrom_of_read (mem_counted inside) read⟩

theorem overlayEntries_counted (warned : warning ∈ (overlayEntries id update key).warnings) : Counted id update key warning := by
  rcases overlayEntries_cases id update key with same | ⟨value, given, same⟩
  · rw [same] at warned
    cases warned
  · rw [same] at warned
    obtain ⟨item, inside, refused⟩ := Reported.mem_collect_warnings.1 warned
    exact ⟨value, given, Properties.pointsInto_of_read (mem_counted inside) refused⟩

theorem overlayIdentity_counted
    (warned : warning ∈ (Reported.collect (overlayIdentity id) (overlayEntries id update key).value).warnings) :
    Counted id update key warning := by
  obtain ⟨entry, listed, refused⟩ := Reported.mem_collect_warnings.1 warned
  obtain ⟨value, given, read⟩ := overlayEntries_readFrom listed
  refine ⟨value, given, ?_⟩
  unfold overlayIdentity at refused
  split at refused
  · rename_i text one
    cases named : BundleIdentity.read text with
    | ok identity =>
        rw [named] at refused
        cases refused
    | error fault =>
        rw [named] at refused
        cases refused
        exact .identity read (.inr one) named
  · rename_i other
    cases refused
    exact .values read fun single => other _ (List.length_eq_one_iff.1 single).choose_spec

theorem ofUpdate_counted (warned : warning ∈ (ofUpdate id update).warnings) : ∃ key, Counted id update key warning := by
  have parts : (ofUpdate id update).warnings = (overlayEntries id update Key.bundleIdentities).warnings ++
      ((Reported.collect (overlayIdentity id) (overlayEntries id update Key.bundleIdentities).value).warnings ++
        ((overlayEntries id update Key.bundleFeatures).warnings ++ ((overlayEntries id update Key.featureRegions).warnings ++
          ((overlayEntries id update Key.regionPackages).warnings ++ [])))) := rfl
  rw [parts] at warned
  simp only [List.mem_append, List.append_nil] at warned
  rcases warned with identities | identity | bundles | features | regions
  · exact ⟨_, overlayEntries_counted identities⟩
  · exact ⟨_, overlayIdentity_counted identity⟩
  · exact ⟨_, overlayEntries_counted bundles⟩
  · exact ⟨_, overlayEntries_counted features⟩
  · exact ⟨_, overlayEntries_counted regions⟩

end Updates
open PropertyValue (filledLines trimmedLines)

-- In a base document physical lines are counted, blank ones and comments included. In a property of one text blank lines are
-- not counted.
theorem line_numbers_carried (text : String) (source : Source) (reader : Reader) (id : String) (update : Update) :
    (logicalLines text = Properties.Joining.blocks Properties.Joining.passedOver (Properties.physicalLines text) ∧
      (logicalLines text = Properties.documentedBlocks text ↔
        ∀ block ∈ Properties.documentedBlocks text, (['\\'], block.1) ∉ Properties.physicalLines text)) ∧
    ((∀ file, ∀ entry ∈ (baseEntries source reader file).value, ∃ document, source.text? reader file = some document ∧
        ReadFrom (logicalLines document) entry) ∧
      ∀ warning ∈ (ofSource source reader).warnings, ∃ file ∈ BaseFile.all, Located source reader file warning) ∧
    ((PropertyValue.text text).counted =
        (filledLines text).map (fun line => (1 + ((trimmedLines text).take (line.1 - 1)).countP (· ≠ []), line.2)) ∧
      ((PropertyValue.text text).counted = filledLines text ↔
        ∀ line ∈ filledLines text, [] ∉ (trimmedLines text).take (line.1 - 1))) ∧
    ((∀ key, ∀ entry ∈ (overlayEntries id update key).value, ∃ value, update.get? key = some value ∧
        ReadFrom value.counted entry) ∧
      ∀ warning ∈ (ofUpdate id update).warnings, ∃ key, Counted id update key warning) := by
  refine ⟨⟨?_, ?_⟩, ⟨?_, ?_⟩, ⟨?_, ?_⟩, ?_, ?_⟩
  · exact Properties.logicalLines_eq_blocks text
  · exact Properties.logicalLines_eq_documentedBlocks_iff text
  · intro file entry listed
    exact baseEntries_readFrom listed
  · intro warning warned
    exact ofSource_located warned
  · exact PropertyValue.counted_text text
  · exact PropertyValue.counted_eq_filledLines_iff text
  · intro key entry listed
    exact overlayEntries_readFrom listed
  · intro warning warned
    exact ofUpdate_counted warned

-- The bad entry is on the second line and is reported on the first.
theorem blank_line_not_counted :
    let update : Update := SortedTable.empty.insert Key.featureRegions (.text "\nbad")
    (ofUpdate "o" update).warnings = [.skippedOverlayEntry (.malformedEntry "o" 1 "missing '='")] ∧
      filledLines "\nbad" = [(2, "bad".toList)] ∧
      ∃ warning ∈ (ofUpdate "o" update).warnings, ¬ PointsInto .skippedOverlayEntry "o" (filledLines "\nbad") warning := by
  intro update
  have warned : (ofUpdate "o" update).warnings = [.skippedOverlayEntry (.malformedEntry "o" 1 "missing '='")] := by decide +kernel
  have filled : filledLines "\nbad" = [(2, "bad".toList)] := by decide +kernel
  refine ⟨warned, filled, _, warned ▸ List.mem_singleton_self _, ?_⟩
  rw [filled]
  intro points
  generalize shown : Warning.skippedOverlayEntry (.malformedEntry "o" 1 "missing '='") = warning at points
  cases points with
  | malformed listed refused =>
      rw [Warning.skippedOverlayEntry.injEq, ConfigFault.malformedEntry.injEq] at shown
      obtain ⟨-, rfl, -⟩ := shown
      cases List.mem_singleton.1 listed
  | identity | values => cases shown

end Contribution
end RegionWiring
