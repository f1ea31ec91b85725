import Mathlib.Data.List.Basic
import RegionWiring.Proofs.Contributions
import RegionWiring.Proofs.Escapes

namespace RegionWiring

namespace Properties

def Entry.unnumbered (entry : Entry) : Entry := { entry with line := 0 }

def said (cs : List Char) : Option Entry := (Entry.ofChars 0 cs).toOption

theorem unnumbered_ofChars (line : Nat) (cs : List Char) :
    (Entry.ofChars line cs).toOption.map Entry.unnumbered = said cs := by
  rw [said, Entry.ofChars, Entry.ofChars]
  cases cutUnescaped '=' cs with
  | none => rfl
  | some parts =>
      dsimp only
      split <;> rfl

theorem unnumbered_numbered {α : Type} (text : α → List Char) (items : List α) (start : Nat) :
    ((items.zipIdx start).filterMap fun item => (Entry.ofChars item.2 (text item.1)).toOption).map Entry.unnumbered =
      items.filterMap fun item => said (text item) := by
  rw [List.map_filterMap]
  simp only [unnumbered_ofChars]
  calc (items.zipIdx start).filterMap (fun item => said (text item.1))
      = ((items.zipIdx start).map Prod.fst).filterMap (fun item => said (text item)) := by
        rw [List.filterMap_map]
        rfl
    _ = items.filterMap (fun item => said (text item)) := by rw [List.zipIdx_map_fst]

def Uncommented (cs : List Char) : Prop := ∀ c ∈ cs.head?, c ≠ '#' ∧ c ≠ '!'

instance : (cs : List Char) → Decidable (Uncommented cs)
  | [] => .isTrue fun _ first => nomatch first
  | c :: _ => decidable_of_iff (c ≠ '#' ∧ c ≠ '!') (by simp [Uncommented])

structure Plain (lines : List (List Char)) : Prop where
  uncommented : ∀ line ∈ lines, Uncommented (Text.trimStart line)
  unbroken : ∀ line ∈ lines, continues line = false

-- Blank lines say nothing.
theorem unnumbered_wellFormed {text : String} (plain : Plain (Text.lines text.toList)) :
    (wellFormed text).map Entry.unnumbered = (Text.lines text.toList).filterMap fun line => said (Text.trimStart line) := by
  have kept : ∀ raw ∈ (Text.lines text.toList).zipIdx 1,
      ((if Joining.isComment (Text.trimStart raw.1) then none else some (raw.2, Text.trimStart raw.1)).bind fun line =>
        (Entry.ofChars line.1 line.2).toOption) = (Entry.ofChars raw.2 (Text.trimStart raw.1)).toOption := by
    intro raw inside
    have first := plain.uncommented raw.1 (List.fst_mem_of_mem_zipIdx inside)
    cases shown : Text.trimStart raw.1 with
    | nil => rfl
    | cons c rest =>
        obtain ⟨hash, mark⟩ := first c (by rw [shown]; rfl)
        simp [Joining.isComment, hash, mark]
  rw [wellFormed, logicalLines_unbroken plain.unbroken, Joining.entryLines, List.filterMap_filterMap,
    List.filterMap_congr kept, unnumbered_numbered]

end Properties

namespace PropertyValue
open Properties (said)

-- As one text, or line by line.
def Holds (value : PropertyValue) (text : String) : Prop :=
  value = .text text ∨ value = .list ((Text.lines text.toList).map String.ofList)

theorem Holds.entries {value : PropertyValue} {text : String} (holds : value.Holds text) :
    value.entries = (((Text.lines text.toList).map Text.trim).filter (· ≠ [])).map String.ofList := by
  rcases holds with rfl | rfl
  · rfl
  · have back : ((Text.lines text.toList).map String.ofList).map String.toList = Text.lines text.toList := by simp [Function.comp_def]
    rw [PropertyValue.entries, back]

end PropertyValue

namespace Update
open Properties (Entry said)

-- Trailing white space is dropped in updates and kept in files.
theorem unnumbered_entries {update : Update} {key text : String} {value : PropertyValue} (given : update.get? key = some value)
    (holds : value.Holds text) :
    (update.entries key).map Entry.unnumbered = (Text.lines text.toList).filterMap fun line => said (Text.trimStart line) := by
  have shorter (line : List Char) : (if Text.trim line ≠ [] then said (Text.trim line) else none) = said (Text.trimStart line) := by
    have same : said (Text.trim line) = said (Text.trimStart line) := congrArg Except.toOption (Properties.ofChars_trimEnd 0 _)
    rw [← same]
    split
    · rfl
    · rename_i empty
      rw [Decidable.not_not.1 empty]
      rfl
  rw [Update.entries, given]
  dsimp only
  rw [Properties.unnumbered_numbered String.toList, holds.entries, List.filterMap_map]
  simp only [Function.comp_def, String.toList_ofList]
  rw [List.filterMap_filter, List.filterMap_map]
  refine congrArg (List.filterMap · _) (funext fun line => ?_)
  simpa using shorter line

end Update

namespace Contribution
open Properties (Entry Plain said wellFormed)

theorem typed_unnumbered {α β : Type} (key : String → α) (value : String → β) (entries : List Entry) :
    typed key value (entries.map Entry.unnumbered) = typed key value entries := by
  simp [typed, Entry.unnumbered]

theorem identified_unnumbered (entries : List Entry) :
    (entries.map Entry.unnumbered).filterMap identified = entries.filterMap identified := by
  rw [List.filterMap_map]
  rfl

theorem identifiedBy_unnumbered (entries : List Entry) :
    (entries.map Entry.unnumbered).filterMap identifiedBy = entries.filterMap identifiedBy := by
  rw [List.filterMap_map]
  rfl

theorem fileEntries_textOf {source : Source} {reader : Reader} {file text : String}
    (read : source.textOf reader file = .ok (some text)) : fileEntries (source.text? reader file) = wellFormed text := by
  rw [Source.text?, read]
  rfl

theorem typed_alike {α β : Type} (key : String → α) (value : String → β) {source : Source} {reader : Reader} {update : Update}
    {file property text : String} {given : PropertyValue} (plain : Plain (Text.lines text.toList))
    (read : source.textOf reader file = .ok (some text)) (put : update.get? property = some given) (holds : given.Holds text) :
    typed key value (fileEntries (source.text? reader file)) = typed key value (update.entries property) := by
  rw [fileEntries_textOf read, ← typed_unnumbered, ← typed_unnumbered key value (update.entries property),
    Properties.unnumbered_wellFormed plain, Update.unnumbered_entries put holds]

end Contribution

namespace Properties

structure Bare (s : String) : Prop where
  trimmed : Text.trimmed s = s
  filled : s ≠ ""
  clean : ∀ c ∈ s.toList, c ∉ ['\\', '=', ',', '\n', '\r']

instance (s : String) : Decidable (Bare s) :=
  decidable_of_iff (Text.trimmed s = s ∧ s ≠ "" ∧ (s.toList.all fun c => c ∉ ['\\', '=', ',', '\n', '\r']) = true)
    ⟨fun ⟨trimmed, filled, clean⟩ => ⟨trimmed, filled, fun c inside => of_decide_eq_true (List.all_eq_true.1 clean c inside)⟩,
      fun ⟨trimmed, filled, clean⟩ => ⟨trimmed, filled, List.all_eq_true.2 fun c inside => decide_eq_true (clean c inside)⟩⟩

def entryLine (key value : String) : List Char := key.toList ++ '=' :: value.toList

theorem Bare.lacks {s : String} (bare : Bare s) {c : Char} (special : c ∈ ['\\', '=', ',', '\n', '\r']) :
    Sign.Lacks c (s.toList.map .plain) :=
  Sign.lacks_plain fun inside => bare.clean c inside special

theorem Bare.trim {s : String} (bare : Bare s) : Text.trim s.toList = s.toList := by
  have same := congrArg String.toList bare.trimmed
  rwa [Text.trimmed, String.toList_ofList] at same

theorem Bare.token {s : String} (bare : Bare s) : token s.toList = s.toList := by
  have read := unescape_text (bare.lacks (by decide : '\\' ∈ _))
  rw [Sign.text_plain, Sign.meant_plain] at read
  rw [Properties.token, bare.trim, read]

theorem Bare.something {s : String} (bare : Bare s) : s.toList ≠ [] := fun empty => bare.filled (String.toList_eq_nil_iff.1 empty)

section Lines

variable {key value : String} (left : Bare key) (right : Bare value)
include left

theorem head_entryLine (value : String) : (entryLine key value).head? = key.toList.head? :=
  List.head?_append_of_ne_nil _ left.something

theorem trimStart_entryLine (value : String) : Text.trimStart (entryLine key value) = entryLine key value := by
  refine Text.trimStart_eq_self fun c found => ?_
  rw [head_entryLine left] at found
  exact Text.head_of_trimmed left.trim found

include right

theorem said_entryLine : said (entryLine key value) = some ⟨key, [value], 0⟩ := by
  have cutAt : cutUnescaped '=' (entryLine key value) = some (key.toList, value.toList) := by
    have found := cutUnescaped_text_separator (left.lacks (by decide : '\\' ∈ _)) (left.lacks (by decide : '=' ∈ _)) (by decide) value.toList
    rwa [Sign.text_plain] at found
  have whole : splitUnescaped ',' value.toList = [value.toList] := by
    have none := cutUnescaped_text_end (right.lacks (by decide : '\\' ∈ _)) (right.lacks (by decide : ',' ∈ _))
    rw [Sign.text_plain] at none
    exact splitUnescaped_whole _ none
  simp [said, Entry.ofChars, cutAt, whole, left.token, right.token, left.something, right.something, Except.toOption]

theorem absent_entryLine {c : Char} (special : c ∈ ['\\', '=', ',', '\n', '\r']) (other : c ≠ '=') : c ∉ entryLine key value := by
  intro inside
  rcases List.mem_append.1 inside with inKey | behind
  · exact left.clean c inKey special
  · rcases List.mem_cons.1 behind with same | inValue
    · exact other same
    · exact right.clean c inValue special

theorem continues_entryLine : continues (entryLine key value) = false := by
  have proper : '\\' ∉ entryLine key value := absent_entryLine left right (by decide) (by decide)
  have spelled := continues_text (Sign.lacks_plain proper)
  rwa [Sign.text_plain] at spelled

theorem whole_entryLine : '\n' ∉ entryLine key value ∧ (entryLine key value).getLast? ≠ some '\r' :=
  ⟨absent_entryLine left right (by decide) (by decide),
    fun last => absent_entryLine left right (by decide : '\r' ∈ _) (by decide) (List.mem_of_getLast? last)⟩

end Lines

section Pairs

variable {pairs : List (String × String)} (bare : ∀ pair ∈ pairs, Bare pair.1 ∧ Bare pair.2)
include bare

theorem lines_pairs : Text.lines (Text.document (pairs.map fun pair => entryLine pair.1 pair.2)) =
    pairs.map fun pair => entryLine pair.1 pair.2 := by
  refine Text.lines_document (List.forall_mem_map.2 fun pair inside => ?_)
  exact whole_entryLine (bare pair inside).1 (bare pair inside).2

theorem said_pairs : ((pairs.map fun pair => entryLine pair.1 pair.2).filterMap fun line => said (Text.trimStart line)) =
    pairs.map fun pair => ⟨pair.1, [pair.2], 0⟩ := by
  have each : ∀ pair ∈ pairs, said (Text.trimStart (entryLine pair.1 pair.2)) = some ⟨pair.1, [pair.2], 0⟩ := by
    intro pair inside
    obtain ⟨left, right⟩ := bare pair inside
    rw [trimStart_entryLine left, said_entryLine left right]
  rw [List.filterMap_map, ← List.filterMap_eq_map]
  exact List.filterMap_congr each

theorem plain_pairs (uncommented : ∀ pair ∈ pairs, Uncommented pair.1.toList) :
    Plain (pairs.map fun pair => entryLine pair.1 pair.2) := by
  constructor
  · refine List.forall_mem_map.2 fun pair inside c first => ?_
    have left := (bare pair inside).1
    rw [trimStart_entryLine left, head_entryLine left] at first
    exact uncommented pair inside c first
  · refine List.forall_mem_map.2 fun pair inside => ?_
    exact continues_entryLine (bare pair inside).1 (bare pair inside).2

end Pairs
end Properties

namespace Contribution
open Properties (Bare Plain Uncommented entryLine)

-- Key and value change places in entries of identities.
theorem files_and_updates_alike :
    (∀ text (given : PropertyValue) source reader id update, Plain (Text.lines text.toList) → given.Holds text →
      (source.textOf reader BaseFile.bundles = .ok (some text) → update.get? Key.bundleFeatures = some given →
        (ofSource source reader).value.bundles = (ofUpdate id update).value.bundles) ∧
      (source.textOf reader BaseFile.features = .ok (some text) → update.get? Key.featureRegions = some given →
        (ofSource source reader).value.features = (ofUpdate id update).value.features) ∧
      (source.textOf reader BaseFile.regions = .ok (some text) → update.get? Key.regionPackages = some given →
        (ofSource source reader).value.regions = (ofUpdate id update).value.regions)) ∧
    (∀ pairs : List (String × String), (∀ pair ∈ pairs, Bare pair.1 ∧ Bare pair.2) →
      (∀ pair ∈ pairs, Uncommented pair.1.toList) →
      let lines := pairs.map fun pair => entryLine pair.1 pair.2
      let turned := pairs.map fun pair => entryLine pair.2 pair.1
      let readable := pairs.filterMap fun pair => (BundleIdentity.read pair.1).toOption.map fun identity => (identity, [BundleId.mk pair.2])
      Text.lines (Text.document lines) = lines ∧ Text.lines (Text.document turned) = turned ∧
      (∀ text source reader, Text.lines text.toList = lines → source.textOf reader BaseFile.identities = .ok (some text) →
        (ofSource source reader).value.identities = readable) ∧
      (∀ text (given : PropertyValue) id update, Text.lines text.toList = turned → given.Holds text →
        update.get? Key.bundleIdentities = some given → (ofUpdate id update).value.identities = readable)) := by
  refine ⟨?_, ?_⟩
  · intro text given source reader id update plain holds
    rw [ofSource_value, ofUpdate_value]
    exact ⟨fun read put => typed_alike _ _ plain read put holds, fun read put => typed_alike _ _ plain read put holds,
      fun read put => typed_alike _ _ plain read put holds⟩
  · intro pairs bare uncommented lines turned readable
    have swapped : ∀ pair ∈ pairs.map Prod.swap, Bare pair.1 ∧ Bare pair.2 :=
      List.forall_mem_map.2 fun pair inside => (bare pair inside).symm
    have turnedLines : turned = (pairs.map Prod.swap).map fun pair => entryLine pair.1 pair.2 := by
      rw [List.map_map]
      rfl
    refine ⟨Properties.lines_pairs bare, ?_, ?_, ?_⟩
    · rw [turnedLines]
      exact Properties.lines_pairs swapped
    · intro text source reader spelled read
      have plain : Plain (Text.lines text.toList) := spelled ▸ Properties.plain_pairs bare uncommented
      rw [ofSource_value]
      dsimp only
      rw [fileEntries_textOf read, ← identified_unnumbered, Properties.unnumbered_wellFormed plain, spelled,
        Properties.said_pairs bare, List.filterMap_map]
      rfl
    · intro text given id update spelled holds put
      rw [ofUpdate_value]
      dsimp only
      rw [← identifiedBy_unnumbered, Update.unnumbered_entries put holds, spelled, turnedLines, Properties.said_pairs swapped,
        List.map_map, List.filterMap_map]
      rfl

def spacedText : String := "\t k = v\\ \r\n\u00a0\nno separator\n=x\n\\#a\\=b=,, c\\,d \t\n  last=\\\\  \r"

def namedBundles : List (String × String) := [("a~1.2", "#1"), ("b", "2"), ("c~1.2.3.4.5", "3"), ("d ~ 2", "1")]

theorem files_and_updates_alike_spaced :
    let embedded := EmbeddedDocuments.ofList [("b", spacedText), ("i", "a~1.2=#1\nb=2\nc~1.2.3.4.5=3\r\nd ~ 2=1")]
    let source := Source.ofLocations [(BaseFile.bundles, "classloader://b"), (BaseFile.identities, "classloader://i")] embedded
    let given : PropertyValue := .list ((Text.lines spacedText.toList).map String.ofList)
    let turned : PropertyValue := .text "#1=a~1.2\n2=b\n3=c~1.2.3.4.5\n1=d ~ 2\n"
    let update : Update := (SortedTable.empty.insert Key.bundleFeatures given).insert Key.bundleIdentities turned
    let reader : Reader := fun _ => .error .missing
    Plain (Text.lines spacedText.toList) ∧ given.Holds spacedText ∧
    (ofSource source reader).value.bundles = (ofUpdate "u" update).value.bundles ∧
    (ofSource source reader).value.bundles = [(⟨"k"⟩, [⟨"v"⟩]), (⟨"#a=b"⟩, [⟨"c,d"⟩]), (⟨"last"⟩, [⟨"\\"⟩])] ∧
    (ofSource source reader).value.identities = (ofUpdate "u" update).value.identities ∧
    (ofUpdate "u" update).value.identities.map Prod.snd = [[⟨"#1"⟩], [⟨"1"⟩]] := by
  intro embedded source given turned update reader
  have plain : Plain (Text.lines spacedText.toList) := ⟨by decide +kernel, by decide +kernel⟩
  have holds : given.Holds spacedText := .inr rfl
  have bare : ∀ pair ∈ namedBundles, Bare pair.1 ∧ Bare pair.2 := by decide +kernel
  have uncommented : ∀ pair ∈ namedBundles, Uncommented pair.1.toList := by decide +kernel
  obtain ⟨sets, identities⟩ := files_and_updates_alike
  obtain ⟨-, -, fromFile, fromUpdate⟩ := identities namedBundles bare uncommented
  have inFile := fromFile "a~1.2=#1\nb=2\nc~1.2.3.4.5=3\r\nd ~ 2=1" source reader (by decide +kernel) (by decide +kernel)
  have inUpdate := fromUpdate "#1=a~1.2\n2=b\n3=c~1.2.3.4.5\n1=d ~ 2\n" turned "u" update (by decide +kernel) (.inl rfl)
    (by decide +kernel)
  refine ⟨plain, holds, ?_, by decide +kernel, inFile.trans inUpdate.symm, by decide +kernel⟩
  exact (sets spacedText given source reader "u" update plain holds).1 (by decide +kernel) (by decide +kernel)

end Contribution
end RegionWiring
