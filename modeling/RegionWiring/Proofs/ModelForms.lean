import RegionWiring.Environment
import RegionWiring.PropertyValue
import RegionWiring.Proofs.LocationDocument
import RegionWiring.Proofs.RecordForms
import RegionWiring.Wiring.Form

namespace RegionWiring

class SpelledForm (α : Type) [JsonForm α] where
  Spells : α → Json → Prop
  native : ∀ a : α, (toJson a).Native
  spells_toJson : ∀ a : α, Spells a (toJson a)
  ofJson?_eq_some_iff : ∀ {j : Json} {a : α}, ofJson? j = some a ↔ Spells a j

export SpelledForm (Spells spells_toJson ofJson?_eq_some_iff)

instance (priority := low) {α : Type} [JsonForm α] [SpelledForm α] : LawfulForm α where
  native := SpelledForm.native
  ofJson_toJson a := ofJson?_eq_some_iff.2 (spells_toJson a)

structure Field where
  name : String
  spelt : Json → Prop
  spare : Prop

namespace Field

def Takes (f : Field) : Option Json → Prop
  | none => f.spare
  | some j => f.spelt j

variable {α : Type} [JsonForm α] [SpelledForm α]

def needed (name : String) (a : α) : Field := ⟨name, Spells a, False⟩

def optional (name : String) (a : Option α) : Field :=
  ⟨name, fun j => a.elim (j = .null) fun a => j ≠ .null ∧ Spells a j, a = none⟩

theorem needed_takes_iff {name : String} {a : α} {value : Option Json} :
    (needed name a).Takes value ↔ JsonForm.needed value = some a := by
  cases value with
  | none => exact iff_of_false id (by simp [JsonForm.needed])
  | some j => exact ofJson?_eq_some_iff.symm

theorem optional_takes_iff {name : String} {a : Option α} {value : Option Json} :
    (optional name a).Takes value ↔ JsonForm.ifPresent value = some a := by
  cases value with
  | none => exact ⟨fun same => congrArg some same.symm, fun same => (Option.some.inj same).symm⟩
  | some j =>
      cases a with
      | none =>
          show j = .null ↔ ofJson? j = some none
          cases j <;> simp [ofJson?]
      | some a =>
          show j ≠ .null ∧ Spells a j ↔ ofJson? j = some (some a)
          rw [← ofJson?_eq_some_iff]
          cases j <;> simp [ofJson?]

-- An optional value must not be written as null.
theorem optional_toJson (filled : ∀ a : α, toJson a ≠ .null) (name : String) (a : Option α) : (optional name a).spelt (toJson a) := by
  cases a with
  | none => rfl
  | some a => exact ⟨filled a, spells_toJson a⟩

end Field

def SpellsRecord (fields : List Field) (j : Json) : Prop :=
  ∃ values, List.Forall₂ Field.Takes fields values ∧ JsonForm.Gives (fields.map Field.name) values j

section Records

variable {fields : List Field} {j : Json}

theorem spellsRecord_iff {names : List String} (distinct : names.Nodup) (named : fields.map Field.name = names) :
    SpellsRecord fields j ↔ ∃ values, JsonForm.fieldValues names j = some values ∧ List.Forall₂ Field.Takes fields values := by
  subst named
  constructor
  · rintro ⟨values, taken, given⟩
    refine ⟨values, (JsonForm.fieldValues_eq_some_iff distinct).2 ⟨?_, given⟩, taken⟩
    rw [List.length_map, taken.length_eq]
  · rintro ⟨values, given, taken⟩
    exact ⟨values, taken, ((JsonForm.fieldValues_eq_some_iff distinct).1 given).2⟩

theorem spellsRecord_record {written : List (String × Json)}
    (each : List.Forall₂ (fun f member => f.name = member.1 ∧ f.spelt member.2) fields written) :
    SpellsRecord fields (.record written) := by
  have names : fields.map Field.name = written.map Prod.fst := by
    induction each with
    | nil => rfl
    | cons first _ ih => rw [List.map_cons, List.map_cons, first.1, ih]
  refine ⟨written.map fun member => some member.2, ?_, names ▸ JsonForm.gives_record written⟩
  rw [List.forall₂_map_right_iff]
  exact each.imp fun _ _ both => both.2

end Records

namespace SpelledForm

theorem map_text_iff {α : Type} {make : String → α} {name : α → String} (named : ∀ s, name (make s) = s) (made : ∀ a, make (name a) = a)
    {j : Json} {a : α} : (ofJson? j).map make = some a ↔ j = .text (name a) := by
  cases j with
  | text s =>
      show some (make s) = some a ↔ Json.text s = .text (name a)
      rw [Option.some.injEq, Json.text.injEq]
      constructor
      · rintro rfl
        exact (named s).symm
      · rintro rfl
        exact made a
  | null | bool | integer | list | record | foreign => simp [ofJson?]

instance : SpelledForm String where
  Spells s j := j = .text s
  native _ := trivial
  spells_toJson _ := rfl
  ofJson?_eq_some_iff {j s} := by cases j <;> simp [ofJson?]

instance : SpelledForm Region where
  Spells r j := j = .text r.name
  native _ := trivial
  spells_toJson _ := rfl
  ofJson?_eq_some_iff := map_text_iff (fun _ => rfl) (fun _ => rfl)

instance : SpelledForm PackageName where
  Spells p j := j = .text p.name
  native _ := trivial
  spells_toJson _ := rfl
  ofJson?_eq_some_iff := map_text_iff (fun _ => rfl) (fun _ => rfl)

instance : SpelledForm UInt32 where
  Spells n j := j = .integer n.toNat
  native _ := trivial
  spells_toJson _ := rfl
  ofJson?_eq_some_iff {j n} := by
    cases j with
    | integer m =>
        cases m with
        | negSucc m => simp [ofJson?]
        | ofNat m =>
            show (if m < 4294967296 then some (UInt32.ofNat m) else none) = some n ↔ Json.integer (.ofNat m) = .integer n.toNat
            have inside : n.toNat < 4294967296 := n.toNat_lt
            rw [Json.integer.injEq, Int.ofNat_eq_natCast, Int.natCast_inj]
            split
            · rename_i fits
              rw [Option.some.injEq, ← UInt32.toNat_inj, UInt32.toNat_ofNat_of_lt' fits]
            · rename_i large
              exact iff_of_false (by simp) (by omega)
    | null | bool | text | list | record | foreign => simp [ofJson?]

theorem mapM_eq_some_iff {α β : Type} {f : α → Option β} {items : List α} {results : List β} :
    items.mapM f = some results ↔ List.Forall₂ (fun a b => f a = some b) items results := by
  induction items generalizing results with
  | nil => cases results <;> simp
  | cons a rest ih => cases results <;> simp [Option.bind_eq_some_iff, ih]

instance {α : Type} [JsonForm α] [SpelledForm α] : SpelledForm (List α) where
  Spells items j := ∃ forms, j = .list forms ∧ List.Forall₂ Spells items forms
  native := LawfulForm.native
  spells_toJson items := by
    refine ⟨_, rfl, ?_⟩
    rw [List.forall₂_map_right_iff, List.forall₂_same]
    exact fun item _ => spells_toJson item
  ofJson?_eq_some_iff {j items} := by
    cases j with
    | list forms =>
        show forms.mapM ofJson? = some items ↔ _
        rw [mapM_eq_some_iff]
        simp only [ofJson?_eq_some_iff]
        constructor
        · intro each
          exact ⟨forms, rfl, each.flip⟩
        · rintro ⟨_, ⟨⟩, each⟩
          exact each.flip
    | null | bool | integer | text | record | foreign => simp [ofJson?]

theorem native_option {α : Type} [JsonForm α] [SpelledForm α] (a : Option α) : (toJson a).Native := by
  cases a with
  | none => trivial
  | some a => exact native a

instance : SpelledForm Version where
  Spells v := SpellsRecord [.needed "major" v.major, .needed "minor" v.minor, .needed "micro" v.micro,
    .optional "qualifier" v.qualifier]
  native v := ⟨native v.major, native v.minor, native v.micro, native_option v.qualifier, trivial⟩
  spells_toJson v := spellsRecord_record (.cons ⟨rfl, spells_toJson v.major⟩ (.cons ⟨rfl, spells_toJson v.minor⟩
    (.cons ⟨rfl, spells_toJson v.micro⟩ (.cons ⟨rfl, Field.optional_toJson (by simp [toJson]) _ v.qualifier⟩ .nil))))
  ofJson?_eq_some_iff {j v} := by
    rw [spellsRecord_iff (by decide : ["major", "minor", "micro", "qualifier"].Nodup) rfl]
    simp only [ofJson?]
    split
    · rename_i major minor micro qualifier given
      cases v
      simp [given, Option.bind_eq_some_iff, Field.needed_takes_iff, Field.optional_takes_iff]
    · rename_i other
      refine iff_of_false (by simp) ?_
      rintro ⟨values, given, taken⟩
      obtain _ | ⟨_, _ | ⟨_, _ | ⟨_, _ | ⟨_, _ | _⟩⟩⟩⟩ := taken
      exact other _ _ _ _ given

instance : SpelledForm BundleIdentity where
  Spells b := SpellsRecord [.needed "symbolic_name" b.symbolicName, .needed "version" b.version]
  native b := ⟨native b.symbolicName, native b.version, trivial⟩
  spells_toJson b := spellsRecord_record (.cons ⟨rfl, spells_toJson b.symbolicName⟩ (.cons ⟨rfl, spells_toJson b.version⟩ .nil))
  ofJson?_eq_some_iff {j b} := by
    rw [spellsRecord_iff (by decide : ["symbolic_name", "version"].Nodup) rfl]
    simp only [ofJson?]
    split
    · rename_i name version given
      cases b
      simp [given, Option.bind_eq_some_iff, Field.needed_takes_iff]
    · rename_i other
      refine iff_of_false (by simp) ?_
      rintro ⟨values, given, taken⟩
      obtain _ | ⟨_, _ | ⟨_, _ | _⟩⟩ := taken
      exact other _ _ given

instance : SpelledForm BundleRevision where
  Spells r := SpellsRecord [.needed "identity" r.identity, .optional "location" r.location]
  native r := ⟨native r.identity, native_option r.location, trivial⟩
  spells_toJson r := spellsRecord_record (.cons ⟨rfl, spells_toJson r.identity⟩
    (.cons ⟨rfl, Field.optional_toJson (by simp [toJson]) _ r.location⟩ .nil))
  ofJson?_eq_some_iff {j r} := by
    rw [spellsRecord_iff (by decide : ["identity", "location"].Nodup) rfl]
    simp only [ofJson?]
    split
    · rename_i identity location given
      cases r
      simp [given, Option.bind_eq_some_iff, Field.needed_takes_iff, Field.optional_takes_iff]
    · rename_i other
      refine iff_of_false (by simp) ?_
      rintro ⟨values, given, taken⟩
      obtain _ | ⟨_, _ | ⟨_, _ | _⟩⟩ := taken
      exact other _ _ given

instance : SpelledForm Requirement where
  Spells r := SpellsRecord [.needed "namespace" r.namesp, .needed "requirer" r.requirer, .optional "package" r.package]
  native r := ⟨native r.namesp, native r.requirer, native_option r.package, trivial⟩
  spells_toJson r := spellsRecord_record (.cons ⟨rfl, spells_toJson r.namesp⟩ (.cons ⟨rfl, spells_toJson r.requirer⟩
    (.cons ⟨rfl, Field.optional_toJson (by simp [toJson]) _ r.package⟩ .nil)))
  ofJson?_eq_some_iff {j r} := by
    rw [spellsRecord_iff (by decide : ["namespace", "requirer", "package"].Nodup) rfl]
    simp only [ofJson?]
    split
    · rename_i namesp requirer package given
      cases r
      simp [given, Option.bind_eq_some_iff, Field.needed_takes_iff, Field.optional_takes_iff]
    · rename_i other
      refine iff_of_false (by simp) ?_
      rintro ⟨values, given, taken⟩
      obtain _ | ⟨_, _ | ⟨_, _ | ⟨_, _ | _⟩⟩⟩ := taken
      exact other _ _ _ given

instance : SpelledForm Capability where
  Spells c := SpellsRecord [.needed "namespace" c.namesp, .needed "provider" c.provider, .optional "package" c.package]
  native c := ⟨native c.namesp, native c.provider, native_option c.package, trivial⟩
  spells_toJson c := spellsRecord_record (.cons ⟨rfl, spells_toJson c.namesp⟩ (.cons ⟨rfl, spells_toJson c.provider⟩
    (.cons ⟨rfl, Field.optional_toJson (by simp [toJson]) _ c.package⟩ .nil)))
  ofJson?_eq_some_iff {j c} := by
    rw [spellsRecord_iff (by decide : ["namespace", "provider", "package"].Nodup) rfl]
    simp only [ofJson?]
    split
    · rename_i namesp provider package given
      cases c
      simp [given, Option.bind_eq_some_iff, Field.needed_takes_iff, Field.optional_takes_iff]
    · rename_i other
      refine iff_of_false (by simp) ?_
      rintro ⟨values, given, taken⟩
      obtain _ | ⟨_, _ | ⟨_, _ | ⟨_, _ | _⟩⟩⟩ := taken
      exact other _ _ _ given

end SpelledForm

namespace Verdict

def jsonName : Verdict → String
  | .requesterUnrestricted => "requester_unrestricted"
  | .exporterUnrestricted => "exporter_unrestricted"
  | .globalPackage => "global_package"
  | .sharedRegion _ => "shared_region"
  | .rejected => "rejected"

def content : Verdict → Json
  | .sharedRegion region => .text region.name
  | _ => .null

def Spelled (v : Verdict) (j : Json) : Prop := j = .record [(v.jsonName, v.content)] ∨ v.content = .null ∧ j = .text v.jsonName

theorem alternative_eq_some_iff {j content : Json} {name : String} :
    JsonForm.alternative j = some (name, content) ↔ j = .record [(name, content)] ∨ content = .null ∧ j = .text name := by
  unfold JsonForm.alternative
  split
  · simp [and_comm, eq_comm]
  · simp
  · rename_i noText noRecord
    refine iff_of_false (by simp) ?_
    rintro (rfl | ⟨rfl, rfl⟩)
    · exact noRecord _ _ rfl
    · exact noText _ rfl

end Verdict

namespace SpelledForm

instance : SpelledForm Verdict where
  Spells := Verdict.Spelled
  native v := by cases v <;> simp [toJson, Json.Native, Json.NativeFields]
  spells_toJson v := by cases v <;> simp [toJson, Verdict.Spelled, Verdict.jsonName, Verdict.content]
  ofJson?_eq_some_iff {j v} := by
    rw [Verdict.Spelled, ← Verdict.alternative_eq_some_iff]
    simp only [ofJson?]
    generalize JsonForm.alternative j = given
    split
    · cases v <;> simp [Verdict.jsonName, Verdict.content]
    · cases v <;> simp [Verdict.jsonName, Verdict.content]
    · cases v <;> simp [Verdict.jsonName, Verdict.content]
    · rename_i content
      have region (r : Region) : ofJson? content = some r ↔ content = .text r.name := ofJson?_eq_some_iff
      show (ofJson? content).map Verdict.sharedRegion = some v ↔ _
      simp only [Option.map_eq_some_iff, region]
      cases v <;> simp [Verdict.jsonName, Verdict.content]
    · cases v <;> simp [Verdict.jsonName, Verdict.content]
    · rename_i first second third fourth fifth
      refine iff_of_false (by simp) ?_
      rintro rfl
      cases v with
      | requesterUnrestricted => exact first rfl
      | exporterUnrestricted => exact second rfl
      | globalPackage => exact third rfl
      | sharedRegion r => exact fourth _ rfl
      | rejected => exact fifth rfl

instance : SpelledForm WiringDecision where
  Spells d := SpellsRecord [.needed "package" d.package, .needed "requester_regions" d.requesterRegions,
    .needed "exporter_regions" d.exporterRegions, .needed "verdict" d.verdict]
  native d := ⟨native d.package, native d.requesterRegions, native d.exporterRegions, native d.verdict, trivial⟩
  spells_toJson d := spellsRecord_record (.cons ⟨rfl, spells_toJson d.package⟩ (.cons ⟨rfl, spells_toJson d.requesterRegions⟩
    (.cons ⟨rfl, spells_toJson d.exporterRegions⟩ (.cons ⟨rfl, spells_toJson d.verdict⟩ .nil))))
  ofJson?_eq_some_iff {j d} := by
    rw [spellsRecord_iff (by decide : ["package", "requester_regions", "exporter_regions", "verdict"].Nodup) rfl]
    simp only [ofJson?]
    split
    · rename_i package requesterRegions exporterRegions verdict given
      cases d
      simp [given, Option.bind_eq_some_iff, Field.needed_takes_iff]
    · rename_i other
      refine iff_of_false (by simp) ?_
      rintro ⟨values, given, taken⟩
      obtain _ | ⟨_, _ | ⟨_, _ | ⟨_, _ | ⟨_, _ | _⟩⟩⟩⟩ := taken
      exact other _ _ _ _ given

instance : SpelledForm PropertyValue where
  Spells
    | .text s => fun j => j = .text s
    | .list items => Spells items
  native v := by
    cases v with
    | text s => trivial
    | list items => exact native items
  spells_toJson v := by
    cases v with
    | text s => rfl
    | list items => exact spells_toJson items
  ofJson?_eq_some_iff {j v} := by
    have items (texts : List String) : ofJson? j = some texts ↔ Spells texts j := ofJson?_eq_some_iff
    cases v with
    | text s => cases j <;> simp [ofJson?]
    | list texts =>
        show _ ↔ Spells texts j
        rw [← items]
        cases j <;> simp [ofJson?]

end SpelledForm

namespace SpelledForm

instance {α : Type} [JsonForm α] [SpelledForm α] : SpelledForm (SortedTable α) where
  Spells t j := ∃ entries fields, j = .record fields ∧
    List.Forall₂ (fun entry field => entry.1 = field.1 ∧ Spells entry.2 field.2) entries fields ∧
    ∀ key, t.get? key = SortedTable.lookup key entries.reverse
  native := LawfulForm.native
  spells_toJson t := by
    refine ⟨t.entries, _, rfl, ?_, SortedTable.ofList_eq_iff.1 t.ofList_entries⟩
    rw [List.forall₂_map_right_iff, List.forall₂_same]
    exact fun entry _ => ⟨rfl, spells_toJson entry.2⟩
  ofJson?_eq_some_iff {j t} := by
    cases j with
    | record fields =>
        have member (entry : String × α) (field : String × Json) :
            (ofJson? field.2).map (field.1, ·) = some entry ↔ entry.1 = field.1 ∧ Spells entry.2 field.2 := by
          rw [← ofJson?_eq_some_iff, Option.map_eq_some_iff]
          constructor
          · rintro ⟨value, read, rfl⟩
            exact ⟨rfl, read⟩
          · rintro ⟨named, read⟩
            exact ⟨entry.2, read, Prod.ext named.symm rfl⟩
        show (fields.mapM fun field => (ofJson? field.2).map (field.1, ·)).map SortedTable.ofList = some t ↔ _
        rw [Option.map_eq_some_iff]
        simp only [mapM_eq_some_iff, member, SortedTable.ofList_eq_iff]
        constructor
        · rintro ⟨entries, each, values⟩
          exact ⟨entries, fields, rfl, each.flip, values⟩
        · rintro ⟨entries, _, ⟨⟩, each, values⟩
          exact ⟨entries, each.flip, values⟩
    | null | bool | integer | text | list | foreign => simp [ofJson?]

end SpelledForm

section Texts
open JsonForm (encode decode)

def normalise (α : Type) [JsonForm α] (text : String) : Option String := (decode text : Option α).map encode

variable (α : Type) [JsonForm α] [SpelledForm α]

structure Survives : Prop where
  back : ∀ a : α, decode (encode a) = some a
  distinct : ∀ a b : α, encode a = encode b → a = b
  accepted : ∀ text (a : α), decode text = some a ↔ ∃ j, Json.read text = some j ∧ Spells a j
  normal : ∀ text (a : α), decode text = some a → normalise α text = some (encode a)
  idempotent : ∀ text written, normalise α text = some written →
    normalise α written = some written ∧ (decode written : Option α) = decode text

variable {α}

theorem decode_encode (a : α) : decode (encode a) = some a := by
  rw [decode, encode, Json.read_compact (SpelledForm.native a)]
  exact ofJson?_eq_some_iff.2 (spells_toJson a)

theorem decode_eq_some_iff {text : String} {a : α} : decode text = some a ↔ ∃ j, Json.read text = some j ∧ Spells a j := by
  rw [decode, Option.bind_eq_some_iff]
  simp only [ofJson?_eq_some_iff]

theorem survives : Survives α := by
  have again (a : α) : normalise α (encode a) = some (encode a) := by rw [normalise, decode_encode, Option.map_some]
  refine ⟨decode_encode, ?_, fun _ _ => decode_eq_some_iff, ?_, ?_⟩
  · intro a b same
    have alike := decode_encode a
    rw [same, decode_encode] at alike
    exact (Option.some.inj alike).symm
  · intro text a read
    rw [normalise, read, Option.map_some]
  · intro text written normal
    obtain ⟨a, read, rfl⟩ := Option.map_eq_some_iff.1 normal
    exact ⟨again a, (decode_encode a).trans read.symm⟩

def Settings.writtenAs (entries : List (String × String)) : String :=
  (Json.record (entries.map fun entry => (entry.1, .text entry.2))).compact

theorem native_written (entries : List (String × String)) :
    Json.NativeFields (entries.map fun entry => (entry.1, .text entry.2)) := by
  induction entries with
  | nil => trivial
  | cons entry rest ih => exact ⟨trivial, ih⟩

theorem Settings.decode_writtenAs {s : Settings} {entries : List (String × String)} (same : entries.Perm s.entries) :
    decode (writtenAs entries) = some s := by
  have spelt : Spells s (.record (entries.map fun entry => (entry.1, .text entry.2))) := by
    refine ⟨entries, _, rfl, ?_, SortedTable.ofList_eq_iff.1 (SortedTable.ofList_perm same)⟩
    rw [List.forall₂_map_right_iff, List.forall₂_same]
    exact fun entry _ => ⟨rfl, rfl⟩
  exact decode_eq_some_iff.2 ⟨_, Json.read_compact (native_written entries), spelt⟩

-- Reading and writing again brings every accepted text to one form.
theorem model_values_survive :
    Survives Version ∧ Survives BundleIdentity ∧ Survives BundleRevision ∧ Survives Requirement ∧ Survives Capability ∧
    Survives WiringDecision ∧ Survives PropertyValue ∧ Survives Region ∧ Survives Settings ∧
    (∀ s : Settings, encode s = Settings.writtenAs s.entries) ∧
    ∀ (s t : Settings) first second, first.Perm s.entries → second.Perm t.entries →
      decode (Settings.writtenAs first) = some s ∧ (Settings.writtenAs first = Settings.writtenAs second → s = t) := by
  refine ⟨survives, survives, survives, survives, survives, survives, survives, survives, survives, fun _ => rfl, ?_⟩
  intro s t first second firstOrder secondOrder
  have back := Settings.decode_writtenAs firstOrder
  refine ⟨back, fun same => ?_⟩
  rw [same, Settings.decode_writtenAs secondOrder] at back
  exact (Option.some.inj back).symm

-- Reordered fields with an unknown one, and the list of all fields.
example : ∀ text ∈ ["\x7b\"micro\":3, \"note\":[1.5,\"\\ud800\"], \"minor\":2, \"major\":1\x7d", "[1,2,3,null]"],
    normalise Version text = some "\x7b\"major\":1,\"minor\":2,\"micro\":3,\"qualifier\":null\x7d" := by decide +kernel

end Texts

end RegionWiring
