import Mathlib
import RegionWiring.CommandLine.Run
import RegionWiring.Proofs.InlineTexts
import RegionWiring.Proofs.Precedence
import RegionWiring.Proofs.Results
import RegionWiring.Proofs.SortedCollections

namespace RegionWiring

namespace Toml

inductive LeafAt : Entries → List String → Toml → Prop where
  | here {entries : Entries} {key : String} {value : Toml} (entry : (key, value) ∈ entries) (plain : value.isTable = false) :
      LeafAt entries [key] value
  | within {entries inner : Entries} {key : String} {path : List String} {value : Toml} (entry : (key, .table inner) ∈ entries)
      (leaf : LeafAt inner path value) : LeafAt entries (key :: path) value

def dotted (path : List String) : String := String.intercalate "." path

mutual
def leavesFrom (path : List String) : Toml → List (List String × Toml)
  | .table entries => leavesBelow path entries
  | v => [(path, v)]
def leavesBelow (path : List String) : List (String × Toml) → List (List String × Toml)
  | [] => []
  | (key, value) :: rest => leavesFrom (path ++ [key]) value ++ leavesBelow path rest
end

def leaves (entries : Entries) : List (List String × Toml) := leavesBelow [] entries

structure Unambiguous (entries : Entries) : Prop where
  filled : ∀ leaf ∈ leaves entries, "" ∉ leaf.1
  apart : ((leaves entries).map fun leaf => dotted leaf.1).Nodup

theorem leafAt_cons {key : String} {value leaf : Toml} {rest : Entries} {path : List String} :
    LeafAt ((key, value) :: rest) path leaf ↔
      (value.isTable = false ∧ path = [key] ∧ leaf = value) ∨
      (∃ inner behind, value = .table inner ∧ path = key :: behind ∧ LeafAt inner behind leaf) ∨ LeafAt rest path leaf := by
  constructor
  · intro found
    cases found with
    | here entry plain =>
        rcases List.mem_cons.1 entry with same | later
        · cases same
          exact .inl ⟨plain, rfl, rfl⟩
        · exact .inr (.inr (.here later plain))
    | within entry below =>
        rcases List.mem_cons.1 entry with same | later
        · cases same
          exact .inr (.inl ⟨_, _, rfl, rfl, below⟩)
        · exact .inr (.inr (.within later below))
  · rintro (⟨plain, rfl, rfl⟩ | ⟨inner, behind, rfl, rfl, below⟩ | later)
    · exact .here List.mem_cons_self plain
    · exact .within List.mem_cons_self below
    · cases later with
      | here entry plain => exact .here (List.mem_cons_of_mem _ entry) plain
      | within entry below => exact .within (List.mem_cons_of_mem _ entry) below

theorem not_leafAt_nil {path : List String} {leaf : Toml} : ¬ LeafAt [] path leaf := by
  intro found
  cases found with
  | here entry => cases entry
  | within entry => cases entry

mutual
theorem mem_leavesFrom (path full : List String) (leaf : Toml) : ∀ v : Toml, (full, leaf) ∈ leavesFrom path v ↔
    (v.isTable = false ∧ full = path ∧ leaf = v) ∨ ∃ inner behind, v = .table inner ∧ full = path ++ behind ∧ LeafAt inner behind leaf
  | .table entries => by
      rw [leavesFrom, mem_leavesBelow path full leaf entries]
      constructor
      · rintro ⟨behind, same, below⟩
        exact .inr ⟨entries, behind, rfl, same, below⟩
      · rintro (⟨plain, _⟩ | ⟨inner, behind, same, whole, below⟩)
        · cases plain
        · cases same
          exact ⟨behind, whole, below⟩
  | .text _ | .integer _ | .float _ | .bool _ | .moment _ | .array _ => by simp [leavesFrom, isTable]
theorem mem_leavesBelow (path full : List String) (leaf : Toml) : ∀ entries : List (String × Toml),
    (full, leaf) ∈ leavesBelow path entries ↔ ∃ behind, full = path ++ behind ∧ LeafAt entries behind leaf
  | [] => by simp [leavesBelow, not_leafAt_nil]
  | (key, value) :: rest => by
      rw [leavesBelow, List.mem_append, mem_leavesFrom (path ++ [key]) full leaf value, mem_leavesBelow path full leaf rest]
      simp only [leafAt_cons]
      constructor
      · rintro ((⟨plain, whole, same⟩ | ⟨inner, behind, same, whole, below⟩) | ⟨behind, whole, later⟩)
        · exact ⟨[key], whole, .inl ⟨plain, rfl, same⟩⟩
        · exact ⟨key :: behind, by simpa using whole, .inr (.inl ⟨inner, behind, same, rfl, below⟩)⟩
        · exact ⟨behind, whole, .inr (.inr later)⟩
      · rintro ⟨behind, whole, ⟨plain, rfl, same⟩ | ⟨inner, further, same, rfl, below⟩ | later⟩
        · exact .inl (.inl ⟨plain, whole, same⟩)
        · exact .inl (.inr ⟨inner, further, same, by simpa using whole, below⟩)
        · exact .inr ⟨behind, whole, later⟩
end

theorem mem_leaves {entries : Entries} {path : List String} {leaf : Toml} : (path, leaf) ∈ leaves entries ↔ LeafAt entries path leaf := by
  rw [leaves, mem_leavesBelow]
  simp

end Toml

namespace CommandLine

open Toml (LeafAt Unambiguous dotted leaves leavesFrom leavesBelow)

def nameOf (path : List String) : String := path.foldl keyUnder ""

def enter (settings : Settings) (leaf : List String × Toml) : Settings := settings.insert (nameOf leaf.1) (scalarText leaf.2)

mutual
theorem flattenValue_eq (settings : Settings) (path : List String) :
    ∀ v : Toml, flattenValue settings (nameOf path) v = (leavesFrom path v).foldl enter settings
  | .table entries => flattenEntries_eq settings path entries
  | .text _ | .integer _ | .float _ | .bool _ | .moment _ | .array _ => by simp [flattenValue, leavesFrom, enter]
theorem flattenEntries_eq (settings : Settings) (path : List String) :
    ∀ entries : List (String × Toml), flattenEntries settings (nameOf path) entries = (leavesBelow path entries).foldl enter settings
  | [] => rfl
  | (key, value) :: rest => by
      have longer : keyUnder (nameOf path) key = nameOf (path ++ [key]) := by simp [nameOf]
      rw [flattenEntries, longer, flattenValue_eq settings (path ++ [key]) value, flattenEntries_eq _ path rest, leavesBelow,
        List.foldl_append]
end

theorem flatten_eq (entries : Toml.Entries) :
    flatten entries = SortedTable.ofList ((leaves entries).map fun leaf => (nameOf leaf.1, scalarText leaf.2)) := by
  rw [SortedTable.ofList, List.foldl_map]
  exact flattenEntries_eq .empty [] entries

theorem dotted_concat {path : List String} (something : path ≠ []) (key : String) :
    dotted (path ++ [key]) = dotted path ++ "." ++ key := by
  have last : String.intercalate "." [key] = key := rfl
  rw [dotted, String.intercalate_append_of_ne_nil something (List.cons_ne_nil key []), last]
  rfl

-- The name grows key by key, so no key may be empty.
theorem nameOf_filled {path : List String} (filled : "" ∉ path) : nameOf path = dotted path := by
  have both : nameOf path = dotted path ∧ (path ≠ [] → dotted path ≠ "") := by
    induction path using List.reverseRecOn with
    | nil => exact ⟨rfl, fun something => absurd rfl something⟩
    | append_singleton path key ih =>
        have front : "" ∉ path := fun inside => filled (List.mem_append_left _ inside)
        have last : key ≠ "" := fun same => filled (List.mem_append_right _ (same ▸ List.mem_singleton_self key))
        obtain ⟨named, shown⟩ := ih front
        have entered : nameOf (path ++ [key]) = keyUnder (dotted path) key := by
          rw [← named]
          exact List.foldl_concat ..
        by_cases alone : path = []
        · subst alone
          exact ⟨rfl, fun _ => last⟩
        · rw [entered, keyUnder, if_neg (shown alone), dotted_concat alone]
          exact ⟨rfl, fun _ empty => by simpa using congrArg String.toList empty⟩
  exact both.1

section Flattening

variable {entries : Toml.Entries}

def Says (entries : Toml.Entries) (name text : String) : Prop :=
  ∃ path value, LeafAt entries path value ∧ dotted path = name ∧ scalarText value = text

theorem get?_flatten_eq_some_iff (unambiguous : Unambiguous entries) {name text : String} :
    (flatten entries).get? name = some text ↔ Says entries name text := by
  have entered : (leaves entries).map (fun leaf => (nameOf leaf.1, scalarText leaf.2)) =
      (leaves entries).map fun leaf => (dotted leaf.1, scalarText leaf.2) :=
    List.map_congr_left fun leaf inside => by rw [nameOf_filled (unambiguous.filled leaf inside)]
  have distinct : (((leaves entries).map fun leaf => (dotted leaf.1, scalarText leaf.2)).map Prod.fst).Nodup := by
    rw [List.map_map]
    exact unambiguous.apart
  rw [flatten_eq, entered, SortedTable.get?_ofList, SortedTable.lookup_perm (List.reverse_perm _) distinct,
    SortedTable.lookup_eq_some_iff distinct]
  simp [Says, Toml.mem_leaves, Prod.ext_iff]

theorem get?_flatten_eq_none_iff (unambiguous : Unambiguous entries) {name : String} :
    (flatten entries).get? name = none ↔ ∀ path value, LeafAt entries path value → dotted path ≠ name := by
  rw [Option.eq_none_iff_forall_ne_some]
  simp only [ne_eq, get?_flatten_eq_some_iff unambiguous]
  constructor
  · intro silent path value leaf named
    exact silent _ ⟨path, value, leaf, named, rfl⟩
  · rintro unset text ⟨path, value, leaf, named, _⟩
    exact unset path value leaf named

end Flattening

def EngineOptions.flag? (options : EngineOptions) (key : String) : Option String :=
  if key = Key.location then options.location
  else if key = Key.defaults then options.defaultRegions
  else if key = Key.joinGlobal then options.joinGlobal
  else none

theorem get?_overlay (settings : Settings) (key k : String) (value : Option String) :
    (overlay settings key value).get? k = (if k = key then value else none).or (settings.get? k) := by
  cases value with
  | none => simp [overlay]
  | some text => by_cases same : key = k <;> simp [overlay, SortedTable.get?_insert, same, eq_comm]

theorem flag?_regions (options : EngineOptions) : options.flag? Key.regions = none := by
  unfold EngineOptions.flag?
  rw [if_neg (by decide), if_neg (by decide), if_neg (by decide)]

theorem get?_overlaid (options : EngineOptions) (file : Settings) (key : String) :
    (overlay (overlay (overlay file Key.location options.location) Key.defaults options.defaultRegions) Key.joinGlobal
      options.joinGlobal).get? key = (options.flag? key).or (file.get? key) := by
  have apart : Key.location ≠ Key.defaults ∧ Key.location ≠ Key.joinGlobal ∧ Key.defaults ≠ Key.joinGlobal := by decide
  obtain ⟨notDefaults, notJoined, alsoNotJoined⟩ := apart
  rw [get?_overlay, get?_overlay, get?_overlay, EngineOptions.flag?]
  by_cases location : key = Key.location
  · simp [location, notDefaults, notJoined]
  · by_cases defaults : key = Key.defaults
    · simp [defaults, notDefaults.symm, alsoNotJoined]
    · simp [location, defaults]

-- The mark is set only where the file has none.
theorem get?_layered (options : EngineOptions) (file : Settings) (key : String) :
    (layered options file).get? key =
      (options.flag? key).or ((file.get? key).or (if key = Key.regions then some "*" else none)) := by
  have marked := get?_overlaid options file Key.regions
  rw [flag?_regions, Option.none_or] at marked
  unfold layered
  dsimp only
  rw [SortedTable.contains, marked]
  cases set : file.get? Key.regions with
  | some text =>
      rw [Option.isSome_some, if_pos rfl, get?_overlaid]
      by_cases regions : key = Key.regions
      · simp [regions, set]
      · simp [regions]
  | none =>
      rw [Option.isSome_none, if_neg Bool.false_ne_true, SortedTable.get?_insert, get?_overlaid]
      by_cases regions : key = Key.regions
      · simp [regions, set, flag?_regions]
      · simp [regions, Ne.symm regions]

inductive Resolved (options : EngineOptions) (entries : Toml.Entries) (process : String → Option String) (key : String) :
    Option String → Prop where
  | option {text : String} (given : options.flag? key = some text) : Resolved options entries process key (some text)
  | leaf {path : List String} {value : Toml} (free : options.flag? key = none) (found : LeafAt entries path value)
      (named : dotted path = key) : Resolved options entries process key (some (scalarText value))
  | enabling (free : options.flag? key = none) (unset : ∀ path value, LeafAt entries path value → dotted path ≠ key)
      (regions : key = Key.regions) : Resolved options entries process key (some "*")
  | process (free : options.flag? key = none) (unset : ∀ path value, LeafAt entries path value → dotted path ≠ key)
      (other : key ≠ Key.regions) : Resolved options entries process key (process (Environment.variableName key))

inductive Supplied (options : EngineOptions) (reader : Reader) : Toml.Entries → Prop where
  | nowhere (unnamed : options.properties = none) : Supplied options reader []
  | file {path text : String} {entries : Toml.Entries} (named : options.properties = some path)
      (readable : reader (.ofString path) = .ok text) (read : Toml.read text = some entries) : Supplied options reader entries

def environmentOver (options : EngineOptions) (entries : Toml.Entries) (process : String → Option String) : Environment :=
  (layered options (flatten entries)).environment.orElse (.ofVariables process)

section Layers

variable {options : EngineOptions} {entries : Toml.Entries} {reader : Reader}

theorem environmentOf_supplied (supplied : Supplied options reader entries) (process : String → Option String) :
    environmentOf options reader process = .ok (environmentOver options entries process) := by
  have settings : fileSettings options reader = .ok (flatten entries) := by
    unfold fileSettings
    cases supplied with
    | nowhere unnamed =>
        rw [unnamed]
        rfl
    | file named readable read =>
        simp only [named, readProperties, readable, read]
  unfold environmentOf
  rw [settings]
  rfl

theorem environmentOver_eq (options : EngineOptions) (entries : Toml.Entries) (process : String → Option String) (key : String) :
    environmentOver options entries process key =
      (options.flag? key).or (((flatten entries).get? key).or
        (if key = Key.regions then some "*" else process (Environment.variableName key))) := by
  show ((layered options (flatten entries)).get? key).or (process (Environment.variableName key)) = _
  rw [get?_layered]
  by_cases regions : key = Key.regions <;> simp [regions, Option.or_assoc]

theorem environmentOver_resolved (unambiguous : Unambiguous entries) (process : String → Option String) (key : String) :
    Resolved options entries process key (environmentOver options entries process key) := by
  rw [environmentOver_eq]
  cases given : options.flag? key with
  | some text => exact .option given
  | none =>
      rw [Option.none_or]
      cases set : (flatten entries).get? key with
      | some text =>
          obtain ⟨path, value, leaf, named, rfl⟩ := (get?_flatten_eq_some_iff unambiguous).1 set
          exact .leaf given leaf named
      | none =>
          have unset := (get?_flatten_eq_none_iff unambiguous).1 set
          rw [Option.none_or]
          split
          · rename_i regions
            exact .enabling given unset regions
          · rename_i other
            exact .process given unset other

theorem environmentOver_of_resolved (unambiguous : Unambiguous entries) {process : String → Option String} {key : String}
    {result : Option String} (resolved : Resolved options entries process key result) :
    environmentOver options entries process key = result := by
  rw [environmentOver_eq]
  cases resolved with
  | option given =>
      rw [given]
      rfl
  | @leaf path value free found named =>
      have set : (flatten entries).get? key = some (scalarText value) :=
        (get?_flatten_eq_some_iff unambiguous).2 ⟨path, value, found, named, rfl⟩
      rw [free, set]
      rfl
  | enabling free unset regions =>
      rw [free, (get?_flatten_eq_none_iff unambiguous).2 unset, if_pos regions]
      rfl
  | process free unset other =>
      rw [free, (get?_flatten_eq_none_iff unambiguous).2 unset, if_neg other]
      rfl

-- Only the resulting names tell nested tables and quoted keys apart.
theorem environmentOver_alike {others : Toml.Entries} (unambiguous : Unambiguous entries) (alsoUnambiguous : Unambiguous others)
    (alike : ∀ name text, Says others name text ↔ Says entries name text) (process : String → Option String) :
    environmentOver options others process = environmentOver options entries process := by
  have settings (key : String) : (flatten others).get? key = (flatten entries).get? key := by
    apply Option.ext
    intro text
    rw [get?_flatten_eq_some_iff alsoUnambiguous, get?_flatten_eq_some_iff unambiguous, alike]
  funext key
  rw [environmentOver_eq, environmentOver_eq, settings]

end Layers

section Lists

-- Splitting a list leaves it as it is.
structure ListItem (item : String) : Prop where
  trimmed : Text.trim item.toList = item.toList
  filled : item ≠ ""
  whole : ',' ∉ item.toList

variable {items : List String}

theorem scalarTexts_texts (items : List String) : scalarTexts (items.map .text) = items := by
  induction items with
  | nil => rfl
  | cons item rest ih => rw [List.map_cons, scalarTexts, ih, scalarText]

theorem splitList_intercalate (plain : ∀ item ∈ items, ListItem item) : Text.splitList (String.intercalate "," items) = items := by
  have chars : (String.intercalate "," items).toList = [','].intercalate (items.map String.toList) := String.toList_intercalate
  have pieces : ((([','].intercalate (items.map String.toList)).splitOn ',').map Text.trim).filter (· ≠ []) =
      items.map String.toList := by
    cases items with
    | nil => rfl
    | cons item rest =>
        have whole : ∀ cs ∈ (item :: rest).map String.toList, ',' ∉ cs :=
          List.forall_mem_map.2 fun item inside => (plain item inside).whole
        have trimmed : ((item :: rest).map String.toList).map Text.trim = (item :: rest).map String.toList := by
          rw [List.map_map]
          exact List.map_congr_left fun item inside => (plain item inside).trimmed
        rw [List.splitOn_intercalate ',' whole (List.cons_ne_nil _ _), trimmed, List.filter_eq_self]
        refine List.forall_mem_map.2 fun item inside => ?_
        simpa using (plain item inside).filled
  rw [Text.splitList, chars, pieces, List.map_map]
  simp [Function.comp_def]

end Lists

section Texts

-- A date or time of its own carries the writer's private mark.
inductive Spelled : Toml → String → Prop where
  | text (s : String) : Spelled (.text s) s
  | integer (n : Int) : Spelled (.integer n) (toString n)
  | float {x : BinaryFraction} {s : String} (written : x.Written s) : Spelled (.float x) s
  | bool (b : Bool) : Spelled (.bool b) (toString b)
  | moment (written : String) :
      Spelled (.moment written) ("\x7b \"$__toml_private_datetime\" = \"" ++ written ++ "\" \x7d")
  | array {items : List Toml} {texts : List String} (each : List.Forall₂ Spelled items texts) :
      Spelled (.array items) (String.intercalate "," texts)
  | table {entries : Toml.Entries} {cs : List Char} (inline : Toml.Inline (.table entries) cs) :
      Spelled (.table entries) (String.ofList cs)

mutual
theorem spelled_scalarText : ∀ v : Toml, Spelled v (scalarText v)
  | .text s => .text s
  | .integer n => by
      have shown : scalarText (.integer n) = toString n :=
        (congrArg String.ofList (Toml.integerChars_eq n)).trans String.ofList_toList
      exact shown ▸ .integer n
  | .float x => by
      have shown : scalarText (.float x) = x.render := String.ofList_toList
      exact shown ▸ .float x.written_render
  | .bool true => .bool true
  | .bool false => .bool false
  | .moment written => .moment written
  | .array items => .array (spelled_scalarTexts items)
  | .table entries => .table (Toml.inline_writtenValue (.table entries))
theorem spelled_scalarTexts : ∀ items : List Toml, List.Forall₂ Spelled items (scalarTexts items)
  | [] => .nil
  | item :: rest => .cons (spelled_scalarText item) (spelled_scalarTexts rest)
end

end Texts

theorem load_eq_ok_iff {options : EngineOptions} {reader : Reader} {process : String → Option String} {loaded : Loaded} :
    load options reader process = .ok loaded ↔ ∃ env source, environmentOf options reader process = .ok env ∧
      Source.ofEnvironment env .empty = .ok source ∧
      loaded = ⟨(Store.ofSource source env reader).value, Enforcer.ofEnvironment env⟩ := by
  unfold load
  simp only [bind_eq_ok_iff, mapError_eq_ok_iff]
  constructor
  · rintro ⟨env, known, source, located, same⟩
    exact ⟨env, source, known, located, (Except.ok.inj same).symm⟩
  · rintro ⟨env, source, known, located, rfl⟩
    exact ⟨env, known, source, located, rfl⟩

theorem regionList_of_items {env : Environment} {key : String} {items : List String} (plain : ∀ item ∈ items, ListItem item)
    (set : env key = some (String.intercalate "," items)) :
    FirstSeen (Store.regionList env key).items (items.map Region.mk) := by
  have listed : Store.regionList env key = Members.ofList (items.map Region.mk) := by
    rw [Store.regionList, Environment.listProperty, set]
    dsimp only
    rw [splitList_intercalate plain]
  rw [listed]
  exact Members.firstSeen_ofList _

-- Options come first, then the file, the mark and the process.
theorem settings_by_layer {entries : Toml.Entries} (unambiguous : Unambiguous entries) (options : EngineOptions)
    (process : String → Option String) :
    let env := environmentOver options entries process
    (∀ reader, Supplied options reader entries → environmentOf options reader process = .ok env) ∧
    (∀ key result, env key = result ↔ Resolved options entries process key result) ∧
    (∀ path value, LeafAt entries path value → Spelled value (scalarText value)) ∧
    (∀ others, Unambiguous others → (∀ name text, Says others name text ↔ Says entries name text) →
      environmentOver options others process = env) ∧
    ∀ path (items : List String), LeafAt entries path (.array (items.map .text)) → (∀ item ∈ items, ListItem item) →
      options.flag? (dotted path) = none → ∀ reader loaded, Supplied options reader entries →
        load options reader process = .ok loaded →
        (dotted path = Key.defaults → FirstSeen loaded.store.defaultRegions.items (items.map Region.mk)) ∧
        (dotted path = Key.joinGlobal → FirstSeen loaded.store.joinedRegions.items (items.map Region.mk)) := by
  intro env
  refine ⟨fun reader supplied => environmentOf_supplied supplied process, ?_, fun _ value _ => spelled_scalarText value, ?_, ?_⟩
  · intro key result
    constructor
    · rintro rfl
      exact environmentOver_resolved unambiguous process key
    · exact environmentOver_of_resolved unambiguous
  · intro others alsoUnambiguous alike
    exact environmentOver_alike unambiguous alsoUnambiguous alike process
  · intro path items leaf plain free reader loaded supplied accepted
    have set : env (dotted path) = some (String.intercalate "," items) := by
      have resolved : Resolved options entries process (dotted path) (some (scalarText (.array (items.map .text)))) :=
        .leaf free leaf rfl
      rw [scalarText, scalarTexts_texts] at resolved
      exact environmentOver_of_resolved unambiguous resolved
    obtain ⟨other, source, known, _, rfl⟩ := load_eq_ok_iff.1 accepted
    rw [environmentOf_supplied supplied] at known
    obtain rfl := Except.ok.inj known
    constructor
    · intro defaults
      exact regionList_of_items plain (defaults ▸ set)
    · intro joined
      exact regionList_of_items plain (joined ▸ set)

def nestedTable : Toml.Entries :=
  [("apiregions", .table [("default", .array [.text "b", .text "a", .text "b"]), ("location", .text "/f")])]

theorem settings_by_layer_nested :
    let options : EngineOptions := ⟨some "/flag", some "p", none, none⟩
    let reader : Reader := fun _ => .ok "[apiregions]\ndefault=['b','a','b']\nlocation='/f'"
    let process := fun name => if name = "APIREGIONS_JOINGLOBAL" then some "j" else none
    let env := environmentOver options nestedTable process
    Unambiguous nestedTable ∧ environmentOf options reader process = .ok env ∧ env Key.location = some "/flag" ∧
      env Key.defaults = some "b,a,b" ∧ env Key.regions = some "*" ∧ env Key.joinGlobal = some "j" ∧
      ∃ loaded, load options reader process = .ok loaded ∧
        FirstSeen loaded.store.defaultRegions.items [⟨"b"⟩, ⟨"a"⟩, ⟨"b"⟩] := by
  intro options reader process env
  have found : leaves nestedTable = [(["apiregions", "default"], .array [.text "b", .text "a", .text "b"]),
      (["apiregions", "location"], .text "/f")] := rfl
  have unambiguous : Unambiguous nestedTable := ⟨by rw [found]; decide, by rw [found]; decide⟩
  have read : Toml.read "[apiregions]\ndefault=['b','a','b']\nlocation='/f'" = some nestedTable := by
    unfold nestedTable
    cbv
  have supplied : Supplied options reader nestedTable := .file rfl rfl read
  have leaf : LeafAt nestedTable ["apiregions", "default"] (.array (["b", "a", "b"].map .text)) :=
    Toml.mem_leaves.1 (by rw [found]; exact List.mem_cons_self)
  have unset {key : String} (other : key ∉ ["apiregions.default", "apiregions.location"]) :
      ∀ path value, LeafAt nestedTable path value → dotted path ≠ key := by
    intro path value leaf named
    have listed := List.mem_map_of_mem (f := fun leaf => dotted leaf.1) (Toml.mem_leaves.2 leaf)
    rw [found] at listed
    exact other (named ▸ listed)
  obtain ⟨known, resolved, _, _, lists⟩ := settings_by_layer unambiguous options process
  have location : env Key.location = some "/flag" := (resolved _ _).2 (.option rfl)
  have defaults : env Key.defaults = some "b,a,b" := (resolved _ _).2 (.leaf rfl leaf rfl)
  have regions : env Key.regions = some "*" := (resolved _ _).2 (.enabling rfl (unset (by decide)) rfl)
  have joined : env Key.joinGlobal = some "j" := (resolved _ _).2 (.process rfl (unset (by decide)) (by decide))
  obtain ⟨loaded, accepted⟩ : ∃ loaded, load options reader process = .ok loaded :=
    ⟨_, load_eq_ok_iff.2 ⟨env, _, known reader supplied, rfl, rfl⟩⟩
  have b : ListItem "b" := ⟨by decide, by decide, by decide⟩
  have a : ListItem "a" := ⟨by decide, by decide, by decide⟩
  have plain : ∀ item ∈ ["b", "a", "b"], ListItem item :=
    List.forall_mem_cons.2 ⟨b, List.forall_mem_cons.2 ⟨a, List.forall_mem_singleton.2 b⟩⟩
  exact ⟨unambiguous, known reader supplied, location, defaults, regions, joined, loaded, accepted,
    (lists _ _ leaf plain rfl reader loaded supplied accepted).1 rfl⟩

-- A date of its own is not given as the date.
theorem date_leaf_marked :
    let options : EngineOptions := ⟨some "c", some "p.toml", none, none⟩
    ∃ entries env, Toml.read "d = 1979-05-27\n" = some entries ∧ Unambiguous entries ∧ LeafAt entries ["d"] (.moment "1979-05-27") ∧
      environmentOf options (fun _ => .ok "d = 1979-05-27\n") (fun _ => none) = .ok env ∧ options.flag? "d" = none ∧
      env "d" = some "\x7b \"$__toml_private_datetime\" = \"1979-05-27\" \x7d" ∧ env "d" ≠ some "1979-05-27" := by
  intro options
  have read : Toml.read "d = 1979-05-27\n" = some [("d", .moment "1979-05-27")] := by cbv
  have supplied : Supplied options (fun _ => .ok "d = 1979-05-27\n") [("d", .moment "1979-05-27")] := .file rfl rfl read
  have shown : environmentOver options [("d", .moment "1979-05-27")] (fun _ => none) "d" =
      some "\x7b \"$__toml_private_datetime\" = \"1979-05-27\" \x7d" := by decide +kernel
  refine ⟨_, _, read, ⟨by decide, by decide⟩, .here List.mem_cons_self rfl, environmentOf_supplied supplied _, rfl, shown, ?_⟩
  rw [shown]
  decide

end CommandLine
end RegionWiring
