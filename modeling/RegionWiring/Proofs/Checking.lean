import RegionWiring.Proofs.HookIsolation
import RegionWiring.Proofs.LayeredSettings
import RegionWiring.Proofs.Opening

namespace RegionWiring

def Step.switches : Step → Bool
  | .switch _ => true
  | .manage _ => true
  | _ => false

-- Changes nothing that a decision depends on.
structure Step.Idle (step : Step) : Prop where
  unchanging : step.change? = none
  fixed : step.mutates = false
  stays : step.reopens = false
  unswitched : step.switches = false

namespace Session

structure Unmoved (s t : Session) : Prop where
  store : t.store = s.store
  locations : t.locations = s.locations
  enabled : t.enforcer.enabled = s.enforcer.enabled

variable {s : Session}

theorem next_enabled {step : Step} (stays : step.reopens = false) (unswitched : step.switches = false) :
    (s.next step).enforcer.enabled = s.enforcer.enabled := by
  cases step with
  | reopen => cases stays
  | switch | manage => cases unswitched
  | persist obstacles =>
      obtain ⟨files, same⟩ := persist_files s obstacles
      exact congrArg (·.enforcer.enabled) same
  | putFile path text =>
      obtain ⟨files, same⟩ := putFile_files s path text
      exact congrArg (·.enforcer.enabled) same
  | putInArea obstacles root name text =>
      obtain ⟨files, same⟩ := putInArea_files s obstacles root name text
      exact congrArg (·.enforcer.enabled) same
  | begin hook triggers =>
      have kept : (s.begin hook).enforcer.enabled = s.enforcer.enabled := by
        show (s.enforcer.afterBegin s.store).enabled = _
        unfold Enforcer.afterBegin
        split <;> rfl
      show (s.beginAfter hook triggers).1.enforcer.enabled = _
      rcases beginAfter_cases s hook triggers with same | same
      · rw [same]
      · rw [same, kept]
  | finish hook =>
      show (s.finish hook).1.enforcer.enabled = _
      rcases finish_cases s hook with same | same <;> rw [same]
  | ask | askPolicy | applyOverlay | removeOverlay | deleteOverlay | hold | addLocation | replaceLocation | removeLocation => rfl

theorem next_unmoved {step : Step} (idle : step.Idle) : Unmoved s (s.next step) := by
  have moved := next_within s step idle.stays
  refine ⟨?_, ?_, next_enabled idle.stays idle.unswitched⟩
  · rw [moved.store, idle.unchanging]
    rfl
  · rw [moved.locations, relocate_still idle.fixed]

theorem after_unmoved {steps : List Step} (idle : ∀ step ∈ steps, step.Idle) : Unmoved s (s.after steps) := by
  induction steps generalizing s with
  | nil => exact ⟨rfl, rfl, rfl⟩
  | cons step rest ih =>
      obtain ⟨first, others⟩ := List.forall_mem_cons.1 idle
      have once := next_unmoved (s := s) first
      have later := ih (s := s.next step) others
      exact ⟨later.store.trans once.store, later.locations.trans once.locations, later.enabled.trans once.enabled⟩

-- It makes no difference whether the enforcer kept the policy before.
theorem hook_unmoved (able : s.Reopenable) (unasked : s.enforcer.kept = none) (enabled : s.enforcer.enabled = true)
    {before : List Step} (idle : ∀ step ∈ before, step.Idle) {triggers : List RevisionText} {revisions : List BundleRevision}
    (read : readRevisions triggers = .ok revisions) (name : String) :
    let t := s.after (before ++ [.begin name triggers])
    ∃ hook, t.hooks.get? name = some hook ∧
      ∀ order, hook.Enforces (t.located order) (.ofStore s.store) (s.locations.located order) := by
  intro t
  have unmoved := after_unmoved (s := s) idle
  have begun : t = (s.after before).after [.begin name triggers] := after_append s before _
  have looks : t.locationsOf (s.after before).opening = s.locations := by
    rw [begun, locationsOf_begun (after_reopenable able before), ← unmoved.locations]
    rfl
  have policy : (s.after before).enforcer.policy (s.after before).store = .ofStore s.store := by
    rw [← unmoved.store]
    exact after_policy able ⟨_, _, _, cached_unasked unasked⟩ before
  have handed : t.hooks.get? name = some (.regions (.ofStore s.store) (s.after before).opening) := by
    rw [begun, after, List.foldl_cons, List.foldl_nil, hook_begun read, Enforcer.hook, if_pos (unmoved.enabled.trans enabled), policy]
  refine ⟨_, handed, fun order => ?_⟩
  rw [← looks]
  exact Hook.enforces_regions _ _ (t.located order)

theorem start_of_source {env : Environment} {source : Source} (located : Source.ofEnvironment env .empty = .ok source)
    (files : FileTree) : ∃ opened, start env .empty none files = .ok opened ∧ opened.value = ⟨env, .empty, none, files,
      (Store.ofSource source env files.read).value, Enforcer.ofEnvironment env, .empty, [], .empty, .empty⟩ := by
  unfold start openStore
  rw [located]
  exact ⟨_, rfl, rfl⟩

end Session

namespace CommandLine

inductive Unsupplied (options : EngineOptions) (reader : Reader) : Prop where
  | unreadable {path : String} {fault : FileFault} (named : options.properties = some path)
      (failed : reader (.ofString path) = .error fault)
  | malformed {path text : String} (named : options.properties = some path) (readable : reader (.ofString path) = .ok text)
      (refused : Toml.read text = none)

-- Why nothing can be decided.
inductive Hindered (options : EngineOptions) (c : CheckOptions) (reader : Reader) (process : String → Option String) : Prop where
  | requester {fault : VersionFault} (refused : BundleIdentity.read c.requester = .error fault)
  | exporter {fault : VersionFault} (refused : BundleIdentity.read c.exporter = .error fault)
  | properties (unsupplied : Unsupplied options reader)
  | unlocated {entries : Toml.Entries} (supplied : Supplied options reader entries)
      (nowhere : Source.Unlocated (environmentOver options entries process))

-- Zero: the capability survives among all candidates. One: it is removed.
def Tells (exit : UInt8) (requester : BundleRevision) (offered : Capability)
    (filtered : Requirement → List Capability → List Capability) : Prop :=
  ∀ r candidates, r.requirer = requester → r.isPackage = true → offered ∈ candidates →
    (exit = 0 ↔ offered ∈ filtered r candidates) ∧ (exit = 1 ↔ offered ∉ filtered r candidates)

section Supply

variable {options : EngineOptions} {reader : Reader}

theorem supplied_or_unsupplied (options : EngineOptions) (reader : Reader) :
    (∃ entries, Supplied options reader entries) ∨ Unsupplied options reader := by
  cases named : options.properties with
  | none => exact .inl ⟨[], .nowhere named⟩
  | some path =>
      cases result : reader (.ofString path) with
      | error fault => exact .inr (.unreadable named result)
      | ok text =>
          cases read : Toml.read text with
          | none => exact .inr (.malformed named result read)
          | some entries => exact .inl ⟨entries, .file named result read⟩

theorem environmentOf_unsupplied (process : String → Option String) (unsupplied : Unsupplied options reader) :
    ∃ fault, environmentOf options reader process = .error fault := by
  unfold environmentOf fileSettings
  cases unsupplied with
  | unreadable named failed =>
      simp only [named, readProperties, failed]
      exact ⟨_, rfl⟩
  | malformed named readable refused =>
      simp only [named, readProperties, readable, refused]
      exact ⟨_, rfl⟩

theorem environmentOf_eq_ok_iff {process : String → Option String} {env : Environment} :
    environmentOf options reader process = .ok env ↔
      ∃ entries, Supplied options reader entries ∧ env = environmentOver options entries process := by
  constructor
  · intro known
    rcases supplied_or_unsupplied options reader with ⟨entries, supplied⟩ | unsupplied
    · rw [environmentOf_supplied supplied] at known
      exact ⟨entries, supplied, (Except.ok.inj known).symm⟩
    · obtain ⟨fault, failed⟩ := environmentOf_unsupplied process unsupplied
      rw [failed] at known
      cases known
  · rintro ⟨entries, supplied, rfl⟩
    exact environmentOf_supplied supplied process

end Supply

section Checks

variable {options : EngineOptions} {c : CheckOptions} {reader : Reader} {process : String → Option String}

theorem readBundle_eq_ok_iff {text : String} {location : Option String} {revision : BundleRevision} :
    readBundle text location = .ok revision ↔ RevisionText.read ⟨text, location⟩ = .ok revision := by
  unfold readBundle RevisionText.read
  cases BundleRevision.read text <;> simp [Except.map]

theorem read_identity {text : String} {identity : BundleIdentity} (read : BundleIdentity.read text = .ok identity)
    (location : Option String) : RevisionText.read ⟨text, location⟩ = .ok ⟨identity, location⟩ := by
  unfold RevisionText.read BundleRevision.read
  rw [read]
  rfl

theorem not_read {text : String} {fault : VersionFault} (refused : BundleIdentity.read text = .error fault)
    (location : Option String) (revision : BundleRevision) : RevisionText.read ⟨text, location⟩ ≠ .ok revision := by
  unfold RevisionText.read BundleRevision.read
  rw [refused]
  nofun

structure Decided (options : EngineOptions) (c : CheckOptions) (reader : Reader) (process : String → Option String)
    (requester exporter : BundleRevision) (env : Environment) (source : Source) : Prop where
  requester : RevisionText.read ⟨c.requester, c.requesterLocation⟩ = .ok requester
  exporter : RevisionText.read ⟨c.exporter, c.exporterLocation⟩ = .ok exporter
  environment : environmentOf options reader process = .ok env
  source : Source.ofEnvironment env .empty = .ok source

theorem decisionFor_eq_ok_iff {d : WiringDecision} : decisionFor options c reader process = .ok d ↔
    ∃ requester exporter env source, Decided options c reader process requester exporter env source ∧
      d = (EffectivePolicy.ofStore (Store.ofSource source env reader).value).evaluate .nowhere requester exporter ⟨c.package⟩ := by
  unfold decisionFor
  simp only [bind_eq_ok_iff, readBundle_eq_ok_iff, load_eq_ok_iff]
  constructor
  · rintro ⟨requester, asks, exporter, offers, _, ⟨env, source, known, located, rfl⟩, same⟩
    exact ⟨requester, exporter, env, source, ⟨asks, offers, known, located⟩, (Except.ok.inj same).symm⟩
  · rintro ⟨requester, exporter, env, source, decided, rfl⟩
    exact ⟨requester, decided.requester, exporter, decided.exporter, _,
      ⟨env, source, decided.environment, decided.source, rfl⟩, rfl⟩

theorem Hindered.not_decided (hindered : Hindered options c reader process) {requester exporter : BundleRevision}
    {env : Environment} {source : Source} : ¬ Decided options c reader process requester exporter env source := by
  intro decided
  cases hindered with
  | requester refused => exact not_read refused _ _ decided.requester
  | exporter refused => exact not_read refused _ _ decided.exporter
  | properties unsupplied =>
      obtain ⟨fault, failed⟩ := environmentOf_unsupplied process unsupplied
      have known := decided.environment
      rw [failed] at known
      cases known
  | unlocated supplied nowhere =>
      have known := decided.environment
      rw [environmentOf_supplied supplied] at known
      cases known
      have located := decided.source
      rw [Source.ofEnvironment_unlocated nowhere] at located
      cases located

theorem decided_or_hindered (options : EngineOptions) (c : CheckOptions) (reader : Reader) (process : String → Option String) :
    (∃ requester exporter env source, Decided options c reader process requester exporter env source) ∨
      Hindered options c reader process := by
  cases asks : BundleIdentity.read c.requester with
  | error fault => exact .inr (.requester asks)
  | ok requester =>
      cases offers : BundleIdentity.read c.exporter with
      | error fault => exact .inr (.exporter offers)
      | ok exporter =>
          rcases supplied_or_unsupplied options reader with ⟨entries, supplied⟩ | unsupplied
          · by_cases nowhere : Source.Unlocated (environmentOver options entries process)
            · exact .inr (.unlocated supplied nowhere)
            · exact .inl ⟨_, _, _, _, read_identity asks _, read_identity offers _, environmentOf_supplied supplied process,
                Source.ofEnvironment_located nowhere .empty⟩
          · exact .inr (.properties unsupplied)

theorem check_decided {requester exporter : BundleRevision} {env : Environment} {source : Source}
    (decided : Decided options c reader process requester exporter env source) :
    ∃ outcome, check options c reader process = .ok outcome ∧ outcome.exit =
      if ((EffectivePolicy.ofStore (Store.ofSource source env reader).value).evaluate .nowhere requester exporter ⟨c.package⟩).accepted
      then 0 else 1 := by
  unfold check
  rw [decisionFor_eq_ok_iff.2 ⟨requester, exporter, env, source, decided, rfl⟩]
  exact ⟨_, rfl, rfl⟩

theorem check_hindered (hindered : Hindered options c reader process) : ∃ fault, check options c reader process = .error fault := by
  unfold check
  cases result : decisionFor options c reader process with
  | error fault => exact ⟨fault, rfl⟩
  | ok d =>
      obtain ⟨_, _, _, _, decided, _⟩ := decisionFor_eq_ok_iff.1 result
      exact absurd decided hindered.not_decided

-- Some value is always set, by an option, the file or the mark.
theorem environmentOf_enabled {env : Environment} (known : environmentOf options reader process = .ok env) :
    (Enforcer.ofEnvironment env).enabled = true := by
  obtain ⟨entries, _, rfl⟩ := environmentOf_eq_ok_iff.1 known
  show (environmentOver options entries process Key.regions).isSome = true
  rw [environmentOver_eq, flag?_regions]
  cases (flatten entries).get? Key.regions <;> rfl

theorem tells_of_enforces {exit : UInt8} {p : EffectivePolicy} {t : Located} {requester exporter : BundleRevision}
    {package : PackageName} {hook : Hook} {located : Nat → Located} (enforces : hook.Enforces located p t)
    (shown : exit = if (p.evaluate t requester exporter package).accepted then 0 else 1) :
    Tells exit requester (.ofPackage exporter package) (hook.filterMatches located · ·) := by
  rintro r candidates rfl asked offered
  have survives : Capability.ofPackage exporter package ∈ hook.filterMatches located r candidates ↔
      (p.evaluate t r.requirer exporter package).accepted = true := by
    rw [enforces.filtered, EffectivePolicy.filterMatches, if_pos asked, List.mem_filter]
    exact and_iff_right offered
  rw [survives, shown]
  cases (p.evaluate t r.requirer exporter package).accepted <;> decide

end Checks

-- Exit two exactly where an identity, the properties file or the base files are of no use. Otherwise the exit tells what every
-- hook does.
theorem check_agrees_with_hooks {args : List String} {options : EngineOptions} {c : CheckOptions}
    (asked : readArguments args = .run options (.check c)) (reader : Reader) (process : String → Option String) :
    ∃ outcome, run reader process (readArguments args) = some outcome ∧
      (outcome.exit = 2 ↔ Hindered options c reader process) ∧
      (¬ Hindered options c reader process → ∃ requester exporter env source,
        Decided options c reader process requester exporter env source ∧
        (∀ opening located, located opening = .nowhere →
          Tells outcome.exit requester (.ofPackage exporter ⟨c.package⟩)
            (((Enforcer.ofEnvironment env).hook (Store.ofSource source env reader).value opening).filterMatches located · ·)) ∧
        ∀ files : FileTree, files.read = reader → ∃ opened, Session.start env .empty none files = .ok opened ∧
          ∀ before, (∀ step ∈ before, Step.Idle step) → ∀ name triggers revisions, Session.readRevisions triggers = .ok revisions →
            let s := opened.value.after (before ++ [.begin name triggers])
            ∃ hook, s.hooks.get? name = some hook ∧ ∀ order,
              Tells outcome.exit requester (.ofPackage exporter ⟨c.package⟩) (hook.filterMatches (s.located order) · ·)) := by
  rw [asked]
  rcases decided_or_hindered options c reader process with ⟨requester, exporter, env, source, decided⟩ | hindered
  · obtain ⟨outcome, accepted, shown⟩ := check_decided decided
    have enabled := environmentOf_enabled decided.environment
    refine ⟨outcome, by simp only [run, perform, accepted], ⟨?_, fun hindered => absurd decided hindered.not_decided⟩, ?_⟩
    · intro two
      rw [shown] at two
      split at two <;> cases two
    · intro _
      refine ⟨requester, exporter, env, source, decided, ?_, ?_⟩
      · intro opening located empty
        refine tells_of_enforces ?_ shown
        rw [Enforcer.hook, if_pos enabled, ← empty]
        exact Hook.enforces_regions _ opening located
      · rintro files rfl
        obtain ⟨opened, started, parts⟩ := Session.start_of_source decided.source files
        refine ⟨opened, started, ?_⟩
        intro before idle name triggers revisions read
        obtain ⟨unasked, able⟩ := Session.start_facts started
        have switched : opened.value.enforcer.enabled = true := by rw [parts]; exact enabled
        obtain ⟨hook, handed, enforces⟩ := Session.hook_unmoved able unasked switched idle read name
        rw [parts] at enforces
        refine ⟨hook, handed, fun order => tells_of_enforces ?_ shown⟩
        rw [parts]
        exact enforces order
  · obtain ⟨fault, failed⟩ := check_hindered hindered
    exact ⟨⟨2, "", some fault⟩, by simp only [run, perform, failed], ⟨fun _ => hindered, fun _ => rfl⟩, fun free => absurd hindered free⟩

def bundlesOnly : String → Option String := fun name =>
  if name = "APIREGIONS_RESOURCE_BUNDLES_PROPERTIES" then some "/f" else if name = "APIREGIONS_REGIONS" then some "off" else none

-- Both have a feature and neither has a region, so the check exits with one.
theorem check_agrees_with_hooks_rejected :
    let args := ["check", "--requester", "a~1.0.0", "--exporter=b~1.0.0", "--package", "p"]
    let files := Session.oneFile (.text "a:1.0.0=f\nb:1.0.0=g")
    let requester : BundleRevision := ⟨⟨"a", ⟨1, 0, 0, none⟩⟩, none⟩
    let exporter : BundleRevision := ⟨⟨"b", ⟨1, 0, 0, none⟩⟩, none⟩
    readArguments args = .run ⟨none, none, none, none⟩ (.check ⟨"a~1.0.0", "b~1.0.0", "p", none, none, false⟩) ∧
    ∃ outcome env opened hook, run files.read bundlesOnly (readArguments args) = some outcome ∧ outcome.exit = 1 ∧
      environmentOf ⟨none, none, none, none⟩ files.read bundlesOnly = .ok env ∧
      Session.start env .empty none files = .ok opened ∧
      (opened.value.after [.begin "first" [], .begin "second" []]).hooks.get? "second" = some hook ∧
      Capability.ofPackage exporter ⟨"p"⟩ ∉ hook.filterMatches
        ((opened.value.after [.begin "first" [], .begin "second" []]).located .sorted) (.ofPackage requester ⟨"p"⟩)
        [.ofPackage requester ⟨"p"⟩, .ofPackage exporter ⟨"p"⟩] := by
  intro args files requester exporter
  have asked : readArguments args =
      .run ⟨none, none, none, none⟩ (.check ⟨"a~1.0.0", "b~1.0.0", "p", none, none, false⟩) := by decide +kernel
  have one : (run files.read bundlesOnly (readArguments args)).map Outcome.exit = some 1 := by decide +kernel
  obtain ⟨outcome, ran, two, agrees⟩ := check_agrees_with_hooks asked files.read bundlesOnly
  rw [ran] at one
  have exit : outcome.exit = 1 := Option.some.inj one
  have free : ¬ Hindered ⟨none, none, none, none⟩ ⟨"a~1.0.0", "b~1.0.0", "p", none, none, false⟩ files.read bundlesOnly := by
    rw [← two, exit]
    decide
  obtain ⟨v, w, env, source, decided, _, sessions⟩ := agrees free
  have sameRequester : v = requester := Except.ok.inj (decided.requester.symm.trans (by decide +kernel))
  have sameExporter : w = exporter := Except.ok.inj (decided.exporter.symm.trans (by decide +kernel))
  subst sameRequester sameExporter
  obtain ⟨opened, started, hooks⟩ := sessions files rfl
  have idle : ∀ step ∈ [Step.begin "first" []], step.Idle := List.forall_mem_singleton.2 ⟨rfl, rfl, rfl, rfl⟩
  obtain ⟨hook, handed, tells⟩ := hooks _ idle "second" [] [] rfl
  refine ⟨asked, outcome, env, opened, hook, ran, exit, decided.environment, started, handed, ?_⟩
  have offered : Capability.ofPackage exporter ⟨"p"⟩ ∈ [Capability.ofPackage requester ⟨"p"⟩, .ofPackage exporter ⟨"p"⟩] :=
    List.mem_cons_of_mem _ List.mem_cons_self
  exact (tells .sorted (.ofPackage requester ⟨"p"⟩) _ rfl rfl offered).2.1 exit

end CommandLine
end RegionWiring
