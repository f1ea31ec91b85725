import RegionWiring.Identity
import RegionWiring.Proofs.VersionTexts

namespace RegionWiring

theorem Text.last_separator {separator : Char} {a b x y : List Char} (absent : separator ∉ b) (absent' : separator ∉ y)
    (same : a ++ separator :: b = x ++ separator :: y) : a = x ∧ b = y := by
  have turned : b.reverse ++ separator :: a.reverse = y.reverse ++ separator :: x.reverse := by
    simpa using congrArg List.reverse same
  have cutAt : some (b.reverse, a.reverse) = some (y.reverse, x.reverse) := by
    rw [← cut_separated (by simpa using absent) a.reverse, turned, cut_separated (by simpa using absent') x.reverse]
  simpa [and_comm] using cutAt

namespace BundleIdentity

structure Readable (b : BundleIdentity) : Prop where
  named : b.symbolicName.toList ≠ []
  trimmed : Text.trim b.symbolicName.toList = b.symbolicName.toList
  whole : '~' ∉ b.symbolicName.toList
  version : b.version.Readable

variable {a b : BundleIdentity}

theorem readable_of_read {s : String} (accepted : read s = .ok b) : Readable b := by
  rcases Text.cut_cases '~' s.toList with absent | ⟨before, after, parts, absent⟩
  · rw [read, Text.cut_absent absent] at accepted
    cases accepted
  · rw [read, parts, Text.cut_separated absent] at accepted
    dsimp only at accepted
    split at accepted
    · cases accepted
    · rename_i named
      obtain ⟨version, versionRead, built⟩ := bind_eq_ok_iff.1 accepted
      have same : ⟨String.ofList (Text.trim before), version⟩ = b := Except.ok.inj built
      rw [← same]
      refine ⟨?_, ?_, ?_, Version.readable_of_read versionRead⟩
      · rwa [String.toList_ofList]
      · rw [String.toList_ofList, Text.trim_trim]
      · rw [String.toList_ofList]
        exact fun inside => absent (Text.mem_of_mem_trim inside)

theorem toList_render (b : BundleIdentity) : b.render.toList = b.symbolicName.toList ++ '~' :: b.version.render.toList := by
  have separator : "~".toList = ['~'] := rfl
  simp [render, separator]

theorem toList_bundleId (b : BundleIdentity) :
    b.bundleId.name.toList = b.symbolicName.toList ++ ':' :: b.version.render.toList := by
  have separator : ":".toList = [':'] := rfl
  simp [bundleId, separator]

theorem read_render (readable : Readable b) : read b.render = .ok b := by
  rw [read, toList_render, Text.cut_separated readable.whole]
  dsimp only
  rw [readable.trimmed, if_neg readable.named, Version.trim_render readable.version, String.ofList_toList,
    Version.read_render readable.version, String.ofList_toList]
  rfl

theorem render_inj (first : Readable a) (second : Readable b) (same : a.render = b.render) : a = b := by
  have alike := read_render first
  rw [same, read_render second] at alike
  exact (Except.ok.inj alike).symm

theorem bundleId_inj (first : Readable a) (second : Readable b) (same : a.bundleId = b.bundleId) : a = b := by
  have single {v : Version} (readable : v.Readable) : ':' ∉ v.render.toList := fun inside =>
    Version.chars_render (p := (· ≠ ':')) readable (by decide) (by rintro c plain rfl; cases plain) ':' inside rfl
  have texts : a.symbolicName.toList ++ ':' :: a.version.render.toList =
      b.symbolicName.toList ++ ':' :: b.version.render.toList := by
    rw [← toList_bundleId, ← toList_bundleId, same]
  obtain ⟨names, versions⟩ := Text.last_separator (single first.version) (single second.version) texts
  apply render_inj first second
  rw [← String.toList_inj, toList_render, toList_render, names, versions]

end BundleIdentity

theorem identity_texts_canonical :
    (∀ (s : String) (v : Version), Version.read s = .ok v → Version.read v.render = .ok v) ∧
    (∀ (s : String) (b : BundleIdentity), BundleIdentity.read s = .ok b → BundleIdentity.read b.render = .ok b) ∧
    ∀ (s t : String) (a b : BundleIdentity), BundleIdentity.read s = .ok a → BundleIdentity.read t = .ok b →
      a.render = b.render ∨ a.bundleId = b.bundleId → a = b := by
  refine ⟨?_, ?_, ?_⟩
  · intro s v accepted
    exact Version.read_render (Version.readable_of_read accepted)
  · intro s b accepted
    exact BundleIdentity.read_render (BundleIdentity.readable_of_read accepted)
  · intro s t a b first second alike
    rcases alike with same | same
    · exact BundleIdentity.render_inj (BundleIdentity.readable_of_read first) (BundleIdentity.readable_of_read second) same
    · exact BundleIdentity.bundleId_inj (BundleIdentity.readable_of_read first) (BundleIdentity.readable_of_read second) same

-- A name like a bundle id, the greatest number, a qualifier like a version.
theorem identity_texts_canonical_lookalike :
    (∃ v, Version.read "\t+07.0" = .ok v ∧ v.render = "7.0.0" ∧ Version.read v.render = .ok v) ∧
    ∃ a b, BundleIdentity.read " a:1.0.0 ~ 07.+0.4294967295.1" = .ok a ∧ BundleIdentity.read "a:1.0.0~7.0.4294967295.1" = .ok b ∧
      b.bundleId = ⟨"a:1.0.0:7.0.4294967295.1"⟩ ∧ a.bundleId = b.bundleId ∧ BundleIdentity.read a.render = .ok a ∧ a = b := by
  have version : Version.read "\t+07.0" = .ok ⟨7, 0, 0, none⟩ := by decide +kernel
  have spaced : BundleIdentity.read " a:1.0.0 ~ 07.+0.4294967295.1" = .ok ⟨"a:1.0.0", ⟨7, 0, 4294967295, some "1"⟩⟩ := by
    decide +kernel
  have plain : BundleIdentity.read "a:1.0.0~7.0.4294967295.1" = .ok ⟨"a:1.0.0", ⟨7, 0, 4294967295, some "1"⟩⟩ := by
    decide +kernel
  obtain ⟨versions, identities, distinct⟩ := identity_texts_canonical
  refine ⟨⟨_, version, by decide +kernel, versions _ _ version⟩, _, _, spaced, plain, by decide +kernel, rfl, ?_, ?_⟩
  · exact identities _ _ spaced
  · exact distinct _ _ _ _ spaced plain (.inr rfl)

end RegionWiring
