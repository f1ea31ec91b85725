import Mathlib.Order.Defs.LinearOrder
import RegionWiring.Identity

namespace RegionWiring

structure LinearlyOrdered (α : Type) [Ord α] : Prop where
  total : ∀ a b : α, (compare a b).isLE ∨ (compare b a).isLE
  antisymmetric : ∀ a b : α, (compare a b).isLE → (compare b a).isLE → a = b
  transitive : ∀ a b c : α, (compare a b).isLE → (compare b c).isLE → (compare a c).isLE
  equal : ∀ a b : α, compare a b = .eq ↔ a = b
  swapped : ∀ a b : α, compare b a = (compare a b).swap

def ascending {α : Type} [Ord α] (items : List α) : List α := items.mergeSort fun a b => (compare a b).isLE

section Sorting

variable {α : Type} [Ord α]

theorem perm_ascending (items : List α) : (ascending items).Perm items := List.mergeSort_perm items _

variable [Std.TransOrd α]

theorem isLE_total (a b : α) : (compare a b).isLE ∨ (compare b a).isLE := by
  have turned : compare b a = (compare a b).swap := Std.OrientedCmp.eq_swap
  rw [turned]
  cases compare a b with
  | lt => exact .inl rfl
  | eq => exact .inl rfl
  | gt => exact .inr rfl

theorem isLE_transitive {a b c : α} (low : (compare a b).isLE) (high : (compare b c).isLE) : (compare a c).isLE :=
  Std.TransCmp.isLE_trans low high

theorem pairwise_ascending (items : List α) : (ascending items).Pairwise fun a b => (compare a b).isLE := by
  apply List.pairwise_mergeSort
  · intro a b c low high
    exact isLE_transitive low high
  · intro a b
    simpa using isLE_total a b

variable [Std.LawfulEqOrd α]

theorem isLE_antisymmetric {a b : α} (below : (compare a b).isLE) (above : (compare b a).isLE) : a = b :=
  Std.LawfulEqOrd.eq_of_compare (Std.OrientedCmp.isLE_antisymm below above)

variable (α) in
theorem linearlyOrdered : LinearlyOrdered α where
  total := isLE_total
  antisymmetric _ _ := isLE_antisymmetric
  transitive _ _ _ := isLE_transitive
  equal _ _ := Std.LawfulEqCmp.compare_eq_iff_eq
  swapped _ _ := Std.OrientedCmp.eq_swap

-- Only one arrangement ascends.
theorem eq_ascending {items sorted : List α} (same : sorted.Perm items)
    (ascends : sorted.Pairwise fun a b => (compare a b).isLE) : sorted = ascending items := by
  have permuted : sorted.Perm (ascending items) := same.trans (perm_ascending items).symm
  exact permuted.eq_of_pairwise (fun a b _ _ below above => isLE_antisymmetric below above) ascends (pairwise_ascending items)

theorem ascending_perm {items others : List α} (same : items.Perm others) : ascending items = ascending others :=
  eq_ascending ((perm_ascending items).trans same) (pairwise_ascending items)

end Sorting

section Fields

variable {α β : Type}

theorem compareLex_eq_iff {first next : α → α → Ordering} {a b : α} :
    compareLex first next a b = .eq ↔ first a b = .eq ∧ next a b = .eq := Ordering.then_eq_eq

theorem compareLex_lt_iff {first next : α → α → Ordering} {a b : α} :
    compareLex first next a b = .lt ↔ first a b = .lt ∨ first a b = .eq ∧ next a b = .lt := Ordering.then_eq_lt

theorem compareOn_eq_iff [Ord β] [Std.LawfulEqOrd β] {field : α → β} {a b : α} :
    compareOn field a b = .eq ↔ field a = field b := by
  unfold compareOn
  exact Std.LawfulEqOrd.compare_eq_iff_eq

theorem lawfulEqOrd_of_iff [Ord α] (equal : ∀ a b : α, compare a b = .eq ↔ a = b) : Std.LawfulEqOrd α where
  compare_self {a} := (equal a a).2 rfl
  eq_of_compare {a b} same := (equal a b).1 same

end Fields

namespace Version

theorem compareQualifiers_eq : compareQualifiers = compare := by
  funext a b
  cases a <;> cases b <;> rfl

theorem compare_eq_lex : (compare : Version → Version → Ordering) =
    compareLex (compareLex (compareOn major) (compareOn minor)) (compareLex (compareOn micro) (compareOn qualifier)) := by
  funext v w
  simp [compareLex, compareOn, compare, compareQualifiers_eq]

instance : Std.TransOrd Version := by
  rw [Std.TransOrd, compare_eq_lex]
  infer_instance

instance : Std.LawfulEqOrd Version := by
  apply lawfulEqOrd_of_iff
  intro v w
  rw [compare_eq_lex]
  simp only [compareLex_eq_iff, compareOn_eq_iff]
  cases v
  cases w
  simp [and_assoc]

def NumbersBelow (v w : Version) : Prop :=
  v.major < w.major ∨ v.major = w.major ∧ (v.minor < w.minor ∨ v.minor = w.minor ∧ v.micro < w.micro)

theorem compare_of_numbersBelow {v w : Version} (below : NumbersBelow v w) : compare v w = .lt := by
  have number {field : Version → UInt32} : compareOn field v w = .lt ↔ field v < field w := Std.compare_eq_lt
  rw [compare_eq_lex]
  simp only [compareLex_lt_iff, compareLex_eq_iff, compareOn_eq_iff, number]
  rcases below with majors | ⟨major, minors | ⟨minor, micros⟩⟩
  · exact .inl (.inl majors)
  · exact .inl (.inr ⟨major, minors⟩)
  · exact .inr ⟨⟨major, minor⟩, .inl micros⟩

theorem compare_unqualified (major minor micro : UInt32) (q : String) :
    compare (⟨major, minor, micro, none⟩ : Version) ⟨major, minor, micro, some q⟩ = .lt := by
  rw [compare_eq_lex]
  simp only [compareLex_lt_iff, compareLex_eq_iff, compareOn_eq_iff]
  exact .inr ⟨⟨trivial, trivial⟩, .inr ⟨trivial, rfl⟩⟩

end Version

namespace BundleIdentity

theorem compare_eq_lex : (compare : BundleIdentity → BundleIdentity → Ordering) =
    compareLex (compareOn symbolicName) (compareOn version) := rfl

instance : Std.TransOrd BundleIdentity := by
  rw [Std.TransOrd, compare_eq_lex]
  infer_instance

instance : Std.LawfulEqOrd BundleIdentity := by
  apply lawfulEqOrd_of_iff
  intro a b
  rw [compare_eq_lex]
  simp only [compareLex_eq_iff, compareOn_eq_iff]
  cases a
  cases b
  simp

end BundleIdentity

-- Numbers decide first; unqualified comes before qualified.
theorem versions_and_identities_ordered :
    LinearlyOrdered Version ∧ LinearlyOrdered BundleIdentity ∧
    (∀ (major minor micro : UInt32) (q : String),
      compare (⟨major, minor, micro, none⟩ : Version) ⟨major, minor, micro, some q⟩ = .lt) ∧
    (∀ v w : Version, v.NumbersBelow w → compare v w = .lt) ∧
    (∀ items others : List Version, items.Perm others → ascending items = ascending others) ∧
    ∀ items others : List BundleIdentity, items.Perm others → ascending items = ascending others := by
  refine ⟨linearlyOrdered Version, linearlyOrdered BundleIdentity, Version.compare_unqualified, ?_, ?_, ?_⟩
  · intro v w below
    exact Version.compare_of_numbersBelow below
  · intro items others same
    exact ascending_perm same
  · intro items others same
    exact ascending_perm same

def scatteredVersions : List Version :=
  [⟨1, 10, 0, some ""⟩, ⟨1, 9, 4294967295, some "z"⟩, ⟨1, 10, 0, none⟩, ⟨0, 11, 0, some "a"⟩]

def scatteredIdentities : List BundleIdentity := [⟨"a.b", ⟨1, 0, 0, none⟩⟩, ⟨"a", ⟨10, 0, 0, none⟩⟩, ⟨"a", ⟨9, 0, 0, some "q"⟩⟩]

theorem versions_and_identities_ordered_scattered :
    compare (⟨1, 9, 4294967295, some "z"⟩ : Version) ⟨1, 10, 0, none⟩ = .lt ∧
    ascending scatteredVersions = ascending scatteredVersions.reverse ∧
    ascending scatteredVersions = [⟨0, 11, 0, some "a"⟩, ⟨1, 9, 4294967295, some "z"⟩, ⟨1, 10, 0, none⟩, ⟨1, 10, 0, some ""⟩] ∧
    ascending scatteredIdentities = ascending scatteredIdentities.reverse ∧
    ascending scatteredIdentities = [⟨"a", ⟨9, 0, 0, some "q"⟩⟩, ⟨"a", ⟨10, 0, 0, none⟩⟩, ⟨"a.b", ⟨1, 0, 0, none⟩⟩] := by
  obtain ⟨_, _, _, numbers, versions, identities⟩ := versions_and_identities_ordered
  refine ⟨?_, ?_, ?_, ?_, ?_⟩
  · exact numbers _ _ (.inr ⟨rfl, .inl (by decide)⟩)
  · exact versions _ _ (List.reverse_perm _).symm
  · exact (eq_ascending (by decide) (by decide)).symm
  · exact identities _ _ (List.reverse_perm _).symm
  · exact (eq_ascending (by decide) (by decide)).symm

end RegionWiring
