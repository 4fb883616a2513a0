import Mathlib.Data.List.TFAE
import PiecewiseLang.Proofs.Value.Algebra

/-! Comparisons of sets. Sets that go together are compared by containment, and containment is
one notion: the comparisons, the algebra of sets, the question whether a value is in a set and
the equality of values all agree on it. -/
namespace PiecewiseLang

def Comparison.symbol : Comparison → Symbol
  | .eq => .eq
  | .ne => .ne
  | .lt => .lt
  | .le => .le
  | .gt => .gt
  | .ge => .ge

theorem Comparison.ofSymbol_symbol (comparison : Comparison) :
    ofSymbol comparison.symbol = .ok comparison := by
  cases comparison <;> rfl

/-- The comparison of two values is true. -/
def Value.Compares (comparison : Comparison) (a b : Value) : Prop :=
  Value.compare comparison.symbol a b = .ok (.boolean true)

instance (comparison : Comparison) (a b : Value) : Decidable (Value.Compares comparison a b) :=
  inferInstanceAs (Decidable (_ = _))

theorem Value.emptySet_canonical : Value.emptySet.Canonical :=
  .set (List.forall_mem_nil _) (Collection.empty_keeps (V := Value.Canonical)).2

namespace CanonicalSet

variable {A B C : CanonicalSet} {x : Value}

def empty : CanonicalSet where
  elementKind := none
  members := []
  canonical := Value.emptySet_canonical

theorem not_mem_empty (x : Value) : x ∉ empty := List.not_mem_nil

instance : HasSubset CanonicalSet := ⟨fun A B => ∀ x ∈ A, x ∈ B⟩

theorem subset_refl (A : CanonicalSet) : A ⊆ A := fun _ member => member

theorem subset_trans (first : A ⊆ B) (second : B ⊆ C) : A ⊆ C :=
  fun x member => second x (first x member)

theorem value_eq_iff : A.value = B.value ↔ A ⊆ B ∧ B ⊆ A := by
  rw [value_inj]
  exact ⟨fun same => ⟨fun x => (same x).mp, fun x => (same x).mpr⟩,
    fun ⟨first, second⟩ x => ⟨first x, second x⟩⟩

theorem Compatible.symm (compatible : A.Compatible B) : B.Compatible A := by
  rcases compatible with empty | empty | same
  · exact .inr (.inl empty)
  · exact .inl empty
  · exact .inr (.inr same.symm)

theorem Compatible.refl (A : CanonicalSet) : A.Compatible A := .inr (.inr rfl)

theorem isContained_iff : Comparison.isContained A.members B.members = true ↔ A ⊆ B := by
  simp only [Comparison.isContained, List.all_eq_true, decide_eq_true_eq]
  exact Iff.rfl

/-- Sets that go together have a truth value under every comparison. -/
theorem compare_value (compatible : A.Compatible B) (comparison : Comparison) :
    Value.compare comparison.symbol A.value B.value =
      .ok (.boolean (comparison.onSets A.members B.members)) := by
  obtain ⟨kind, suits, suits'⟩ := compatible.exists_suits
  rw [value, value, Value.compare, requireCompatible_ok suits suits', comparison.ofSymbol_symbol]
  rfl

theorem compares_iff (compatible : A.Compatible B) (comparison : Comparison) :
    Value.Compares comparison A.value B.value ↔
      comparison.onSets A.members B.members = true := by
  simp [Value.Compares, compare_value compatible]

theorem compares_le (compatible : A.Compatible B) :
    Value.Compares .le A.value B.value ↔ A ⊆ B :=
  (compares_iff compatible .le).trans isContained_iff

theorem compares_eq (compatible : A.Compatible B) :
    Value.Compares .eq A.value B.value ↔ A ⊆ B ∧ B ⊆ A := by
  rw [compares_iff compatible, Comparison.onSets, Bool.and_eq_true, isContained_iff,
    isContained_iff]

theorem contains_iff (compatible : A.Compatible B) (member : x ∈ A) :
    Value.contains x B.value = .ok (.boolean true) ↔ x ∈ B := by
  obtain ⟨kind, suits, suits'⟩ := compatible.exists_suits
  obtain ⟨rfl, -⟩ := kind_of_suits suits member
  simp [contains_value suits']

/-- The result of an operator is told by its truth table. -/
theorem setAlgebra_iff (compatible : A.Compatible B) (operation : SetOperation) :
    Value.setAlgebra operation A.value B.value = .ok C.value ↔
      ∀ x, x ∈ C ↔ operation.keeps (x ∈ A) (x ∈ B) = true := by
  obtain ⟨kind, suits, suits'⟩ := compatible.exists_suits
  obtain ⟨R, combined, -, members⟩ := setAlgebra_ok operation suits suits'
  rw [combined, Except.ok.injEq, value_inj]
  simp only [← members, decide_eq_true_eq]
  exact forall_congr' fun x => Iff.comm

/-- To ask whether a set is the member of a set of one is to compare the two. -/
theorem exists_singleton (compatible : A.Compatible B) :
    ∃ S : CanonicalSet, Value.setOf [B.value] = .ok S.value ∧
      Value.contains A.value S.value = .ok (.boolean (Comparison.onSets .eq A.members B.members)) := by
  have all : Value.AllOf .set [B.value] := List.forall_mem_singleton.mpr ⟨rfl, rfl⟩
  obtain ⟨S, built, members⟩ :=
    Value.exists_setOf (List.forall_mem_singleton.mpr B.canonical) all
  have suits : A.value.kind.Suits S.elementKind := suits_of_kinds fun x member =>
    (all x ((members x).mp member)).1
  refine ⟨S, built, ?_⟩
  rw [contains_value suits, Except.ok.injEq, Value.boolean.injEq, Bool.eq_iff_iff,
    decide_eq_true_iff, ← compares_iff compatible, compares_eq compatible, ← value_eq_iff, members]
  exact List.mem_singleton

/-- The ways to say that a set is contained in another. -/
theorem containment_tfae (compatible : A.Compatible B) :
    [Value.Compares .le A.value B.value,
      ∀ x ∈ A, Value.contains x B.value = .ok (.boolean true),
      Value.setAlgebra .difference A.value B.value = .ok Value.emptySet,
      Value.setAlgebra .union A.value B.value = .ok B.value,
      Value.setAlgebra .intersection A.value B.value = .ok A.value].TFAE := by
  apply List.tfae_of_forall (A ⊆ B)
  simp only [List.forall_mem_cons]
  refine ⟨compares_le compatible, ?_, ?_, ?_, ?_, List.forall_mem_nil _⟩
  · exact forall₂_congr fun x member => contains_iff compatible member
  · refine (setAlgebra_iff (C := empty) compatible .difference).trans (forall_congr' fun x => ?_)
    simp [SetOperation.keeps, not_mem_empty]
  · refine (setAlgebra_iff compatible .union).trans (forall_congr' fun x => ?_)
    simp [SetOperation.keeps]
  · refine (setAlgebra_iff compatible .intersection).trans (forall_congr' fun x => ?_)
    simp [SetOperation.keeps]

/-- The ways to say that two sets are the same. -/
theorem equality_tfae (compatible : A.Compatible B) :
    [Value.Compares .eq A.value B.value,
      Value.Compares .le A.value B.value ∧ Value.Compares .le B.value A.value,
      A.value = B.value].TFAE := by
  apply List.tfae_of_forall (A ⊆ B ∧ B ⊆ A)
  simp only [List.forall_mem_cons]
  refine ⟨compares_eq compatible, ?_, value_eq_iff, List.forall_mem_nil _⟩
  rw [compares_le compatible, compares_le compatible.symm]

end CanonicalSet

/-- Sets that go together are compared by containment. To be contained is to have members that
are all in the other set, to leave nothing after taking it away, to add nothing to it and to be
what both have in common. To be equal is to be contained in each other, to be the same value and
to be in the set of the other alone; and the remaining comparisons follow from these two. -/
theorem sets_compare_by_containment :
    (∀ A B : CanonicalSet, A.Compatible B →
      (∀ comparison : Comparison, ∃ answer,
        Value.compare comparison.symbol A.value B.value = .ok (.boolean answer)) ∧
      [Value.Compares .le A.value B.value,
        ∀ x ∈ A, Value.contains x B.value = .ok (.boolean true),
        Value.setAlgebra .difference A.value B.value = .ok Value.emptySet,
        Value.setAlgebra .union A.value B.value = .ok B.value,
        Value.setAlgebra .intersection A.value B.value = .ok A.value].TFAE ∧
      [Value.Compares .eq A.value B.value,
        Value.Compares .le A.value B.value ∧ Value.Compares .le B.value A.value,
        A.value = B.value].TFAE ∧
      (∃ S, Value.setOf [B.value] = .ok S ∧
        Symbol.plain Value.contains A.value S = Value.compare .eq A.value B.value) ∧
      (Value.Compares .lt A.value B.value ↔
        Value.Compares .le A.value B.value ∧ ¬Value.Compares .eq A.value B.value) ∧
      (Value.Compares .gt A.value B.value ↔ Value.Compares .lt B.value A.value) ∧
      (Value.Compares .ge A.value B.value ↔ Value.Compares .le B.value A.value) ∧
      (Value.Compares .ne A.value B.value ↔ ¬Value.Compares .eq A.value B.value)) ∧
    (∀ A : CanonicalSet, Value.Compares .le A.value A.value) ∧
    (∀ A B : CanonicalSet, A.Compatible B → Value.Compares .le A.value B.value →
      Value.Compares .le B.value A.value → A = B) ∧
    ∀ A B C : CanonicalSet, A.Compatible B → B.Compatible C → A.Compatible C →
      Value.Compares .le A.value B.value → Value.Compares .le B.value C.value →
        Value.Compares .le A.value C.value := by
  refine ⟨fun A B compatible => ⟨fun comparison => ⟨_, A.compare_value compatible comparison⟩,
    CanonicalSet.containment_tfae compatible, CanonicalSet.equality_tfae compatible, ?_, ?_, ?_, ?_,
    ?_⟩, ?_, ?_, ?_⟩
  · obtain ⟨S, built, asked⟩ := CanonicalSet.exists_singleton compatible
    refine ⟨S.value, built, ?_⟩
    rw [Symbol.plain, asked]
    exact (CanonicalSet.compare_value compatible .eq).symm
  · simp only [CanonicalSet.compares_iff compatible, Comparison.onSets]
    cases Comparison.isContained A.members B.members <;> simp
  · rw [CanonicalSet.compares_iff compatible, CanonicalSet.compares_iff compatible.symm]
    exact Iff.rfl
  · rw [CanonicalSet.compares_iff compatible, CanonicalSet.compares_iff compatible.symm]
    exact Iff.rfl
  · simp only [CanonicalSet.compares_iff compatible, Comparison.onSets]
    cases Comparison.isContained A.members B.members <;> simp
  · intro A
    exact (CanonicalSet.compares_le (.refl A)).mpr A.subset_refl
  · intro A B compatible below above
    rw [CanonicalSet.compares_le compatible] at below
    rw [CanonicalSet.compares_le compatible.symm] at above
    exact CanonicalSet.ext fun x => ⟨below x, above x⟩
  · intro A B C first second third below above
    rw [CanonicalSet.compares_le first] at below
    rw [CanonicalSet.compares_le second] at above
    exact (CanonicalSet.compares_le third).mpr (CanonicalSet.subset_trans below above)

/-- The empty set is below a set of numbers, and a set of one truth value is below itself. -/
theorem sets_compare_by_containment_sample :
    Value.Compares .le emptySample.value numbersSample.value ∧
    Value.setAlgebra .union emptySample.value numbersSample.value = .ok numbersSample.value ∧
    Value.Compares .gt numbersSample.value emptySample.value ∧
    (∃ S, Value.setOf [truthsSample.value] = .ok S ∧
      Symbol.plain Value.contains emptySample.value S = .ok (.boolean false)) ∧
    Value.Compares .le truthsSample.value truthsSample.value := by
  obtain ⟨pairs, reflexive, -, -⟩ := sets_compare_by_containment
  obtain ⟨-, contained, -, -, -, -, -, -⟩ := pairs emptySample numbersSample (.inl rfl)
  obtain ⟨-, -, -, -, -, greater, -, -⟩ := pairs numbersSample emptySample (.inr (.inl rfl))
  obtain ⟨-, -, -, ⟨S, built, asked⟩, -⟩ := pairs emptySample truthsSample (.inl rfl)
  have below : Value.Compares .le emptySample.value numbersSample.value := by decide +kernel
  refine ⟨below, (contained.out 0 3).mp below, greater.mpr (by decide +kernel),
    ⟨S, built, asked.trans (by decide +kernel)⟩, reflexive _⟩

end PiecewiseLang
