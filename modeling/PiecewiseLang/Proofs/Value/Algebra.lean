import PiecewiseLang.Proofs.Value.Extensionality

/-! The algebra of sets. Each operator has a truth table, which says whether a value is in the
result from whether it is in the operands. Sets that go together can be combined by any number
of operators, and as sets are told by their members, combinations with the same truth table
are the same set. -/
namespace PiecewiseLang

/-- Whether a value is in the result, from whether it is in the operands. -/
def SetOperation.keeps : SetOperation → Bool → Bool → Bool
  | .union, inLeft, inRight => inLeft || inRight
  | .intersection, inLeft, inRight => inLeft && inRight
  | .difference, inLeft, inRight => inLeft && !inRight
  | .symmetricDifference, inLeft, inRight => inLeft ^^ inRight

theorem SetOperation.mem_combine (operation : SetOperation) :
    decide (m ∈ operation.combine as bs) = operation.keeps (m ∈ as) (m ∈ bs) := by
  cases operation with
  | symmetricDifference =>
    by_cases inLeft : m ∈ as <;> by_cases inRight : m ∈ bs <;> simp [combine, keeps, inLeft, inRight]
  | _ => simp [combine, keeps]

namespace CanonicalSet

variable {A B : CanonicalSet} {kind : Kind} {x : Value}

/-- Whether sets go together: one of them is empty or their members have the same kind. -/
def Compatible (A B : CanonicalSet) : Prop :=
  A.members = [] ∨ B.members = [] ∨ A.elementKind = B.elementKind

instance (A B : CanonicalSet) : Decidable (A.Compatible B) :=
  inferInstanceAs (Decidable (_ ∨ _ ∨ _))

theorem suits_of_empty (empty : A.members = []) : kind.Suits A.elementKind :=
  .inl (A.isSet.empty.mpr empty)

theorem kind_of_suits (suits : kind.Suits A.elementKind) (member : x ∈ A) :
    x.kind = kind ∧ kind.canBeMember = true := by
  obtain ⟨same, allowed⟩ := A.isSet.kinds x member
  rcases suits with none | some
  · cases none.symm.trans same
  · cases some.symm.trans same
    exact ⟨rfl, allowed⟩

theorem suits_of_kinds (kinds : ∀ x ∈ A, x.kind = kind) : kind.Suits A.elementKind := by
  cases members : A.members with
  | nil => exact suits_of_empty members
  | cons x _ =>
    have member : x ∈ A.members := members ▸ List.mem_cons_self ..
    exact .inr (kinds x member ▸ (A.isSet.kinds x member).1)

theorem Compatible.exists_suits (compatible : A.Compatible B) :
    ∃ kind : Kind, kind.Suits A.elementKind ∧ kind.Suits B.elementKind := by
  rcases compatible with empty | empty | same
  · obtain ⟨kind, suits⟩ := Kind.exists_suits B.elementKind
    exact ⟨kind, suits_of_empty empty, suits⟩
  · obtain ⟨kind, suits⟩ := Kind.exists_suits A.elementKind
    exact ⟨kind, suits, suits_of_empty empty⟩
  · obtain ⟨kind, suits⟩ := Kind.exists_suits A.elementKind
    exact ⟨kind, suits, same ▸ suits⟩

/-- Sets any two of which go together have members of one kind. -/
theorem exists_suits {operands : ι → CanonicalSet}
    (compatible : ∀ i j, (operands i).Compatible (operands j)) :
    ∃ kind : Kind, ∀ i, kind.Suits (operands i).elementKind := by
  by_cases none : ∀ i, (operands i).members = []
  · exact ⟨.integer, fun i => suits_of_empty (none i)⟩
  · obtain ⟨i, some⟩ := Classical.not_forall.mp none
    obtain ⟨kind, suits⟩ := Kind.exists_suits (operands i).elementKind
    refine ⟨kind, fun j => ?_⟩
    rcases compatible i j with empty | empty | same
    · exact absurd empty some
    · exact suits_of_empty empty
    · exact same ▸ suits

theorem requireCompatible_ok (suits : kind.Suits A.elementKind) (suits' : kind.Suits B.elementKind) :
    Value.requireCompatible symbol A.elementKind B.elementKind = .ok () := by
  rcases suits with none | some
  · rw [none]
    rfl
  · rcases suits' with none | some'
    · rw [none, some]
      rfl
    · rw [some, some']
      exact if_pos rfl

/-- Sets of one kind are combined to a set of this kind, by the table of the operator. -/
theorem setAlgebra_ok (operation : SetOperation) (suits : kind.Suits A.elementKind)
    (suits' : kind.Suits B.elementKind) :
    ∃ R : CanonicalSet, Value.setAlgebra operation A.value B.value = .ok R.value ∧
      kind.Suits R.elementKind ∧ ∀ x, decide (x ∈ R) = operation.keeps (x ∈ A) (x ∈ B) := by
  have from_operands : ∀ m ∈ operation.combine A.members B.members, m ∈ A ∨ m ∈ B :=
    fun m => Value.mem_combine
  have canonical : ∀ m ∈ operation.combine A.members B.members, m.Canonical := by
    intro m member
    exact (from_operands m member).elim members_canonical members_canonical
  have all : Value.AllOf kind (operation.combine A.members B.members) := by
    intro m member
    exact (from_operands m member).elim (kind_of_suits suits) (kind_of_suits suits')
  obtain ⟨R, built, members⟩ := Value.exists_setOf canonical all
  refine ⟨R, ?_, ?_, fun x => (decide_eq_decide.mpr (members x)).trans operation.mem_combine⟩
  · rw [value, value, Value.setAlgebra, requireCompatible_ok suits suits']
    exact built
  · exact suits_of_kinds fun x member => (all x ((members x).mp member)).1

theorem exists_elementKind (nonempty : A.members ≠ []) : ∃ kind, A.elementKind = some kind :=
  Option.ne_none_iff_exists'.mp (mt A.isSet.empty.mp nonempty)

theorem setAlgebra_error (operation : SetOperation) (incompatible : ¬A.Compatible B) :
    ∃ e, Value.setAlgebra operation A.value B.value = .error (.error e) ∧
      e.family = .operator := by
  obtain ⟨some, some', different⟩ : A.members ≠ [] ∧ B.members ≠ [] ∧
      A.elementKind ≠ B.elementKind := by simpa [Compatible] using incompatible
  obtain ⟨k, first⟩ := exists_elementKind some
  obtain ⟨l, second⟩ := exists_elementKind some'
  rw [first, second] at different
  have other : k ≠ l := fun same => different (congrArg _ same)
  refine ⟨.setKinds operation.symbol k l, ?_, rfl⟩
  rw [value, value, Value.setAlgebra, first, second, Value.requireCompatible, if_neg other]
  rfl

theorem contains_value (suits : x.kind.Suits A.elementKind) :
    Value.contains x A.value = .ok (.boolean (x ∈ A)) := by
  simp only [value, Value.contains]
  split
  case isTrue undefined =>
    have outside : x ∉ A := by
      intro member
      have allowed := (A.isSet.kinds x member).2
      rw [undefined] at allowed
      cases allowed
    rw [decide_eq_false outside]
  case isFalse =>
    rcases suits with none | some
    · rw [none]
      rfl
    · rw [some]
      exact if_pos rfl

end CanonicalSet

/-- Sets that are combined by operators. -/
inductive Combination (ι : Type) where
  | operand (i : ι)
  | apply (operation : SetOperation) (left right : Combination ι)

namespace Combination

variable {ι : Type} {operands : ι → CanonicalSet} {kind : Kind}

def evaluate (operands : ι → CanonicalSet) : Combination ι → Except EvalFailure Value
  | operand i => .ok (operands i).value
  | apply operation left right => do
    Value.setAlgebra operation (← left.evaluate operands) (← right.evaluate operands)

/-- The truth table of a combination. -/
def keeps (inside : ι → Bool) : Combination ι → Bool
  | operand i => inside i
  | apply operation left right => operation.keeps (left.keeps inside) (right.keeps inside)

theorem evaluate_ok (suits : ∀ i, kind.Suits (operands i).elementKind) (c : Combination ι) :
    ∃ R : CanonicalSet, c.evaluate operands = .ok R.value ∧ kind.Suits R.elementKind ∧
      ∀ x, decide (x ∈ R) = c.keeps (fun i => x ∈ operands i) := by
  induction c with
  | operand i => exact ⟨operands i, rfl, suits i, fun x => rfl⟩
  | apply operation left right first second =>
    obtain ⟨A, evaluated, suits, members⟩ := first
    obtain ⟨B, evaluated', suits', members'⟩ := second
    obtain ⟨R, combined, fits, result⟩ := CanonicalSet.setAlgebra_ok operation suits suits'
    refine ⟨R, ?_, fits, fun x => ?_⟩
    · rw [evaluate, evaluated, evaluated']
      exact combined
    · rw [result, members, members', keeps]

/-- Combinations with the same truth table are the same set. -/
theorem evaluate_same (suits : ∀ i, kind.Suits (operands i).elementKind)
    {left right : Combination ι} (same : ∀ inside, left.keeps inside = right.keeps inside) :
    ∃ R : CanonicalSet, left.evaluate operands = .ok R.value ∧
      right.evaluate operands = .ok R.value := by
  obtain ⟨A, evaluated, -, members⟩ := evaluate_ok suits left
  obtain ⟨B, evaluated', -, members'⟩ := evaluate_ok suits right
  have equal : A = B := CanonicalSet.ext fun x => by
    rw [← decide_eq_decide, members, members', same]
  exact ⟨A, evaluated, equal ▸ evaluated'⟩

/-- The usual identities of sets, in three operands. -/
def identities : List (Combination (Fin 3) × Combination (Fin 3)) :=
  let a := operand 0
  let b := operand 1
  let c := operand 2
  [(apply .union a b, apply .union b a),
    (apply .intersection a b, apply .intersection b a),
    (apply .symmetricDifference a b, apply .symmetricDifference b a),
    (apply .union (apply .union a b) c, apply .union a (apply .union b c)),
    (apply .intersection (apply .intersection a b) c,
      apply .intersection a (apply .intersection b c)),
    (apply .symmetricDifference (apply .symmetricDifference a b) c,
      apply .symmetricDifference a (apply .symmetricDifference b c)),
    (apply .union a (apply .intersection b c),
      apply .intersection (apply .union a b) (apply .union a c)),
    (apply .intersection a (apply .union b c),
      apply .union (apply .intersection a b) (apply .intersection a c)),
    (apply .difference a (apply .union b c),
      apply .intersection (apply .difference a b) (apply .difference a c)),
    (apply .symmetricDifference a b, apply .difference (apply .union a b) (apply .intersection a b))]

theorem identities_tables (inside : Fin 3 → Bool) :
    ∀ sides ∈ identities, sides.1.keeps inside = sides.2.keeps inside := by
  simp only [identities, List.forall_mem_cons, keeps, SetOperation.keeps]
  cases inside 0 <;> cases inside 1 <;> cases inside 2 <;> simp

end Combination

/-- The algebra of sets is that of the truth tables. An operator fails exactly on sets that do
not go together, and otherwise gives the set of the values that its table keeps. So sets that
go together satisfy every identity of the tables, with the usual ones among them, and to ask
whether a value of their kind is in a combination is to ask whether it is in the operands. -/
theorem set_algebra_by_truth_tables :
    (∀ (operation : SetOperation) (A B : CanonicalSet),
      ((∃ e, Value.setAlgebra operation A.value B.value = .error (.error e) ∧
        e.family = .operator) ↔ ¬A.Compatible B) ∧
      (A.Compatible B → ∃ R : CanonicalSet,
        Value.setAlgebra operation A.value B.value = .ok R.value ∧
          ∀ x, x ∈ R ↔ operation.keeps (x ∈ A) (x ∈ B) = true)) ∧
    (∀ (ι : Type) (operands : ι → CanonicalSet),
      (∀ i j, (operands i).Compatible (operands j)) → ∀ left right : Combination ι,
        (∀ inside, left.keeps inside = right.keeps inside) → ∃ R : CanonicalSet,
          left.evaluate operands = .ok R.value ∧ right.evaluate operands = .ok R.value) ∧
    (∀ operands : Fin 3 → CanonicalSet, (∀ i j, (operands i).Compatible (operands j)) →
      ∀ sides ∈ Combination.identities, ∃ R : CanonicalSet,
        sides.1.evaluate operands = .ok R.value ∧ sides.2.evaluate operands = .ok R.value) ∧
    ∀ (ι : Type) (operands : ι → CanonicalSet) (x : Value),
      (∀ i, x.kind.Suits (operands i).elementKind) → ∃ inside : ι → Bool,
        (∀ i, Value.contains x (operands i).value = .ok (.boolean (inside i))) ∧
        ∀ combination : Combination ι, ∃ v, combination.evaluate operands = .ok v ∧
          Value.contains x v = .ok (.boolean (combination.keeps inside)) := by
  refine ⟨fun operation A B => ⟨⟨?_, CanonicalSet.setAlgebra_error operation⟩, ?_⟩, ?_, ?_, ?_⟩
  · rintro ⟨e, failed, -⟩ compatible
    obtain ⟨kind, suits, suits'⟩ := compatible.exists_suits
    obtain ⟨R, combined, -⟩ := CanonicalSet.setAlgebra_ok operation suits suits'
    cases failed.symm.trans combined
  · intro compatible
    obtain ⟨kind, suits, suits'⟩ := compatible.exists_suits
    obtain ⟨R, combined, -, members⟩ := CanonicalSet.setAlgebra_ok operation suits suits'
    exact ⟨R, combined, fun x => by rw [← members, decide_eq_true_iff]⟩
  · intro ι operands compatible left right same
    obtain ⟨kind, suits⟩ := CanonicalSet.exists_suits compatible
    exact Combination.evaluate_same suits same
  · intro operands compatible sides law
    obtain ⟨kind, suits⟩ := CanonicalSet.exists_suits compatible
    exact Combination.evaluate_same suits fun inside =>
      Combination.identities_tables inside sides law
  · intro ι operands x suits
    refine ⟨fun i => x ∈ operands i, fun i => CanonicalSet.contains_value (suits i), fun c => ?_⟩
    obtain ⟨R, evaluated, fits, members⟩ := c.evaluate_ok suits
    refine ⟨R.value, evaluated, ?_⟩
    rw [CanonicalSet.contains_value fits, members]

def operandsSample (i : Fin 3) : CanonicalSet := if i = 1 then emptySample else numbersSample

/-- Numbers and truth values do not go together, and the empty set goes with both. -/
theorem set_algebra_by_truth_tables_sample :
    (∃ e, Value.setAlgebra .union numbersSample.value truthsSample.value = .error (.error e) ∧
      e.family = .operator) ∧
    (∃ R : CanonicalSet,
      Value.setAlgebra .symmetricDifference emptySample.value truthsSample.value = .ok R.value ∧
        .boolean true ∈ R ∧ .boolean false ∉ R) ∧
    (∀ sides ∈ Combination.identities, ∃ R : CanonicalSet,
      sides.1.evaluate operandsSample = .ok R.value ∧
        sides.2.evaluate operandsSample = .ok R.value) ∧
    ∃ inside : Fin 3 → Bool,
      (∀ i, Value.contains (.integer 2) (operandsSample i).value = .ok (.boolean (inside i))) ∧
      ∃ v, (Combination.apply .difference (.operand 0) (.operand 1)).evaluate operandsSample =
        .ok v ∧ Value.contains (.integer 2) v = .ok (.boolean (inside 0 && !inside 1)) := by
  obtain ⟨operators, -, laws, questions⟩ := set_algebra_by_truth_tables
  refine ⟨(operators .union _ _).1.mpr (by decide), ?_, laws _ (by decide), ?_⟩
  · obtain ⟨R, combined, members⟩ := (operators .symmetricDifference emptySample truthsSample).2
      (.inl rfl)
    refine ⟨R, combined, (members _).mpr (by decide), ?_⟩
    rw [members]
    decide
  · obtain ⟨inside, asked, combined⟩ := questions _ operandsSample (.integer 2) (by decide)
    exact ⟨inside, asked, combined _⟩

end PiecewiseLang
