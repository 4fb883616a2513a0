import Mathlib.Data.Int.CharZero
import Mathlib.Data.List.Forall2
import Mathlib.Data.List.Pairwise
import PiecewiseLang.Proofs.Binary64.Dyadic
import PiecewiseLang.Proofs.Evaluation.Keeping
import PiecewiseLang.Proofs.Value.Containment

/-! Comparisons of numbers. Integers and reals, in any mix, are compared as the rational numbers
they stand for, and no integer is rounded on the way. So the comparisons of numbers are those of a
total order, and the sets of numbers that literals denote tell two numbers of one kind apart
exactly when the comparison does. -/
namespace PiecewiseLang

/-- An integer of any size or a finite real. -/
inductive Number where
  | integer (n : Int)
  | real (x : Binary64)

namespace Comparison

/-- The comparison of two rational numbers. -/
def onRationals (comparison : Comparison) (p q : ℚ) : Bool :=
  match comparison with
  | .eq => p = q
  | .ne => p ≠ q
  | .lt => p < q
  | .le => p ≤ q
  | .gt => q < p
  | .ge => q ≤ p

/-- Rationals compare as the integers they become on a common scale. -/
theorem onInts_eq {a b : Int} {p q scale : ℚ} (positive : 0 < scale) (first : (a : ℚ) = p * scale)
    (second : (b : ℚ) = q * scale) (comparison : Comparison) :
    comparison.onInts a b = comparison.onRationals p q := by
  have less {a b : Int} {p q : ℚ} (first : (a : ℚ) = p * scale) (second : (b : ℚ) = q * scale) :
      a ≤ b ↔ p ≤ q := by
    rw [← Int.cast_le (R := ℚ), first, second, mul_le_mul_iff_left₀ positive]
  have below : a ≤ b ↔ p ≤ q := less first second
  have above : b ≤ a ↔ q ≤ p := less second first
  cases comparison <;>
    simp only [onInts, onRationals, ne_eq, ← not_le, le_antisymm_iff, below, above]

/-- Of less, equal and greater exactly one holds. -/
theorem existsUnique_onRationals (p q : ℚ) : ∃! comparison,
    comparison ∈ [Comparison.lt, .eq, .gt] ∧ comparison.onRationals p q = true := by
  have holds : ∀ comparison, comparison ∈ [Comparison.lt, .eq, .gt] ∧
      comparison.onRationals p q = true ↔ comparison = .lt ∧ p < q ∨ comparison = .eq ∧ p = q ∨
        comparison = .gt ∧ q < p := by
    intro comparison
    cases comparison <;> simp [onRationals]
  simp only [holds]
  rcases lt_trichotomy p q with below | rfl | above
  · exact ⟨.lt, by simp [below], by simp [below.ne, below.not_gt]⟩
  · exact ⟨.eq, by simp, by simp⟩
  · exact ⟨.gt, by simp [above], by simp [above.ne', above.not_gt]⟩

end Comparison

namespace Number

def value : Number → Value
  | integer n => .integer n
  | real x => .real (.finite x)

/-- The rational number a number stands for. -/
def rational : Number → ℚ
  | integer n => n
  | real x => x.rational

theorem units_value (a : Number) : ∃ units : Int, a.value.units? = some units ∧
    (units : ℚ) = a.rational * 2 ^ (1074 : ℤ) := by
  cases a with
  | integer n =>
    refine ⟨_, rfl, ?_⟩
    rw [Int.cast_mul, Int.cast_natCast, Binary64.oneUnits_cast]
    rfl
  | real x => exact ⟨_, rfl, x.units_eq⟩

/-- Numbers compare as the rational numbers they stand for. -/
theorem compare_value (comparison : Comparison) (a b : Number) :
    Value.compare comparison.symbol a.value b.value =
      .ok (.boolean (comparison.onRationals a.rational b.rational)) := by
  obtain ⟨units, first, scaled⟩ := a.units_value
  obtain ⟨units', second, scaled'⟩ := b.units_value
  have numbers : Value.compareNumbers comparison a.value b.value =
      comparison.onRationals a.rational b.rational := by
    rw [Value.compareNumbers, first, second]
    exact comparison.onInts_eq (zpow_pos two_pos _) scaled scaled'
  rw [← numbers]
  cases a <;> cases b <;> simp only [value, Value.compare, comparison.ofSymbol_symbol] <;> rfl

theorem compares_iff (comparison : Comparison) (a b : Number) :
    Value.Compares comparison a.value b.value ↔
      comparison.onRationals a.rational b.rational = true := by
  simp [Value.Compares, compare_value]

theorem compares_eq (a b : Number) :
    Value.Compares .eq a.value b.value ↔ a.rational = b.rational := by
  simp [compares_iff, Comparison.onRationals]

/-- Within one kind, the order of numbers is the order of the rational numbers they stand for. -/
theorem order_value {a b : Number} (alike : a.value.kind = b.value.kind) :
    a.value.order b.value = cmp a.rational b.rational := by
  have orderInts_eq (n m : Int) : orderInts n m = cmp (n : ℚ) m := by
    rw [Int.cast_strictMono.cmp_map_eq]
    rcases orderInts_cases n m with ⟨less, order⟩ | ⟨same, order⟩ | ⟨greater, order⟩
    · exact order.trans (Ordering.Compares.cmp_eq (o := .lt) less).symm
    · exact order.trans (Ordering.Compares.cmp_eq (o := .eq) same).symm
    · exact order.trans (Ordering.Compares.cmp_eq (o := .gt) greater).symm
  cases a with
  | integer n =>
    cases b with
    | integer m => exact orderInts_eq n m
    | real y => cases alike
  | real x =>
    cases b with
    | integer m => cases alike
    | real y =>
      refine (orderInts_eq x.units y.units).trans ?_
      rw [x.units_eq, y.units_eq, cmp_mul_pos_right (zpow_pos two_pos _)]
      rfl

/-- Numbers of one kind have one place in the order of values exactly when they are equal. -/
theorem order_eq_iff {a b : Number} (alike : a.value.kind = b.value.kind) :
    a.value.order b.value = .eq ↔ Value.Compares .eq a.value b.value := by
  rw [compares_eq, order_value alike, cmp_eq_eq_iff]

end Number

namespace Value

theorem mem_insert_of_mem (x : Value) (member : y ∈ ys) : y ∈ insert x ys := by
  induction ys with
  | nil => cases member
  | cons z ys ih =>
    rw [insert]
    split
    case h_1 => exact List.mem_cons_of_mem _ member
    case h_2 => exact member
    case h_3 =>
      rcases List.mem_cons.mp member with rfl | member
      · exact List.mem_cons_self ..
      · exact List.mem_cons_of_mem _ (ih member)

/-- An inserted value is there, or another one with the same place in the order. -/
theorem exists_mem_insert (x : Value) (ys : List Value) : ∃ m ∈ insert x ys, x.order m = .eq := by
  have self : x.order x = .eq := Std.ReflCmp.compare_self
  induction ys with
  | nil => exact ⟨x, List.mem_singleton_self x, self⟩
  | cons y ys ih =>
    rw [insert]
    split
    case h_1 => exact ⟨x, List.mem_cons_self .., self⟩
    case h_2 same => exact ⟨y, List.mem_cons_self .., same⟩
    case h_3 =>
      obtain ⟨m, member, same⟩ := ih
      exact ⟨m, List.mem_cons_of_mem _ member, same⟩

/-- Of the members of an ascending list only one has a given place in the order. -/
theorem Ascending.eq_of_order (ascending : Ascending members) (first : m ∈ members)
    (second : m' ∈ members) (same : m.order m' = .eq) : m = m' := by
  have apart : members.Pairwise fun a b => a.order b ≠ .eq := ascending.imp fun before equal =>
    nomatch before.symm.trans equal
  have symm : Std.Symm fun a b : Value => a.order b ≠ .eq :=
    ⟨fun a b different equal => different (Std.OrientedCmp.eq_comm.mp equal)⟩
  by_contra different
  exact apart.forall first second different same

end Value

/-- Every value that is collected has a member in its place of the order. -/
theorem Collection.exists_collected_equal {c d : Collection} {values : List Value}
    (collected : values.foldlM add c = .ok d) : (∀ m ∈ c.members, m ∈ d.members) ∧
      ∀ v ∈ values, ∃ m ∈ d.members, v.order m = .eq := by
  induction values generalizing c with
  | nil =>
    cases collected
    exact ⟨fun m member => member, List.forall_mem_nil _⟩
  | cons v values ih =>
    obtain ⟨-, -, collected⟩ := collect_cons.mp collected
    obtain ⟨kept, others⟩ := ih collected
    obtain ⟨m, member, same⟩ := v.exists_mem_insert c.members
    exact ⟨fun m member => kept m (Value.mem_insert_of_mem v member),
      List.forall_mem_cons.mpr ⟨⟨m, kept m member, same⟩, others⟩⟩

/-- A set literal denotes the set of the values of its expressions. -/
theorem Evaluation.set_result {es : List Expr} {values : List Value} {env : Environment}
    (evaluated : List.Forall₂ (fun e v => (e.evaluate limits env).result = .ok v) es values) :
    ((Expr.set es).evaluate { limits with nesting := limits.nesting + 1 } env).result =
      Value.setOf values := by
  have collected (c : Collection) :
      (collect (evaluateWithin limits.callDepth limits.nesting env) c es).result =
        EvalFailure.ofExcept (values.foldlM Collection.add c) := by
    induction evaluated generalizing c with
    | nil => rfl
    | @cons e v es values first _ ih =>
      rw [Expr.evaluate] at first
      rw [collect, Traced.result_bind, first, List.foldlM_cons]
      change (Traced.ofExcept (c.add v) >>= fun d => collect _ d es).result = _
      rw [Traced.result_bind, Traced.result_ofExcept]
      cases c.add v with
      | error e => rfl
      | ok d => exact ih d
  change (collect _ .empty es >>= fun c => Traced.ofFailure c.toValue).result = _
  rw [Traced.result_bind, collected]
  rfl

namespace Number

variable {numbers : List Number}

/-- The set of some numbers of one kind. Each of its members is one of the numbers, and each of
the numbers is equal to exactly one of the members. -/
theorem exists_setOf (alike : ∀ a ∈ numbers, ∀ b ∈ numbers, a.value.kind = b.value.kind) :
    ∃ elementKind members, Value.setOf (numbers.map value) = .ok (.set elementKind members) ∧
      (∀ m ∈ members, ∃ a ∈ numbers, a.value = m) ∧
      ∀ a ∈ numbers, ∃! m, m ∈ members ∧ Value.Compares .eq a.value m := by
  have all : ∃ kind, Value.AllOf kind (numbers.map value) := by
    rw [Value.exists_allOf]
    simp only [List.forall_mem_map]
    refine ⟨fun a _ => ?_, alike⟩
    cases a <;> simp [value, Value.kind]
  obtain ⟨kind, all⟩ := all
  obtain ⟨c, collected⟩ := Collection.exists_collected (c := .empty) |>.mpr ⟨kind, .inl rfl, all⟩
  obtain ⟨among, isSet⟩ := Collection.collect_keeps (V := (∃ a ∈ numbers, value a = ·))
    (fun m member => List.mem_map.mp member) c collected
  obtain ⟨-, found⟩ := Collection.exists_collected_equal collected
  refine ⟨c.elementKind, c.members, ?_, among, fun a member => ?_⟩
  · rw [Value.setOf, collected]
    refine if_pos (Value.allRanked_iff.mpr fun m member => ?_)
    obtain ⟨a, -, rfl⟩ := among m member
    cases a <;> rfl
  · have equal_iff : ∀ m ∈ c.members, (a.value.order m = .eq ↔ Value.Compares .eq a.value m) := by
      intro m inside
      obtain ⟨b, member', rfl⟩ := among m inside
      exact order_eq_iff (alike a member b member')
    obtain ⟨m, inside, same⟩ := found a.value (List.mem_map_of_mem member)
    refine ⟨m, ⟨inside, (equal_iff m inside).mp same⟩, ?_⟩
    rintro m' ⟨inside', equal⟩
    have same' := (equal_iff m' inside').mpr equal
    refine isSet.ascending.eq_of_order inside' inside ?_
    exact Std.TransCmp.eq_trans (Std.OrientedCmp.eq_comm.mp same') same

end Number

/-- Two numbers are compared as the rational numbers they stand for. So exactly one of less,
equal and greater holds of them, equality is an equivalence and the order is transitive, whatever
the kinds of the numbers; and in the set that a literal denotes, two numbers of one kind are the
same member exactly when they are equal. -/
theorem numbers_compare_exactly :
    (∀ (comparison : Comparison) (a b : Number),
      Value.compare comparison.symbol a.value b.value =
        .ok (.boolean (comparison.onRationals a.rational b.rational))) ∧
    (∀ a b : Number, ∃! comparison, comparison ∈ [Comparison.lt, .eq, .gt] ∧
      Value.Compares comparison a.value b.value) ∧
    (Equivalence fun a b : Number => Value.Compares .eq a.value b.value) ∧
    (∀ a b c : Number, Value.Compares .le a.value b.value → Value.Compares .le b.value c.value →
      Value.Compares .le a.value c.value) ∧
    ∀ (limits : Limits) (env : Environment) (es : List Expr) (numbers : List Number),
      List.Forall₂ (fun e a => (e.evaluate limits env).result = .ok a.value) es numbers →
      (∀ a ∈ numbers, ∀ b ∈ numbers, a.value.kind = b.value.kind) →
      ∃ elementKind members,
        ((Expr.set es).evaluate { limits with nesting := limits.nesting + 1 } env).result =
          .ok (.set elementKind members) ∧
        (∀ m ∈ members, ∃ a ∈ numbers, a.value = m) ∧
        (∀ a ∈ numbers, ∃! m, m ∈ members ∧ Value.Compares .eq a.value m) ∧
        ∀ a ∈ numbers, ∀ b ∈ numbers,
          (∃ m ∈ members, Value.Compares .eq a.value m ∧ Value.Compares .eq b.value m) ↔
            Value.Compares .eq a.value b.value := by
  refine ⟨Number.compare_value, fun a b => ?_, ?_, ?_, ?_⟩
  · simp only [Number.compares_iff]
    exact Comparison.existsUnique_onRationals a.rational b.rational
  · simp only [Number.compares_eq]
    exact eq_equivalence.comap Number.rational
  · intro a b c below above
    simp only [Number.compares_iff, Comparison.onRationals, decide_eq_true_eq] at below above ⊢
    exact below.trans above
  · intro limits env es numbers evaluated alike
    have values : List.Forall₂ (fun e v => (e.evaluate limits env).result = .ok v) es
        (numbers.map Number.value) := List.forall₂_map_right_iff.mpr evaluated
    obtain ⟨elementKind, members, built, among, unique⟩ := Number.exists_setOf alike
    refine ⟨elementKind, members, (Evaluation.set_result values).trans built, among, unique, ?_⟩
    intro a member b member'
    constructor
    · rintro ⟨m, inside, first, second⟩
      obtain ⟨c, -, rfl⟩ := among m inside
      rw [Number.compares_eq] at first second ⊢
      exact first.trans second.symm
    · intro equal
      obtain ⟨m, ⟨inside, first⟩, -⟩ := unique b member'
      obtain ⟨c, -, rfl⟩ := among m inside
      refine ⟨c.value, inside, ?_, first⟩
      rw [Number.compares_eq] at equal first ⊢
      exact equal.trans first

/-- The power of two above which reals no longer reach every integer. -/
def sparseSample : Number := .real ⟨false, 0x4340000000000000, by decide⟩

theorem numbers_compare_exactly_sample :
    Value.Compares .le sparseSample.value (.integer 9007199254740993) ∧
    ¬Value.Compares .eq sparseSample.value (.integer 9007199254740993) ∧
    Value.Compares .le (.integer 9007199254740992) (.integer 9007199254740993) ∧
    ∃ elementKind members,
      ((Expr.set [.integer 1, .integer 2, .integer 1]).evaluate ⟨0, 2, 1⟩ ⟨[], []⟩).result =
        .ok (.set elementKind members) ∧
      (∃! m, m ∈ members ∧ Value.Compares .eq (.integer 1) m) ∧
      ¬∃ m ∈ members, Value.Compares .eq (.integer 1) m ∧ Value.Compares .eq (.integer 2) m := by
  have below : Value.Compares .le sparseSample.value (.integer 9007199254740993) := by
    decide +kernel
  obtain ⟨-, -, -, transitive, literals⟩ := numbers_compare_exactly
  obtain ⟨elementKind, members, built, -, unique, collapse⟩ := literals ⟨0, 1, 1⟩ ⟨[], []⟩
    [.integer 1, .integer 2, .integer 1] [.integer 1, .integer 2, .integer 1]
    (.cons rfl (.cons rfl (.cons rfl .nil))) (by simp [Number.value, Value.kind])
  refine ⟨below, by decide +kernel, ?_, elementKind, members, built, ?_, ?_⟩
  · exact transitive (.integer 9007199254740992) sparseSample (.integer 9007199254740993)
      (by decide +kernel) below
  · exact unique (.integer 1) (by simp)
  · intro together
    have equal := (collapse (.integer 1) (by simp) (.integer 2) (by simp)).mp together
    exact absurd equal (by decide +kernel)

end PiecewiseLang
