import Mathlib.Algebra.BigOperators.Group.Finset.Basic
import Mathlib.Data.Set.List
import PiecewiseLang.Proofs.Value.Exactness
import PiecewiseLang.Proofs.Value.Signatures

/-! The functions of sets. The greatest and the least member are the ends of the list of members,
because the list ascends and, among numbers, ascends as the comparison of the language has it. The
sum and the product go through the operators, member by member: integers stay exact, a result that
is no longer finite stays undefined, and on sets of numbers neither ever fails. -/
namespace PiecewiseLang

namespace Value

variable {first m : Value} {rest : List Value}

/-- No member comes before the first one. -/
theorem Ascending.order_first (ascending : Ascending (first :: rest))
    (member : m ∈ first :: rest) : m.order first ≠ .lt := by
  rcases List.mem_cons.mp member with rfl | member
  · simp [Std.ReflCmp.compare_self]
  · have before : first.order m = .lt := List.rel_of_pairwise_cons ascending member
    simp [Std.OrientedCmp.gt_of_lt before]

/-- No member comes after the last one. -/
theorem Ascending.order_last (ascending : Ascending (first :: rest))
    (member : m ∈ first :: rest) : m.order (rest.getLastD first) ≠ .gt := by
  induction rest generalizing first with
  | nil =>
    obtain rfl := List.mem_singleton.mp member
    simp [Std.ReflCmp.compare_self]
  | cons next rest ih =>
    rw [List.getLastD_cons]
    obtain ⟨before, ascending⟩ := List.pairwise_cons.mp ascending
    rcases List.mem_cons.mp member with rfl | member
    · rw [before _ List.getLastD_mem_cons]
      nofun
    · exact ih ascending member

/-- A fold over integers whose steps are exact is exact. -/
theorem foldlM_integers {step : Value → Value → Except EvalError Value}
    {operation : Int → Int → Int}
    (exact : ∀ a b, step (.integer a) (.integer b) = .ok (.integer (operation a b)))
    (ns : List Int) (n : Int) :
    (ns.map .integer).foldlM step (.integer n) = .ok (.integer (ns.foldl operation n)) := by
  induction ns generalizing n with
  | nil => rfl
  | cons k ns ih =>
    rw [List.map_cons, List.foldlM_cons, exact]
    exact ih (operation n k)

/-- The set of some integers lists every one of them once. -/
theorem exists_setOf_integers (xs : List Int) : ∃ (elementKind : Option Kind) (ns : List Int),
    setOf (xs.map .integer) = .ok (.set elementKind (ns.map .integer)) ∧
      ns.Nodup ∧ ns.toFinset = xs.toFinset := by
  have canonical : ∀ v ∈ xs.map integer, v.Canonical := List.forall_mem_map.mpr fun _ _ => .integer
  have all : AllOf .integer (xs.map .integer) := List.forall_mem_map.mpr fun _ _ => ⟨rfl, rfl⟩
  obtain ⟨A, built, same⟩ := exists_setOf canonical all
  obtain ⟨ns, members⟩ : A.members ∈ Set.range (List.map integer) := by
    rw [Set.range_list_map]
    intro m member
    obtain ⟨n, -, rfl⟩ := List.mem_map.mp ((same m).mp member)
    exact ⟨n, rfl⟩
  have injective : Function.Injective integer := fun _ _ => integer.inj
  refine ⟨A.elementKind, ns, members ▸ built, ?_, List.toFinset.ext fun n => ?_⟩
  · exact .of_map integer (members ▸ A.isSet.ascending.nodup)
  · rw [← List.mem_map_of_injective injective, ← List.mem_map_of_injective injective, members]
    exact same (.integer n)

/-- What arithmetic on numbers has for a result. -/
def IsOutcome (v : Value) : Prop := v = .undefined ∨ v.isNumber = true

/-- Once there are only numbers, arithmetic has a result, also with one that is undefined. -/
theorem arithmetic_outcome {symbol : Symbol} {onInts : Int → Int → Int}
    {onReals : Binary64 → Binary64 → Double} {a b : Value} (left : a.IsOutcome)
    (right : b.isNumber = true) :
    ∃ v, arithmetic symbol (fun m n => .integer (onInts m n)) onReals a b = .ok v ∧
      v.IsOutcome := by
  unfold arithmetic
  split
  case h_1 => exact ⟨_, rfl, .inl rfl⟩
  case h_2 => exact ⟨_, rfl, .inl rfl⟩
  case h_3 => exact ⟨_, rfl, .inr rfl⟩
  case h_4 defined _ _ =>
    have left : a.isNumber = true := left.resolve_left defined
    rw [left, right]
    dsimp
    split
    case h_1 x y _ _ =>
      refine ⟨_, rfl, ?_⟩
      cases onReals x y with
      | finite => exact .inr rfl
      | _ => exact .inl rfl
    case h_2 => exact ⟨_, rfl, .inl rfl⟩

theorem foldlM_outcome {step : Value → Value → Except EvalError Value}
    (steps : ∀ a b, a.IsOutcome → b.isNumber = true → ∃ v, step a b = .ok v ∧ v.IsOutcome)
    {a : Value} (start : a.IsOutcome) (numbers : ∀ m ∈ rest, m.isNumber = true) :
    ∃ v, rest.foldlM step a = .ok v := by
  induction rest generalizing a with
  | nil => exact ⟨a, rfl⟩
  | cons m rest ih =>
    obtain ⟨number, numbers⟩ := List.forall_mem_cons.mp numbers
    obtain ⟨v, stepped, outcome⟩ := steps a m start number
    rw [List.foldlM_cons, stepped]
    exact ih outcome numbers

end Value

namespace Number

/-- The numbers among the canonical values. -/
theorem exists_value {v : Value} (canonical : v.Canonical) (number : v.isNumber = true) :
    ∃ a : Number, a.value = v := by
  cases canonical with
  | @integer n => exact ⟨.integer n, rfl⟩
  | @real x => exact ⟨.real x, rfl⟩
  | _ => cases number

/-- Within one kind, a number that does not come after another is not greater. -/
theorem compares_le_of_order {a b : Number} (alike : a.value.kind = b.value.kind)
    (notAfter : a.value.order b.value ≠ .gt) : Value.Compares .le a.value b.value := by
  rw [order_value alike, ne_eq, cmp_eq_gt_iff, not_lt] at notAfter
  simpa [compares_iff, Comparison.onRationals] using notAfter

end Number

namespace Builtin

variable {f : Builtin} {elementKind : Option Kind} {first : Value} {rest : List Value}

theorem apply_numbers (numbers : ∀ m ∈ first :: rest, m.isNumber = true) :
    f.apply (.set elementKind (first :: rest)) = f.reduce first rest := by
  have all : (first :: rest).all Value.isNumber = true := List.all_eq_true.mpr numbers
  rw [apply, all, Bool.not_true, Bool.and_false]
  rfl

/-- A function of numbers has a value on any numbers, undefined or not. -/
theorem reduce_numbers (numeric : f ∈ [sum, product])
    (numbers : ∀ m ∈ first :: rest, m.isNumber = true) : ∃ v, f.reduce first rest = .ok v := by
  obtain ⟨number, numbers⟩ := List.forall_mem_cons.mp numbers
  cases f with
  | sum => exact Value.foldlM_outcome (fun _ _ => Value.arithmetic_outcome) (.inr number) numbers
  | product =>
    exact Value.foldlM_outcome (fun _ _ => Value.arithmetic_outcome) (.inr number) numbers
  | max | min => simp at numeric

/-- The sum and the product of integers are exact. -/
theorem apply_integers (elementKind : Option Kind) (n : Int) (ns : List Int) :
    sum.apply (.set elementKind ((n :: ns).map .integer)) = .ok (.integer (n :: ns).sum) ∧
    product.apply (.set elementKind ((n :: ns).map .integer)) =
      .ok (.integer (n :: ns).prod) := by
  have numbers : ∀ m ∈ (n :: ns).map Value.integer, m.isNumber = true :=
    List.forall_mem_map.mpr fun _ _ => rfl
  rw [List.map_cons] at numbers ⊢
  constructor
  · rw [apply_numbers numbers, List.sum_eq_foldl, List.foldl_cons, zero_add]
    exact Value.foldlM_integers (fun _ _ => rfl) ns n
  · rw [apply_numbers numbers, List.prod_eq_foldl, List.foldl_cons, one_mul]
    exact Value.foldlM_integers (fun _ _ => rfl) ns n

theorem apply_of_kind {v : Value} (other : v.kind ≠ .set) :
    f.apply v = .error (.builtinArgument f v.kind) := by
  cases v with
  | set => exact absurd rfl other
  | _ => rfl

end Builtin

namespace CanonicalSet

variable {A : CanonicalSet} {f : Builtin}

theorem mem_iff (members : A.members = values) : x ∈ A ↔ x ∈ values := members ▸ Iff.rfl

/-- Members of a set of numbers compare as their places in it are. -/
theorem members_compare {x y : Value} (numbers : ∀ m ∈ A, m.isNumber = true) (first : x ∈ A)
    (second : y ∈ A) (notAfter : x.order y ≠ .gt) : Value.Compares .le x y := by
  have alike : x.kind = y.kind :=
    Option.some.inj ((A.isSet.kinds x first).1.symm.trans (A.isSet.kinds y second).1)
  obtain ⟨a, rfl⟩ := Number.exists_value (members_canonical first) (numbers x first)
  obtain ⟨b, rfl⟩ := Number.exists_value (members_canonical second) (numbers y second)
  exact Number.compares_le_of_order alike notAfter

/-- The greatest and the least member are the ends of the list of members. -/
theorem exists_extremes (nonempty : A.members ≠ []) : ∃ greatest ∈ A, ∃ least ∈ A,
    Builtin.max.apply A.value = .ok greatest ∧ Builtin.min.apply A.value = .ok least ∧
      ∀ x ∈ A, x.order greatest ≠ .gt ∧ x.order least ≠ .lt := by
  obtain ⟨first, rest, members⟩ := List.exists_cons_of_ne_nil nonempty
  have ascending : Value.Ascending (first :: rest) := members ▸ A.isSet.ascending
  simp only [mem_iff members, value, members]
  exact ⟨_, List.getLastD_mem_cons, first, List.mem_cons_self .., rfl, rfl,
    fun x member => ⟨ascending.order_last member, ascending.order_first member⟩⟩

theorem numbers_iff : (∀ m ∈ A, m.isNumber = true) ↔
    A.elementKind ≠ some .boolean ∧ A.elementKind ≠ some .set := by
  have member_iff {m : Value} (member : m ∈ A) : m.isNumber = true ↔
      A.elementKind ≠ some .boolean ∧ A.elementKind ≠ some .set := by
    obtain ⟨same, allowed⟩ := A.isSet.kinds m member
    have same : A.elementKind = some m.kind := same
    rw [same]
    cases m with
    | undefined | function | builtin => cases allowed
    | _ => simp [Value.isNumber, Value.kind]
  refine ⟨fun numbers => ?_, fun kinds m member => (member_iff member).mpr kinds⟩
  cases members : A.members with
  | nil =>
    have none : A.elementKind = none := A.isSet.empty.mpr members
    simp [none]
  | cons m _ =>
    have member : m ∈ A := (mem_iff members).mpr (List.mem_cons_self ..)
    exact (member_iff member).mp (numbers m member)

/-- A function of numbers refuses the sets of truth values and the sets of sets. -/
theorem apply_error_iff (numeric : f ∈ [Builtin.sum, .product]) :
    f.apply A.value = .error e ↔ (A.members ≠ [] ∧
      (A.elementKind = some .boolean ∨ A.elementKind = some .set)) ∧
        e = .builtinMembers f A.elementKind := by
  cases members : A.members with
  | nil => simp [value, members, Builtin.apply]
  | cons first rest =>
    rw [value, members]
    by_cases numbers : ∀ m ∈ first :: rest, m.isNumber = true
    · obtain ⟨v, reduced⟩ := Builtin.reduce_numbers numeric numbers
      have kinds := numbers_iff.mp fun m member => numbers m ((mem_iff members).mp member)
      simp [Builtin.apply_numbers numbers, reduced, kinds]
    · have kinds : A.elementKind = some .boolean ∨ A.elementKind = some .set := by
        by_contra neither
        refine numbers fun m member => numbers_iff.mpr (not_or.mp neither) m ?_
        exact (mem_iff members).mpr member
      have isNumeric : f.isNumeric = true := by
        revert f
        decide
      have all : (first :: rest).all Value.isNumber = false := by
        rwa [← Bool.not_eq_true, List.all_eq_true]
      rw [Builtin.apply, isNumeric, all]
      simp [kinds, eq_comm]

end CanonicalSet

/-- The functions of sets compute what they are named for. The greatest and the least member are
members that no other one comes after or before, which among numbers is to be on the right side of
the comparison. The sum and the product of integers are the exact ones of the different integers
there are. On the empty set all four are undefined, and the sum and the product are refused exactly
to what is no set and to the sets, not empty, of truth values or of sets. -/
theorem builtins_compute_what_they_name :
    (∀ A : CanonicalSet, A.members ≠ [] → ∃ greatest ∈ A, ∃ least ∈ A,
      Builtin.max.apply A.value = .ok greatest ∧ Builtin.min.apply A.value = .ok least ∧
      (∀ x ∈ A, x.order greatest ≠ .gt ∧ x.order least ≠ .lt) ∧
      ((∀ x ∈ A, x.isNumber = true) →
        ∀ x ∈ A, Value.Compares .le x greatest ∧ Value.Compares .le least x)) ∧
    (∀ xs : List Int, xs ≠ [] → ∃ v, Value.setOf (xs.map .integer) = .ok v ∧
      Builtin.sum.apply v = .ok (.integer (∑ x ∈ xs.toFinset, x)) ∧
      Builtin.product.apply v = .ok (.integer (∏ x ∈ xs.toFinset, x))) ∧
    (∀ f : Builtin, f.apply .emptySet = .ok .undefined) ∧
    ∀ f ∈ [Builtin.sum, .product], ∀ v : Value, (v.kind = .set → v.Canonical) →
      (∀ e, f.apply v = .error e → e.family = .valueKind) ∧
      ((∃ e, f.apply v = .error e) ↔ v.kind ≠ .set ∨ ∃ A : CanonicalSet, v = A.value ∧
        A.members ≠ [] ∧ (A.elementKind = some .boolean ∨ A.elementKind = some .set)) := by
  refine ⟨fun A nonempty => ?_, fun xs nonempty => ?_, fun f => rfl, fun f numeric v canonical => ?_⟩
  · obtain ⟨greatest, inside, least, inside', max, min, extreme⟩ := A.exists_extremes nonempty
    refine ⟨greatest, inside, least, inside', max, min, extreme, fun numbers x member => ⟨?_, ?_⟩⟩
    · exact CanonicalSet.members_compare numbers member inside (extreme x member).1
    · refine CanonicalSet.members_compare numbers inside' member fun after => ?_
      exact (extreme x member).2 (Std.OrientedCmp.lt_of_gt after)
  · obtain ⟨elementKind, ns, built, once, same⟩ := Value.exists_setOf_integers xs
    obtain ⟨n, ns, rfl⟩ : ∃ n ns', ns = n :: ns' := by
      refine List.exists_cons_of_ne_nil ?_
      rintro rfl
      exact nonempty (List.toFinset_eq_empty_iff xs |>.mp same.symm)
    obtain ⟨sum, product⟩ := Builtin.apply_integers elementKind n ns
    refine ⟨_, built, ?_, ?_⟩
    · rw [sum, ← same, List.sum_toFinset _ once, List.map_id']
    · rw [product, ← same, List.prod_toFinset _ once, List.map_id']
  · by_cases set : v.kind = .set
    · obtain ⟨A, rfl⟩ : ∃ A : CanonicalSet, v = A.value := by
        cases v with
        | set elementKind members => exact ⟨⟨elementKind, members, canonical rfl⟩, rfl⟩
        | _ => cases set
      have error_iff (e : EvalError) := CanonicalSet.apply_error_iff (A := A) (e := e) numeric
      refine ⟨fun e failed => ?_, ?_⟩
      · obtain ⟨-, rfl⟩ := (error_iff e).mp failed
        rfl
      · constructor
        · rintro ⟨e, failed⟩
          exact .inr ⟨A, rfl, ((error_iff e).mp failed).1⟩
        · rintro (other | ⟨B, same, refused⟩)
          · exact absurd set other
          · rw [same]
            exact ⟨_, (CanonicalSet.apply_error_iff numeric).mpr ⟨refused, rfl⟩⟩
    · rw [Builtin.apply_of_kind set]
      refine ⟨?_, iff_of_true ⟨_, rfl⟩ (.inl set)⟩
      rintro _ ⟨⟩
      rfl

/-- The sum and the product of repeated integers past every real, and truth values refused. -/
theorem builtins_compute_what_they_name_sample :
    (∃ greatest ∈ numbersSample, ∃ least ∈ numbersSample,
      Builtin.max.apply numbersSample.value = .ok greatest ∧
      Builtin.min.apply numbersSample.value = .ok least ∧
      Value.Compares .le (.integer 1) greatest ∧ Value.Compares .le least (.integer 2)) ∧
    (∃ v, Value.setOf ([10 ^ 400, -3, 10 ^ 400, 2, -3].map .integer) = .ok v ∧
      Builtin.sum.apply v = .ok (.integer (10 ^ 400 - 1)) ∧
      Builtin.product.apply v = .ok (.integer (-6 * 10 ^ 400))) ∧
    ∃ e, Builtin.product.apply truthsSample.value = .error e ∧ e.family = .valueKind := by
  obtain ⟨extremes, reductions, -, refusals⟩ := builtins_compute_what_they_name
  refine ⟨?_, ?_, ?_⟩
  · obtain ⟨greatest, inside, least, inside', max, min, -, compare⟩ :=
      extremes numbersSample (by decide)
    have compare := compare (by decide)
    exact ⟨greatest, inside, least, inside', max, min, (compare _ (by decide)).1,
      (compare _ (by decide)).2⟩
  · obtain ⟨v, built, sum, product⟩ := reductions [10 ^ 400, -3, 10 ^ 400, 2, -3] (by decide)
    refine ⟨v, built, sum.trans ?_, product.trans ?_⟩ <;> decide +kernel
  · obtain ⟨family, refused⟩ := refusals .product (by decide) truthsSample.value
      fun _ => truthsSample.canonical
    obtain ⟨e, failed⟩ := refused.mpr (.inr ⟨truthsSample, rfl, by decide, by decide⟩)
    exact ⟨e, failed, family e failed⟩

end PiecewiseLang
