import PiecewiseLang.Value.Order

/-! The order of values is a total preorder: the comparison of two values the other way
round is the opposite one, and comparisons chain. Inserting a value in its place therefore
keeps a list strictly ascending. -/
namespace PiecewiseLang

/-- What three comparisons among three things have to do with each other: they chain, and
the outer two are equal only if all three are. -/
def Chains (ab bc ac : Ordering) : Prop :=
  ab.isLE = true → bc.isLE = true → ac.isLE = true ∧ (ac = .eq → ab = .eq ∧ bc = .eq)

/-- Comparisons by a first criterion and, among equals, by a second one. -/
theorem Chains.lexicographic (first : Chains ab bc ac)
    (second : ab = .eq → bc = .eq → Chains ab' bc' ac') :
    Chains (ab.then ab') (bc.then bc') (ac.then ac') := by
  unfold Chains at *
  cases ab <;> cases bc <;> cases ac <;> simp_all

theorem orderInts_cases (a b : Int) :
    a < b ∧ orderInts a b = .lt ∨ a = b ∧ orderInts a b = .eq ∨ b < a ∧ orderInts a b = .gt := by
  unfold orderInts
  split
  · exact .inl ⟨‹_›, rfl⟩
  · split
    · exact .inr (.inl ⟨‹_›, rfl⟩)
    · exact .inr (.inr ⟨by omega, rfl⟩)

theorem orderInts_swap (a b : Int) : orderInts b a = (orderInts a b).swap := by
  rcases orderInts_cases a b with ⟨_, ab⟩ | ⟨_, ab⟩ | ⟨_, ab⟩ <;>
    rcases orderInts_cases b a with ⟨_, ba⟩ | ⟨_, ba⟩ | ⟨_, ba⟩ <;>
    first | omega | rw [ab, ba]; rfl

theorem eq_of_orderInts (same : orderInts a b = .eq) : a = b := by
  rcases orderInts_cases a b with ⟨_, ab⟩ | ⟨same, _⟩ | ⟨_, ab⟩
  · rw [ab] at same; cases same
  · exact same
  · rw [ab] at same; cases same

theorem orderInts_chains (a b c : Int) :
    Chains (orderInts a b) (orderInts b c) (orderInts a c) := by
  intro below above
  rcases orderInts_cases a b with ⟨_, ab⟩ | ⟨_, ab⟩ | ⟨_, ab⟩ <;>
    rcases orderInts_cases b c with ⟨_, bc⟩ | ⟨_, bc⟩ | ⟨_, bc⟩ <;>
    rcases orderInts_cases a c with ⟨_, ac⟩ | ⟨_, ac⟩ | ⟨_, ac⟩ <;>
    first | omega | simp_all

namespace Double

/-- The units of a finite number, and nothing for what is not finite. -/
def finiteUnits : Double → Int
  | .finite x => x.units
  | _ => 0

/-- Data are compared by their bands, and by their units within the finite band. -/
theorem order_eq (x y : Double) :
    x.order y = (orderInts x.band y.band).then (orderInts x.finiteUnits y.finiteUnits) := by
  cases x with
  | finite x => cases y with
    | infinite negative => cases negative <;> rfl
    | _ => rfl
  | infinite negative => cases y with
    | infinite other => cases negative <;> cases other <;> rfl
    | _ => cases negative <;> rfl
  | notANumber => cases y with
    | infinite negative => cases negative <;> rfl
    | _ => rfl

theorem order_swap (x y : Double) : y.order x = (x.order y).swap := by
  rw [order_eq, order_eq, Ordering.swap_then, ← orderInts_swap, ← orderInts_swap]

theorem order_chains (x y z : Double) : Chains (x.order y) (y.order z) (x.order z) := by
  rw [order_eq, order_eq, order_eq]
  exact .lexicographic (orderInts_chains _ _ _) fun _ _ => orderInts_chains _ _ _

end Double

namespace Value

/-- Values are first compared by the ranks of their kinds. -/
theorem order_by_rank (a b : Value) :
    a.order b = (orderInts a.kind.rank b.kind.rank).then (a.order b) := by
  cases a <;> cases b <;> rfl

theorem kind_of_rank (same : orderInts (a : Value).kind.rank (b : Value).kind.rank = .eq) :
    a.kind = b.kind := by
  have same := Int.ofNat.inj (eq_of_orderInts same)
  revert same
  cases a.kind <;> cases b.kind <;> decide

mutual

theorem order_swap : (a b : Value) → b.order a = (a.order b).swap
  | .set k as, b => by
    cases b with
    | set l bs => exact orderAll_swap as bs
    | _ => rfl
  | .real x, b => by
    cases b with
    | real y => exact x.order_swap y
    | _ => rfl
  | .integer _, b | .boolean _, b => by cases b <;> first | rfl | exact orderInts_swap _ _
  | .undefined, b | .function _ _, b | .builtin _, b => by cases b <;> rfl

theorem orderAll_swap : (as bs : List Value) → orderAll bs as = (orderAll as bs).swap
  | [], [] | [], _ :: _ | _ :: _, [] => rfl
  | a :: as, b :: bs => by
    simp only [orderAll, Ordering.swap_then, order_swap a b, orderAll_swap as bs]

end

mutual

theorem order_chains : (a b c : Value) → Chains (a.order b) (b.order c) (a.order c)
  | a, b, c => by
    rw [order_by_rank a b, order_by_rank b c, order_by_rank a c]
    refine .lexicographic (orderInts_chains _ _ _) fun ab bc => ?_
    -- The three values have one kind, and each kind has a comparison of its own.
    have ab := kind_of_rank ab
    have bc := kind_of_rank bc
    cases a with
    | set k as =>
      cases b <;> cases ab
      cases c <;> cases bc
      exact orderAll_chains as _ _
    | real x =>
      cases b <;> cases ab
      cases c <;> cases bc
      exact x.order_chains _ _
    | _ =>
      cases b <;> cases ab
      cases c <;> cases bc
      exact orderInts_chains _ _ _

theorem orderAll_chains : (as bs cs : List Value) →
    Chains (orderAll as bs) (orderAll bs cs) (orderAll as cs)
  | [], bs, cs => by
    cases bs <;> cases cs <;> simp [orderAll, Chains]
  | a :: as, [], cs => by
    simp [orderAll, Chains]
  | a :: as, b :: bs, [] => by
    simp [orderAll, Chains]
  | a :: as, b :: bs, c :: cs => by
    simp only [orderAll]
    exact .lexicographic (order_chains a b c) fun _ _ => orderAll_chains as bs cs

end

instance : Std.OrientedCmp order where
  eq_swap := order_swap _ _

instance : Std.TransCmp order where
  isLE_trans below above := (order_chains _ _ _ below above).1

/-- Whether each value comes before all values after it. -/
def Ascending (values : List Value) : Prop := values.Pairwise (·.order · = .lt)

theorem mem_insert (member : m ∈ insert x ys) : m = x ∨ m ∈ ys := by
  induction ys with
  | nil => exact .inl (List.mem_singleton.mp member)
  | cons y ys ih =>
    rw [insert] at member
    split at member
    · exact List.mem_cons.mp member
    · exact .inr member
    · rcases List.mem_cons.mp member with rfl | member
      · exact .inr (List.mem_cons_self ..)
      · exact (ih member).imp_right (List.mem_cons_of_mem y)

theorem insert_ne_nil (x : Value) (ys : List Value) : insert x ys ≠ [] := by
  cases ys with
  | nil => exact List.cons_ne_nil _ _
  | cons y ys =>
    rw [insert]
    split <;> exact List.cons_ne_nil _ _

/-- A value is inserted after all that come before it and before all that come after it. -/
theorem ascending_insert (ascending : Ascending ys) (x : Value) : Ascending (insert x ys) := by
  induction ys with
  | nil => exact List.pairwise_singleton ..
  | cons y ys ih =>
    obtain ⟨first, rest⟩ := List.pairwise_cons.mp ascending
    rw [insert]
    split
    case h_1 before =>
      refine List.pairwise_cons.mpr ⟨fun m member => ?_, ascending⟩
      rcases List.mem_cons.mp member with rfl | member
      · exact before
      · exact Std.TransCmp.lt_trans before (first m member)
    case h_2 => exact ascending
    case h_3 after =>
      refine List.pairwise_cons.mpr ⟨fun m member => ?_, ih rest⟩
      rcases mem_insert member with rfl | member
      · exact Std.OrientedCmp.lt_of_gt after
      · exact first m member

end Value

end PiecewiseLang
