import PiecewiseLang.Proofs.Binary64.Rounding
import PiecewiseLang.Proofs.Value.Failures

/-! A set is told by its members. Among the canonical values that can be members the order is
faithful: values that it does not tell apart are the same. So a set that is built from a list has
exactly the members of the list, and the order and the repetitions of the list do not show. -/
namespace PiecewiseLang

namespace Binary64

variable {x y : Binary64}

theorem units_natAbs (x : Binary64) : x.units.natAbs = x.size := by
  unfold units
  split <;> simp

theorem magnitude_of_size (same : x.size = y.size) : x.magnitude = y.magnitude := by
  have index := congrArg (nearestIndex · 1) same
  simp only [size, nearestIndex_magnitudeSize] at index
  exact Fin.ext index

theorem isZero_of_size (none : x.size = 0) : x.isZero = true := by
  have same : x.size = zero.size := none
  rw [isZero, magnitude_of_size same]
  rfl

/-- Without the negative zero, the sign of a number is the sign of its value. -/
theorem negative_iff (plain : x.isNegativeZero = false) : x.negative = true ↔ x.units < 0 := by
  unfold units
  split
  case isTrue negative =>
    refine iff_of_true negative ?_
    have some : x.size ≠ 0 := by
      intro none
      simp [isNegativeZero, negative, isZero_of_size none] at plain
    omega
  case isFalse positive => exact iff_of_false positive (by omega)

/-- Numbers of the same value are the same, if neither is the negative zero. -/
theorem eq_of_units (plain : x.isNegativeZero = false) (plain' : y.isNegativeZero = false)
    (same : x.units = y.units) : x = y := by
  have sign : x.negative = y.negative := by
    rw [Bool.eq_iff_iff, negative_iff plain, negative_iff plain', same]
  have magnitude : x.magnitude = y.magnitude :=
    magnitude_of_size (by rw [← units_natAbs, ← units_natAbs, same])
  cases x
  cases y
  cases sign
  cases magnitude
  rfl

end Binary64

namespace Value

variable {a b : Value}

theorem kind_of_order (same : a.order b = .eq) : a.kind = b.kind := by
  rw [order_by_rank] at same
  exact kind_of_rank (Ordering.then_eq_eq.mp same).1

theorem eq_of_orderAll (faithful : ∀ a ∈ as, ∀ b ∈ bs, a.order b = .eq → a = b)
    (same : orderAll as bs = .eq) : as = bs := by
  induction as generalizing bs with
  | nil =>
    cases bs with
    | nil => rfl
    | cons => cases same
  | cons a as ih =>
    cases bs with
    | nil => cases same
    | cons b bs =>
      obtain ⟨first, rest⟩ := Ordering.then_eq_eq.mp same
      rw [faithful a (List.mem_cons_self ..) b (List.mem_cons_self ..) first]
      refine congrArg _ (ih (fun a member b member' => ?_) rest)
      exact faithful a (List.mem_cons_of_mem _ member) b (List.mem_cons_of_mem _ member')

/-- Canonical members that the order does not tell apart are the same. -/
theorem Canonical.eq_of_order (first : a.Canonical) (second : b.Canonical)
    (member : a.kind.canBeMember = true) (same : a.order b = .eq) : a = b := by
  have kinds := kind_of_order same
  induction first generalizing b with
  | integer =>
    cases second <;> cases kinds
    exact congrArg _ (eq_of_orderInts same)
  | real plain =>
    cases second with
    | real plain' => rw [Binary64.eq_of_units plain plain' (eq_of_orderInts same)]
    | _ => cases kinds
  | @boolean b =>
    cases second with
    | @boolean b' => cases b <;> cases b' <;> first | rfl | cases same
    | _ => cases kinds
  | undefined => cases member
  | function => cases member
  | builtin => cases member
  | set _ isSet ih =>
    cases second with
    | set canonical isSet' =>
      have members := eq_of_orderAll (fun a inside b inside' equal =>
        ih a inside (canonical b inside') (isSet.kinds a inside).2 equal (kind_of_order equal)) same
      subst members
      cases isSet.eq_ofMembers.symm.trans isSet'.eq_ofMembers
      rfl
    | _ => cases kinds

/-- Inserting adds the value to the members, if no other one takes its place. -/
theorem mem_insert_iff (faithful : ∀ y ∈ ys, x.order y = .eq → x = y) :
    m ∈ insert x ys ↔ m = x ∨ m ∈ ys := by
  refine ⟨mem_insert, ?_⟩
  induction ys with
  | nil => simp [insert]
  | cons y ys ih =>
    obtain ⟨first, others⟩ := List.forall_mem_cons.mp faithful
    rw [insert]
    split
    case h_1 => exact List.mem_cons.mpr
    case h_2 same =>
      rintro (rfl | member)
      · exact List.mem_cons.mpr (.inl (first same))
      · exact member
    case h_3 =>
      rintro (rfl | member)
      · exact List.mem_cons_of_mem _ (ih others (.inl rfl))
      · rcases List.mem_cons.mp member with rfl | member
        · exact List.mem_cons_self ..
        · exact List.mem_cons_of_mem _ (ih others (.inr member))

theorem Ascending.nodup (ascending : Ascending as) : as.Nodup := by
  refine ascending.imp ?_
  rintro a b before rfl
  have same : a.order a = .eq := Std.ReflCmp.compare_self
  rw [same] at before
  cases before

/-- Ascending lists of the same members are the same. -/
theorem Ascending.ext (first : Ascending as) (second : Ascending bs)
    (same : ∀ m, m ∈ as ↔ m ∈ bs) : as = bs := by
  refine List.Perm.eq_of_pairwise (fun a b _ _ before after => ?_) first second
    ((List.perm_ext_iff_of_nodup first.nodup second.nodup).mpr same)
  rw [Std.OrientedCmp.gt_of_lt before] at after
  cases after

end Value

/-- Values of one kind, which sets can hold. -/
def Value.AllOf (kind : Kind) (values : List Value) : Prop :=
  ∀ v ∈ values, v.kind = kind ∧ kind.canBeMember = true

namespace Collection

variable {c d : Collection} {v : Value} {values : List Value}

theorem collect_cons : (v :: values).foldlM add c = .ok d ↔ v.kind.canBeMember = true ∧
    v.kind.Suits c.elementKind ∧ values.foldlM add ⟨some v.kind, v.insert c.members⟩ = .ok d := by
  rw [List.foldlM_cons]
  constructor
  · intro collected
    cases added : c.add v with
    | error e => rw [added] at collected; cases collected
    | ok c' =>
      rw [added] at collected
      obtain ⟨member, suits, rfl⟩ := add_cases added
      exact ⟨member, suits, collected⟩
  · rintro ⟨member, suits, collected⟩
    rw [add_ok member suits]
    exact collected

/-- Members are added as long as they have one kind, which goes with the members there are. -/
theorem exists_collected : (∃ d, values.foldlM add c = .ok d) ↔
    ∃ kind, kind.Suits c.elementKind ∧ Value.AllOf kind values := by
  induction values generalizing c with
  | nil =>
    obtain ⟨kind, suits⟩ := Kind.exists_suits c.elementKind
    exact iff_of_true ⟨c, rfl⟩ ⟨kind, suits, nofun⟩
  | cons v values ih =>
    constructor
    · rintro ⟨d, collected⟩
      obtain ⟨member, suits, collected⟩ := collect_cons.mp collected
      -- The kind of the first member is recorded, so it is the kind of the others.
      obtain ⟨kind, same | same, rest⟩ := ih.mp ⟨d, collected⟩
      · cases same
      · cases same
        exact ⟨v.kind, suits, List.forall_mem_cons.mpr ⟨⟨rfl, member⟩, rest⟩⟩
    · rintro ⟨kind, suits, all⟩
      obtain ⟨⟨rfl, member⟩, rest⟩ := List.forall_mem_cons.mp all
      obtain ⟨d, collected⟩ := ih (c := ⟨some v.kind, v.insert c.members⟩) |>.mpr
        ⟨v.kind, .inr rfl, rest⟩
      exact ⟨d, collect_cons.mpr ⟨member, suits, collected⟩⟩

/-- The members that are collected are those there were and those that were added. -/
theorem mem_collected (kept : c.Keeps Value.Canonical) (canonical : ∀ v ∈ values, v.Canonical)
    (collected : values.foldlM add c = .ok d) : m ∈ d.members ↔ m ∈ c.members ∨ m ∈ values := by
  induction values generalizing c with
  | nil =>
    cases collected
    simp
  | cons v values ih =>
    obtain ⟨first, others⟩ := List.forall_mem_cons.mp canonical
    obtain ⟨allowed, suits, collected⟩ := collect_cons.mp collected
    have faithful : ∀ y ∈ c.members, v.order y = .eq → v = y := fun y member same =>
      first.eq_of_order (kept.1 y member) allowed same
    rw [ih (add_keeps kept first _ (add_ok allowed suits)) others collected,
      Value.mem_insert_iff faithful, List.mem_cons, or_assoc, or_left_comm]

end Collection

/-- A set in canonical form. -/
structure CanonicalSet where
  elementKind : Option Kind
  members : List Value
  canonical : (Value.set elementKind members).Canonical

namespace CanonicalSet

variable {A B : CanonicalSet}

def value (A : CanonicalSet) : Value := .set A.elementKind A.members

instance : Membership Value CanonicalSet := ⟨fun A m => m ∈ A.members⟩

instance (m : Value) (A : CanonicalSet) : Decidable (m ∈ A) :=
  inferInstanceAs (Decidable (m ∈ A.members))

theorem isSet (A : CanonicalSet) : Collection.IsSet ⟨A.elementKind, A.members⟩ := by
  cases A.canonical
  assumption

theorem members_canonical (member : m ∈ A) : m.Canonical :=
  Value.canonical_closed.members A.canonical m member

/-- A set is told by its members. -/
theorem ext (same : ∀ m, m ∈ A ↔ m ∈ B) : A = B := by
  have members : A.members = B.members := A.isSet.ascending.ext B.isSet.ascending same
  have collections := A.isSet.eq_ofMembers.symm.trans (members ▸ B.isSet.eq_ofMembers)
  cases A
  cases B
  cases members
  cases collections
  rfl

theorem value_inj : A.value = B.value ↔ ∀ m, m ∈ A ↔ m ∈ B := by
  constructor
  · intro same m
    cases A
    cases B
    cases same
    rfl
  · intro same
    rw [ext same]

end CanonicalSet

namespace Value

variable {kind : Kind} {values : List Value}

/-- Canonical values of one kind are the members of a set. -/
theorem exists_setOf (canonical : ∀ v ∈ values, v.Canonical) (all : AllOf kind values) :
    ∃ A : CanonicalSet, setOf values = .ok A.value ∧ ∀ m, m ∈ A ↔ m ∈ values := by
  obtain ⟨c, collected⟩ := Collection.exists_collected (c := .empty) |>.mpr ⟨kind, .inl rfl, all⟩
  have kept := Collection.collect_keeps canonical c collected
  refine ⟨⟨c.elementKind, c.members, .set kept.1 kept.2⟩, ?_, fun m => ?_⟩
  · rw [setOf, collected]
    exact if_pos kept.allRanked
  · refine (Collection.mem_collected Collection.empty_keeps canonical collected).trans ?_
    simp [Collection.empty]

theorem allOf_of_setOf (built : setOf values = .ok v) : ∃ kind, AllOf kind values := by
  rw [setOf] at built
  cases collected : values.foldlM Collection.add Collection.empty with
  | error e => rw [collected] at built; cases built
  | ok c =>
    obtain ⟨kind, -, all⟩ := Collection.exists_collected.mp ⟨c, collected⟩
    exact ⟨kind, all⟩

/-- A set that is built has the members it is built from. -/
theorem canonicalSet_of_setOf (canonical : ∀ v ∈ values, v.Canonical)
    (built : setOf values = .ok v) :
    ∃ A : CanonicalSet, v = A.value ∧ ∀ m, m ∈ A ↔ m ∈ values := by
  obtain ⟨kind, all⟩ := allOf_of_setOf built
  obtain ⟨A, built', members⟩ := exists_setOf canonical all
  rw [built] at built'
  cases built'
  exact ⟨A, rfl, members⟩

end Value

theorem Kind.canBeMember_iff (kind : Kind) :
    kind.canBeMember = true ↔ kind ∈ [.integer, .real, .boolean, .set] := by
  cases kind <;> decide

theorem Value.exists_allOf : (∃ kind, AllOf kind values) ↔
    (∀ v ∈ values, v.kind ∈ [.integer, .real, .boolean, .set]) ∧
      ∀ v ∈ values, ∀ w ∈ values, v.kind = w.kind := by
  simp only [← Kind.canBeMember_iff]
  constructor
  · rintro ⟨kind, all⟩
    constructor
    · intro v member
      rw [(all v member).1]
      exact (all v member).2
    · intro v member w member'
      rw [(all v member).1, (all w member').1]
  · rintro ⟨members, same⟩
    cases values with
    | nil => exact ⟨.integer, nofun⟩
    | cons v values =>
      have first := List.mem_cons_self (a := v) (l := values)
      exact ⟨v.kind, fun w member => ⟨same w member v first, members v first⟩⟩

/-- A set can be built from canonical values exactly when they have one kind and it is one of
four. The members of the set are the values, in strictly ascending order, and so the sets from
two lists are the same exactly when the lists have the same members. -/
theorem setOf_told_by_members (canonical : ∀ x ∈ xs, x.Canonical) :
    ((∃ v, Value.setOf xs = .ok v) ↔
      (∀ x ∈ xs, x.kind ∈ [.integer, .real, .boolean, .set]) ∧
        ∀ x ∈ xs, ∀ y ∈ xs, x.kind = y.kind) ∧
    (∀ v, Value.setOf xs = .ok v → ∃ elementKind members, v = .set elementKind members ∧
      v.Canonical ∧ Value.Ascending members ∧ ∀ m, m ∈ members ↔ m ∈ xs) ∧
    ∀ ys : List Value, (∀ y ∈ ys, y.Canonical) → ∀ v w,
      Value.setOf xs = .ok v → Value.setOf ys = .ok w → (v = w ↔ ∀ m, m ∈ xs ↔ m ∈ ys) := by
  refine ⟨?_, ?_, ?_⟩
  · rw [← Value.exists_allOf]
    constructor
    · rintro ⟨v, built⟩
      exact Value.allOf_of_setOf built
    · rintro ⟨kind, all⟩
      obtain ⟨A, built, -⟩ := Value.exists_setOf canonical all
      exact ⟨A.value, built⟩
  · intro v built
    obtain ⟨A, rfl, members⟩ := Value.canonicalSet_of_setOf canonical built
    exact ⟨_, _, rfl, A.canonical, A.isSet.ascending, members⟩
  · intro ys canonical' v w built built'
    obtain ⟨A, rfl, members⟩ := Value.canonicalSet_of_setOf canonical built
    obtain ⟨B, rfl, members'⟩ := Value.canonicalSet_of_setOf canonical' built'
    simp only [← members, ← members', CanonicalSet.value_inj]

def numbersSample : CanonicalSet where
  elementKind := some .integer
  members := [.integer 1, .integer 2]
  canonical := Value.canonical_closed.setOf
    (List.forall_mem_cons.mpr ⟨.integer, List.forall_mem_singleton.mpr .integer⟩) _
    (by decide +kernel : Value.setOf [.integer 1, .integer 2] = _)

def truthsSample : CanonicalSet where
  elementKind := some .boolean
  members := [.boolean true]
  canonical := Value.canonical_closed.setOf (List.forall_mem_singleton.mpr .boolean) _
    (by decide +kernel : Value.setOf [.boolean true] = _)

def emptySample : CanonicalSet where
  elementKind := none
  members := []
  canonical := Value.canonical_closed.setOf (List.forall_mem_nil _) _ (rfl : Value.setOf [] = _)

/-- Sets of different kinds are together in a set, in their order and without repetition. -/
theorem setOf_told_by_members_sample :
    (∃ v, Value.setOf [numbersSample.value, truthsSample.value, emptySample.value,
        numbersSample.value] = .ok v ∧
      Value.setOf [truthsSample.value, numbersSample.value, emptySample.value] = .ok v) ∧
    ¬∃ v, Value.setOf [numbersSample.value, .integer 1] = .ok v := by
  have canonical (A : CanonicalSet) : A.value.Canonical := A.canonical
  obtain ⟨first, -, same⟩ := @setOf_told_by_members
    [numbersSample.value, truthsSample.value, emptySample.value, numbersSample.value]
    (by simp [canonical])
  obtain ⟨second, -⟩ := @setOf_told_by_members
    [truthsSample.value, numbersSample.value, emptySample.value] (by simp [canonical])
  obtain ⟨mixed, -⟩ := @setOf_told_by_members [numbersSample.value, .integer 1]
    (by simp [canonical, Value.Canonical.integer])
  obtain ⟨v, built⟩ := first.mpr (by decide)
  obtain ⟨w, built'⟩ := second.mpr (by decide)
  obtain rfl := (same _ (by simp [canonical]) v w built built').mpr (by grind)
  exact ⟨⟨v, built, built'⟩, fun built => absurd (mixed.mp built) (by decide)⟩

end PiecewiseLang
