import PiecewiseLang.Proofs.Value.Canonical

/-! How the operations on values fail. The tables they look into have an entry for every
symbol an operation is reached by and for every kind that a canonical set can hold, so on
canonical operands an operation fails because of the operands and never because of a table. -/
namespace PiecewiseLang

/-- What a computation fails with, if it fails, is as described. -/
def Fails (F : ε → Prop) (x : Except ε α) : Prop := ∀ e, x = .error e → F e

namespace Fails

variable {α β ε : Type} {F : ε → Prop} {e : ε}

theorem ok (a : α) : Fails F (.ok a) := nofun

theorem error (holds : F e) : Fails F (.error e : Except ε α) := by
  intro other same
  cases same
  exact holds

theorem bind {x : Except ε α} {next : α → Except ε β} (first : Fails F x)
    (rest : ∀ a, x = .ok a → Fails F (next a)) : Fails F (x >>= next) := by
  cases x with
  | error e => exact error (first e rfl)
  | ok a => exact rest a rfl

theorem foldlM {step : α → β → Except ε α} (steps : ∀ a b, Fails F (step a b)) (items : List β)
    (a : α) : Fails F (items.foldlM step a) := by
  induction items generalizing a with
  | nil => exact ok a
  | cons b items ih =>
    rw [List.foldlM_cons]
    exact (steps a b).bind fun a' _ => ih a'

end Fails

/-- A property of lists that the head has or passes on to the rest is the property of one item,
after items that pass it on. -/
theorem first_of_cons {P : List α → Prop} {here passes : α → Prop} (nil : ¬P [])
    (cons : ∀ a rest, P (a :: rest) ↔ here a ∨ passes a ∧ P rest) (items : List α) :
    P items ↔ ∃ before a after, items = before ++ a :: after ∧ (∀ b ∈ before, passes b) ∧ here a := by
  induction items with
  | nil => simp [nil]
  | cons a rest ih =>
    rw [cons, ih]
    constructor
    · rintro (holds | ⟨passed, before, b, after, rfl, earlier, holds⟩)
      · exact ⟨[], a, rest, rfl, List.forall_mem_nil _, holds⟩
      · exact ⟨a :: before, b, after, rfl, List.forall_mem_cons.mpr ⟨passed, earlier⟩, holds⟩
    · rintro ⟨_ | ⟨b, before⟩, c, after, split, earlier, holds⟩
      · cases split
        exact .inl holds
      · cases split
        obtain ⟨passed, earlier⟩ := List.forall_mem_cons.mp earlier
        exact .inr ⟨passed, before, c, after, rfl, earlier, holds⟩

/-- The errors that the operations on values have, as opposed to evaluation itself. -/
def EvalError.isOperational : EvalError → Bool
  | .operandKinds .. | .setKinds .. | .negativeFactorial _ | .magnitudeKind _ => true
  | .unknownDomain _ | .castKind .. | .undefinedMember | .memberKind _ => true
  | .mixedMembers .. | .membershipKind .. | .builtinArgument .. | .builtinMembers .. => true
  | _ => false

/-- The failures that the operations on values have. An entry of a table is missing only if
`unranked` holds. -/
def EvalFailure.Operational (unranked : Prop) : EvalFailure → Prop
  | .error e => e.isOperational = true
  | .fault .missingEntry => unranked
  | .fault .unevenCall | .fault .overlongLimit | .fault .overdeepValue => False
  | .fault _ => True

namespace Fails

open EvalFailure (Operational)

theorem operational {α : Type} {x : Except EvalError α}
    (given : Fails (fun e => e.isOperational = true) x) :
    Fails (Operational unranked) (EvalFailure.ofExcept x) := by
  cases x with
  | error e =>
    apply Fails.error
    exact given e rfl
  | ok a => exact ok a

theorem weaken {x : Except EvalFailure α} (given : Fails (Operational first) x)
    (implies : first → second) : Fails (Operational second) x := by
  intro f failed
  have holds := given f failed
  match f with
  | .error _ => exact holds
  | .fault .missingEntry => exact implies holds
  | .fault .overlongInteger | .fault .malformedNumeral | .fault .oversizedFactorial => trivial

end Fails

namespace Value

open EvalFailure (Operational)

theorem allRanked_iff : allRanked values = true ↔ ∀ v ∈ values, v.isRanked = true := by
  induction values with
  | nil => simp [allRanked]
  | cons v values ih => simp [allRanked, ih]

theorem Canonical.ranked (canonical : Canonical v) (member : v.kind.canBeMember = true) :
    v.isRanked = true := by
  induction canonical with
  | set _ isSet ih =>
    rw [isRanked, allRanked_iff]
    intro m inside
    exact ih m inside (isSet.kinds m inside).2
  | _ => exact member

end Value

namespace Collection

open EvalFailure (Operational)

theorem add_fails (c : Collection) (x : Value) :
    Fails (fun e => e.isOperational = true) (c.add x) := by
  unfold add
  split
  · exact .error rfl
  · split
    · exact .error rfl
    · split
      · exact .ok _
      · split
        · exact .ok _
        · exact .error rfl

/-- Every member of a collection of canonical values has a rank. -/
theorem Keeps.allRanked {c : Collection} (kept : c.Keeps Value.Canonical) :
    Value.allRanked c.members = true := by
  rw [Value.allRanked_iff]
  intro m member
  exact (kept.1 m member).ranked (kept.2.kinds m member).2

theorem toValue_fails (c : Collection) :
    Fails (Operational ¬c.Keeps Value.Canonical) c.toValue := by
  unfold toValue
  split
  · exact .ok _
  case isFalse unranked =>
    apply Fails.error
    exact fun kept => unranked kept.allRanked

end Collection

namespace Value

open EvalFailure (Operational)

theorem setOf_fails (values : List Value) :
    Fails (Operational ¬∀ m ∈ values, Canonical m) (setOf values) := by
  refine (Fails.foldlM Collection.add_fails _ _).operational.bind fun c done => ?_
  refine (Collection.toValue_fails c).weaken fun lost members => lost ?_
  exact (Collection.collect_keeps members).ofExcept c done

theorem arithmetic_fails (symbol : Symbol) (onInts : Int → Int → Value)
    (onReals : Binary64 → Binary64 → Double) (left right : Value) :
    Fails (fun e => e.isOperational = true) (arithmetic symbol onInts onReals left right) := by
  unfold arithmetic
  split
  · exact .ok _
  · exact .ok _
  · exact .ok _
  · split
    · split <;> exact .ok _
    · exact .error rfl

theorem plusMinus_fails (left right : Value) :
    Fails (Operational False) (plusMinus left right) := by
  unfold plusMinus
  split
  · exact .ok _
  · exact .ok _
  · split
    · refine (arithmetic_fails _ _ _ _ _).operational.bind fun sum first => ?_
      refine (arithmetic_fails _ _ _ _ _).operational.bind fun difference second => ?_
      split
      · exact .ok _
      · have sumCanonical := (canonical_closed.add left right).ofExcept sum first
        have differenceCanonical := (canonical_closed.subtract left right).ofExcept _ second
        refine (setOf_fails _).weaken fun other => other ?_
        simp [sumCanonical, differenceCanonical]
    · exact .error rfl

theorem negate_fails (value : Value) : Fails (fun e => e.isOperational = true) (negate value) := by
  unfold negate
  split
  case h_5 => exact .error rfl
  all_goals exact .ok _

theorem magnitude_fails (value : Value) :
    Fails (fun e => e.isOperational = true) (magnitude value) := by
  unfold magnitude
  split
  case h_6 => exact .error rfl
  all_goals exact .ok _

theorem factorial_fails (value : Value) : Fails (Operational False) (factorial value) := by
  unfold factorial
  split
  · exact .ok _
  · split
    · split
      · exact .error rfl
      · exact .error trivial
    · split
      · exact .error trivial
      · exact .ok _
  · exact .error rfl

theorem requireCompatible_fails (symbol : Symbol) (k l : Option Kind) :
    Fails (fun e => e.isOperational = true) (requireCompatible symbol k l) := by
  unfold requireCompatible
  split
  · split
    · exact .ok _
    · exact .error rfl
  · exact .ok _

/-- A comparison fails on its operands only, if its symbol is in the table. -/
theorem compare_fails (found : Comparison.ofSymbol symbol = .ok comparison)
    (left right : Value) : Fails (Operational False) (compare symbol left right) := by
  unfold compare
  split
  · exact .ok _
  · exact .ok _
  · apply Fails.operational
    unfold compareBooleans
    split
    · exact .ok _
    · exact .ok _
    · exact .error rfl
  · rw [found]
    exact (requireCompatible_fails _ _ _).operational.bind fun _ _ => .ok _
  · split
    · rw [found]
      exact .ok _
    · exact .error rfl

theorem connect_fails (found : Connective.ofSymbol symbol = .ok connective)
    (left right : Value) : Fails (Operational False) (connect symbol left right) := by
  unfold connect
  split
  · exact .ok _
  · exact .ok _
  · rw [found]
    exact .ok _
  · exact .error rfl

theorem not_fails (value : Value) : Fails (fun e => e.isOperational = true) (not value) := by
  unfold not
  split
  case h_3 => exact .error rfl
  all_goals exact .ok _

theorem contains_fails (element container : Value) :
    Fails (fun e => e.isOperational = true) (contains element container) := by
  unfold contains
  split
  · exact .ok _
  · split
    · exact .ok _
    · split
      · exact .ok _
      · split
        · exact .ok _
        · exact .error rfl
  · exact .error rfl

theorem setAlgebra_fails (operation : SetOperation) (left right : Value) :
    Fails (Operational ¬(left.Canonical ∧ right.Canonical)) (setAlgebra operation left right) := by
  unfold setAlgebra
  split
  · exact .ok _
  · exact .ok _
  · refine (requireCompatible_fails _ _ _).operational.bind fun _ _ => ?_
    refine (setOf_fails _).weaken fun lost canonical => lost ?_
    intro m member
    rcases mem_combine member with member | member
    · exact canonical_closed.members canonical.1 m member
    · exact canonical_closed.members canonical.2 m member
  · exact .error rfl

theorem cast_fails (value : Value) (name : String) :
    Fails (fun e => e.isOperational = true) (value.cast name) := by
  unfold cast
  split
  · exact .error rfl
  · split
    case h_5 => exact .error rfl
    all_goals exact .ok _

end Value

open EvalFailure (Operational)

theorem Builtin.apply_fails (function : Builtin) (argument : Value) :
    Fails (fun e => e.isOperational = true) (function.apply argument) := by
  unfold apply
  split
  · exact .ok _
  · split
    · exact .error rfl
    · cases function with
      | max => exact .ok _
      | min => exact .ok _
      | sum => exact Fails.foldlM (Value.arithmetic_fails _ _ _) _ _
      | product => exact Fails.foldlM (Value.arithmetic_fails _ _ _) _ _
  · exact .error rfl

namespace Symbol

variable {symbol : Symbol}

/-- Every symbol that comparisons and connectives are reached by is in their tables. -/
theorem infixOperation_fails (found : symbol.infixOperation? = some operation)
    (left right : Value) :
    Fails (Operational ¬(left.Canonical ∧ right.Canonical)) (operation left right) := by
  cases symbol with
  | add | sub | mul | div | mod | pow =>
    cases found
    exact (Value.arithmetic_fails _ _ _ left right).operational
  | plusMinus | minusPlus =>
    cases found
    exact (Value.plusMinus_fails left right).weaken False.elim
  | eq | ne | lt | le | gt | ge =>
    cases found
    exact (Value.compare_fails rfl left right).weaken False.elim
  | and | or | xor =>
    cases found
    exact (Value.connect_fails rfl left right).weaken False.elim
  | coalesce => cases found; exact .ok _
  | mem => cases found; exact (Value.contains_fails left right).operational
  | union | intersection | difference | symmetricDifference =>
    cases found
    exact Value.setAlgebra_fails _ left right
  | not | cast | factorial | call => cases found

theorem prefixOperation_fails (found : symbol.prefixOperation? = some operation)
    (value : Value) : Fails (fun e => e.isOperational = true) (operation value) := by
  cases symbol <;> cases found
  · exact Value.negate_fails value
  · exact Value.not_fails value

theorem postfixOperation_fails (found : symbol.postfixOperation? = some operation)
    (value : Value) : Fails (Operational False) (operation value) := by
  cases symbol <;> cases found
  exact Value.factorial_fails value

end Symbol

end PiecewiseLang
