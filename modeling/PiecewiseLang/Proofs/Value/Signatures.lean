import PiecewiseLang.Proofs.Value.Algebra

/-! Which operands an operator between two refuses. It looks at the kinds of the operands and, of
sets, at the kinds of their members, and at nothing else: once these are accepted, whatever goes
wrong with the numbers themselves makes the result undefined and is no failure. -/
namespace PiecewiseLang

/-- What an operator can refuse a value for: its kind and, of a set, the kind of its members. -/
structure Signature where
  kind : Kind
  elementKind : Option Kind
deriving DecidableEq

namespace Value

def elementKind? : Value → Option Kind
  | .set elementKind _ => elementKind
  | _ => none

def signature (v : Value) : Signature := ⟨v.kind, v.elementKind?⟩

end Value

namespace Signature

/-- The error of an operator on operands of kinds that it does not take. -/
def refuse (symbol : Symbol) (a b : Signature) : Except EvalError Unit :=
  .error (.operandKinds symbol [a.kind, b.kind])

def numbers (symbol : Symbol) (a b : Signature) : Except EvalError Unit :=
  match a.kind, b.kind with
  | .integer, .integer | .integer, .real | .real, .integer | .real, .real => .ok ()
  | _, _ => refuse symbol a b

def truths (symbol : Symbol) (a b : Signature) : Except EvalError Unit :=
  match a.kind, b.kind with
  | .boolean, .boolean => .ok ()
  | _, _ => refuse symbol a b

/-- Sets are also asked to go together. -/
def sets (symbol : Symbol) (a b : Signature) : Except EvalError Unit :=
  match a.kind, b.kind with
  | .set, .set => Value.requireCompatible symbol a.elementKind b.elementKind
  | _, _ => refuse symbol a b

/-- Truth values can be equal or different; they have no order. -/
def comparable (symbol : Symbol) (a b : Signature) : Except EvalError Unit :=
  match a.kind, b.kind with
  | .boolean, .boolean => if symbol = .eq ∨ symbol = .ne then .ok () else refuse symbol a b
  | .set, .set => sets symbol a b
  | _, _ => numbers symbol a b

/-- An undefined operand is accepted, whatever the other one is. -/
def orUndefined (check : Signature → Signature → Except EvalError Unit) (a b : Signature) :
    Except EvalError Unit :=
  match a.kind, b.kind with
  | .undefined, _ | _, .undefined => .ok ()
  | _, _ => check a b

def member (element container : Signature) : Except EvalError Unit :=
  match container.kind with
  | .undefined => .ok ()
  | .set =>
    match container.elementKind with
    | none => .ok ()
    | some kind =>
      if element.kind = .undefined ∨ element.kind = kind then .ok ()
      else .error (.membershipKind element.kind kind)
  | _ => refuse .mem element container

end Signature

open Signature in
/-- What an operator says about the signatures of its operands. The operators for both signs
have one name in errors. -/
def Symbol.check (symbol : Symbol) : Signature → Signature → Except EvalError Unit :=
  match symbol with
  | .plusMinus | .minusPlus => orUndefined (numbers .plusMinus)
  | .eq | .ne | .lt | .le | .gt | .ge => orUndefined (comparable symbol)
  | .and | .or | .xor => orUndefined (truths symbol)
  | .union | .intersection | .difference | .symmetricDifference => orUndefined (sets symbol)
  | .mem => member
  | .coalesce => fun _ _ => .ok ()
  | _ => orUndefined (numbers symbol)

theorem EvalError.operational_family (e : EvalError) (operational : e.isOperational = true) :
    e.family ∈ [.operator, .valueKind] := by
  cases e <;> simp_all [isOperational, family]

/-- A computation fails exactly with the error of a check. -/
def FailsBy (check : Except EvalError Unit) (x : Except EvalFailure α) : Prop :=
  ∀ failure, x = .error failure ↔ ∃ e, failure = .error e ∧ check = .error e

namespace FailsBy

variable {check : Except EvalError Unit}

theorem ok (a : α) : FailsBy (.ok ()) (.ok a) := fun _ => by simp

theorem error (e : EvalError) : FailsBy (.error e) (.error (.error e) : Except EvalFailure α) :=
  fun failure => by simp [eq_comm]

theorem of_ok {x : Except EvalFailure α} (done : ∃ a, x = .ok a) : FailsBy (.ok ()) x := by
  obtain ⟨a, rfl⟩ := done
  exact ok a

/-- What comes after a check that was passed must not fail. -/
theorem bind {next : Unit → Except EvalFailure α}
    (rest : check = .ok () → ∃ a, next () = .ok a) :
    FailsBy check (EvalFailure.ofExcept check >>= next) := by
  cases check with
  | error e => exact error e
  | ok => exact of_ok (rest rfl)

theorem exists_iff {x : Except EvalFailure α} (fails : FailsBy check x) :
    (∃ failure, x = .error failure) ↔ ∃ e, check = .error e := by
  constructor
  · rintro ⟨failure, failed⟩
    obtain ⟨e, -, refused⟩ := (fails failure).mp failed
    exact ⟨e, refused⟩
  · rintro ⟨e, refused⟩
    exact ⟨.error e, (fails _).mpr ⟨e, rfl, refused⟩⟩

end FailsBy

namespace Value

open Signature (orUndefined)

variable {a b : Value} {symbol : Symbol}

theorem signature_number (number : a.isNumber = true) :
    a.signature = ⟨.integer, none⟩ ∨ a.signature = ⟨.real, none⟩ := by
  cases a with
  | integer => exact .inl rfl
  | real => exact .inr rfl
  | _ => cases number

theorem arithmetic_numbers (onInts : Int → Int → Value) (onReals : Binary64 → Binary64 → Double)
    (left : a.isNumber = true) (right : b.isNumber = true) :
    ∃ v, EvalFailure.ofExcept (arithmetic symbol onInts onReals a b) = .ok v := by
  unfold arithmetic
  split
  · exact ⟨_, rfl⟩
  · exact ⟨_, rfl⟩
  · exact ⟨_, rfl⟩
  · rw [left, right]
    dsimp
    split <;> exact ⟨_, rfl⟩

theorem arithmetic_failsBy (onInts : Int → Int → Value) (onReals : Binary64 → Binary64 → Double) :
    FailsBy (orUndefined (Signature.numbers symbol) a.signature b.signature)
      (EvalFailure.ofExcept (arithmetic symbol onInts onReals a b)) := by
  cases a with
  | undefined => exact .ok _
  | integer | real =>
    cases b with
    | undefined => exact .ok _
    | integer | real => exact .of_ok (arithmetic_numbers _ _ rfl rfl)
    | _ => exact .error _
  | _ =>
    cases b with
    | undefined => exact .ok _
    | _ => exact .error _

/-- The kind of the results that two numbers have, where they have one. -/
def resultKind (a b : Value) : Kind :=
  if a.kind = .integer ∧ b.kind = .integer then .integer else .real

theorem ofDouble_kind (x : Double) : ofDouble x = .undefined ∨ (ofDouble x).kind = .real := by
  cases x with
  | finite => exact .inr rfl
  | _ => exact .inl rfl

theorem arithmetic_kind {onInts : Int → Int → Value} {onReals : Binary64 → Binary64 → Double}
    (ints : ∀ m n, (onInts m n).kind = .integer) :
    Gives (fun v => v = .undefined ∨ v.kind = resultKind a b)
      (arithmetic symbol onInts onReals a b) := by
  unfold arithmetic
  split
  · exact .ok (.inl rfl)
  · exact .ok (.inl rfl)
  · exact .ok (.inr (ints _ _))
  case h_4 mixed =>
    have real : resultKind a b = .real := by
      cases a <;> cases b <;> first | rfl | exact (mixed _ _ rfl rfl).elim
    split
    · split
      · rw [real]
        exact .ok (ofDouble_kind _)
      · exact .ok (.inl rfl)
    · exact .error _

/-- The sum and the difference of two numbers are of one kind or one of them is undefined. -/
theorem plusMinus_numbers (left : a.isNumber = true) (right : b.isNumber = true) :
    ∃ v, plusMinus a b = .ok v := by
  obtain ⟨sum, added⟩ : ∃ v, EvalFailure.ofExcept (add a b) = .ok v :=
    arithmetic_numbers _ _ left right
  obtain ⟨difference, subtracted⟩ : ∃ v, EvalFailure.ofExcept (subtract a b) = .ok v :=
    arithmetic_numbers _ _ left right
  unfold plusMinus
  split
  · exact ⟨_, rfl⟩
  · exact ⟨_, rfl⟩
  rw [left, right, added, subtracted]
  simp only [Bool.and_self, if_true, bind, Except.bind]
  split
  · exact ⟨_, rfl⟩
  case isFalse defined =>
    -- Two integers give integers and any other two numbers reals, so a set can hold both results.
    simp only [Bool.or_eq_true, decide_eq_true_eq, not_or] at defined
    have sumKind : sum.kind = resultKind a b :=
      ((arithmetic_kind fun _ _ => rfl).ofExcept sum added).resolve_left defined.1
    have differenceKind : difference.kind = resultKind a b :=
      ((arithmetic_kind fun _ _ => rfl).ofExcept difference subtracted).resolve_left defined.2
    have allowed : (resultKind a b).canBeMember = true := by
      unfold resultKind
      split <;> rfl
    have canonical : ∀ v ∈ [sum, difference], v.Canonical := by
      simp [(canonical_closed.add a b).ofExcept sum added,
        (canonical_closed.subtract a b).ofExcept difference subtracted]
    have all : AllOf (resultKind a b) [sum, difference] := by
      simp [AllOf, sumKind, differenceKind, allowed]
    obtain ⟨A, built, -⟩ := exists_setOf canonical all
    exact ⟨A.value, built⟩

theorem plusMinus_failsBy : FailsBy
    (orUndefined (Signature.numbers .plusMinus) a.signature b.signature) (plusMinus a b) := by
  cases a with
  | undefined => exact .ok _
  | integer | real =>
    cases b with
    | undefined => exact .ok _
    | integer | real => exact .of_ok (plusMinus_numbers rfl rfl)
    | _ => exact .error _
  | _ =>
    cases b with
    | undefined => exact .ok _
    | _ => exact .error _

theorem connect_failsBy (found : Connective.ofSymbol symbol = .ok connective) :
    FailsBy (orUndefined (Signature.truths symbol) a.signature b.signature)
      (connect symbol a b) := by
  cases a with
  | undefined => exact .ok _
  | boolean =>
    cases b with
    | undefined => exact .ok _
    | boolean =>
      rw [connect, found]
      exact .ok _
    | _ => exact .error _
  | _ =>
    cases b with
    | undefined => exact .ok _
    | _ => exact .error _

theorem compareBooleans_failsBy (p q : Bool) :
    FailsBy (Signature.comparable symbol (boolean p).signature (boolean q).signature)
      (EvalFailure.ofExcept (compareBooleans symbol p q)) := by
  cases symbol with
  | eq | ne => exact .ok _
  | _ => exact .error _

theorem compare_failsBy (found : Comparison.ofSymbol symbol = .ok comparison) :
    FailsBy (orUndefined (Signature.comparable symbol) a.signature b.signature)
      (compare symbol a b) := by
  cases a with
  | undefined => exact .ok _
  | integer | real =>
    cases b with
    | undefined => exact .ok _
    | integer | real =>
      rw [compare, found]
      · exact .ok _
      all_goals nofun
    | _ => exact .error _
  | boolean =>
    cases b with
    | undefined => exact .ok _
    | boolean => exact compareBooleans_failsBy _ _
    | _ => exact .error _
  | set =>
    cases b with
    | undefined => exact .ok _
    | set =>
      rw [compare, found]
      exact .bind fun _ => ⟨_, rfl⟩
    | _ => exact .error _
  | _ =>
    cases b with
    | undefined => exact .ok _
    | _ => exact .error _

theorem contains_failsBy :
    FailsBy (Signature.member a.signature b.signature) (EvalFailure.ofExcept (contains a b)) := by
  cases b with
  | undefined => exact .ok _
  | set elementKind members =>
    cases elementKind with
    | none =>
      simp only [contains]
      split <;> exact .ok _
    | some kind =>
      simp only [contains]
      change FailsBy (if a.kind = .undefined ∨ a.kind = kind then _ else _) _
      by_cases undefined : a.kind = .undefined
      · rw [if_pos undefined, if_pos (.inl undefined)]
        exact .ok _
      · simp only [undefined, false_or, if_false]
        split
        · exact .ok _
        · exact .error _
  | _ => exact .error _

theorem exists_suits_of_requireCompatible {k l : Option Kind}
    (compatible : requireCompatible symbol k l = .ok ()) :
    ∃ kind : Kind, kind.Suits k ∧ kind.Suits l := by
  cases k with
  | none =>
    obtain ⟨kind, suits⟩ := Kind.exists_suits l
    exact ⟨kind, .inl rfl, suits⟩
  | some k =>
    cases l with
    | none => exact ⟨k, .inr rfl, .inl rfl⟩
    | some l =>
      rw [requireCompatible] at compatible
      split at compatible
      case isTrue same => exact ⟨k, .inr rfl, .inr (same ▸ rfl)⟩
      · cases compatible

theorem setAlgebra_failsBy (operation : SetOperation) (left : a.Canonical) (right : b.Canonical) :
    FailsBy (orUndefined (Signature.sets operation.symbol) a.signature b.signature)
      (setAlgebra operation a b) := by
  cases a with
  | undefined => exact .ok _
  | set k as =>
    cases b with
    | undefined => exact .ok _
    | set l bs =>
      refine .bind fun compatible => ?_
      change requireCompatible operation.symbol k l = .ok () at compatible
      obtain ⟨kind, suits, suits'⟩ := exists_suits_of_requireCompatible compatible
      obtain ⟨R, combined, -⟩ := CanonicalSet.setAlgebra_ok (A := ⟨k, as, left⟩)
        (B := ⟨l, bs, right⟩) operation suits suits'
      rw [CanonicalSet.value, CanonicalSet.value, setAlgebra, compatible] at combined
      exact ⟨R.value, combined⟩
    | _ => exact .error _
  | _ =>
    cases b with
    | undefined => exact .ok _
    | _ => exact .error _

end Value

namespace Symbol

variable {symbol : Symbol} {a b : Value}

theorem infixOperation_failsBy (found : symbol.infixOperation? = some operation)
    (left : a.Canonical) (right : b.Canonical) :
    FailsBy (symbol.check a.signature b.signature) (operation a b) := by
  cases symbol with
  | add | sub | mul | div | mod | pow =>
    cases found
    exact Value.arithmetic_failsBy _ _
  | plusMinus | minusPlus =>
    cases found
    exact Value.plusMinus_failsBy
  | eq | ne | lt | le | gt | ge =>
    cases found
    exact Value.compare_failsBy rfl
  | and | or | xor =>
    cases found
    exact Value.connect_failsBy rfl
  | coalesce =>
    cases found
    exact .ok _
  | mem =>
    cases found
    exact Value.contains_failsBy
  | union | intersection | difference | symmetricDifference =>
    cases found
    exact Value.setAlgebra_failsBy _ left right
  | not | cast | factorial | call => cases found

open Signature

theorem check_undefined {s t : Signature} (undefined : s.kind = .undefined ∨ t.kind = .undefined) :
    (∃ e, symbol.check s t = .error e) ↔
      symbol = .mem ∧ t.kind ≠ .set ∧ t.kind ≠ .undefined := by
  have accepted (check : Signature → Signature → Except EvalError Unit) :
      orUndefined check s t = .ok () := by
    unfold orUndefined
    split <;> simp_all
  cases symbol with
  | mem =>
    simp only [check, member, true_and]
    split
    case h_1 none => simp [none]
    case h_2 set =>
      have element : s.kind = .undefined := by simpa [set] using undefined
      split <;> simp [set, element]
    case h_3 defined other =>
      exact iff_of_true ⟨_, rfl⟩ ⟨other, defined⟩
  | coalesce => simp [check]
  | _ => simp [check, accepted]

theorem check_numbers (left : a.isNumber = true) (right : b.isNumber = true) :
    (∃ e, symbol.check a.signature b.signature = .error e) ↔ symbol ∈ [.and, .or, .xor, .mem,
      .union, .intersection, .difference, .symmetricDifference] := by
  have first := Value.signature_number left
  have second := Value.signature_number right
  cases symbol with
  | and | or | xor | mem | union | intersection | difference | symmetricDifference =>
    refine iff_of_true ?_ (by decide)
    rcases first with first | first <;> rcases second with second | second <;>
      exact ⟨_, by rw [first, second]; rfl⟩
  | _ =>
    refine iff_of_false ?_ (by decide)
    rintro ⟨e, refused⟩
    rcases first with first | first <;> rcases second with second | second <;>
      (rw [first, second] at refused; cases refused)

end Symbol

/-- An operator between two values fails because of their signatures alone: on values with the
same signatures it fails alike and with the same error, which is one of the language. An undefined
value is refused nowhere, except that nothing but a set has members; and numbers are refused by
the operators for truth values and for sets, whatever numbers they are. -/
theorem infix_failures_told_by_signatures {symbol : Symbol}
    (found : symbol.infixOperation? = some operation) :
    (∀ a b a' b' : Value, a.Canonical → b.Canonical → a'.Canonical → b'.Canonical →
      a.signature = a'.signature → b.signature = b'.signature →
      ∀ failure, operation a b = .error failure ↔ operation a' b' = .error failure) ∧
    (∀ a b : Value, a.Canonical → b.Canonical → ∀ failure, operation a b = .error failure →
      ∃ e, failure = .error e ∧ e.family ∈ [.operator, .valueKind]) ∧
    (∀ a b : Value, a.Canonical → b.Canonical → a = .undefined ∨ b = .undefined →
      ((∃ failure, operation a b = .error failure) ↔
        symbol = .mem ∧ b.kind ≠ .set ∧ b.kind ≠ .undefined)) ∧
    ∀ a b : Value, a.Canonical → b.Canonical → a.isNumber = true → b.isNumber = true →
      ((∃ failure, operation a b = .error failure) ↔ symbol ∈ [.and, .or, .xor, .mem,
        .union, .intersection, .difference, .symmetricDifference]) := by
  have told {a b : Value} (left : a.Canonical) (right : b.Canonical) :=
    Symbol.infixOperation_failsBy found left right
  refine ⟨?_, ?_, ?_, ?_⟩
  · intro a b a' b' left right left' right' first second failure
    rw [told left right failure, told left' right' failure, first, second]
  · intro a b left right failure failed
    obtain ⟨e, rfl, -⟩ := (told left right failure).mp failed
    exact ⟨e, rfl, e.operational_family (Symbol.infixOperation_fails found a b _ failed)⟩
  · intro a b left right undefined
    refine (told left right).exists_iff.trans (Symbol.check_undefined ?_)
    exact undefined.imp (congrArg Value.kind) (congrArg Value.kind)
  · intro a b left right first second
    exact (told left right).exists_iff.trans (Symbol.check_numbers first second)

/-- An integer that no real is near to. -/
def hugeSample : Int := Int.ofNat (1 <<< 2000)

/-- Powers are refused for no integers, neither for zero and a negative one nor for huge ones. An
integer of any size is refused as a member of a set of truth values, and what is undefined as a
member of a number. -/
theorem infix_failures_told_by_signatures_sample :
    (¬∃ failure, Symbol.plain Value.power (.integer 0) (.integer (-1)) = .error failure) ∧
    (¬∃ failure, Symbol.plain Value.power (.integer hugeSample) (.integer hugeSample) =
      .error failure) ∧
    Symbol.plain Value.contains (.integer hugeSample) truthsSample.value =
      .error (.error (.membershipKind .integer .boolean)) ∧
    ∃ failure, Symbol.plain Value.contains .undefined (.integer 1) = .error failure := by
  obtain ⟨-, -, -, powers⟩ := infix_failures_told_by_signatures
    (rfl : Symbol.pow.infixOperation? = some _)
  obtain ⟨alike, -, undefined, -⟩ := infix_failures_told_by_signatures
    (rfl : Symbol.mem.infixOperation? = some _)
  refine ⟨?_, ?_, ?_, ?_⟩
  · rw [powers _ _ .integer .integer rfl rfl]
    decide
  · rw [powers _ _ .integer .integer rfl rfl]
    decide
  · exact (alike (.integer 0) _ _ _ .integer truthsSample.canonical .integer
      truthsSample.canonical rfl rfl _).mp rfl
  · exact (undefined _ _ .undefined .integer (.inl rfl)).mpr (by decide)

end PiecewiseLang
