import PiecewiseLang.Proofs.Value.Order
import PiecewiseLang.Value.Builtins
import PiecewiseLang.Value.Operations

/-! Canonical values: reals are finite and there is one zero, and sets list their members in
strictly ascending order with the kind that all of them have. The operations are looked at
once, for every property of values that numbers, truth values and the undefined value have,
and that a set in canonical form has when its members have it; to be canonical is one such
property. -/
namespace PiecewiseLang

/-- What a computation results in, if it has a result, is as described. -/
def Gives (P : α → Prop) (x : Except ε α) : Prop := ∀ a, x = .ok a → P a

namespace Gives

variable {α β ε : Type} {P : α → Prop} {Q : β → Prop} {a : α}

theorem ok (holds : P a) : Gives P (.ok a : Except ε α) := by
  intro b same
  cases same
  exact holds

theorem error (e : ε) : Gives P (.error e : Except ε α) := nofun

theorem bind {x : Except ε α} {next : α → Except ε β} (first : Gives P x)
    (rest : ∀ a, P a → Gives Q (next a)) : Gives Q (x >>= next) := by
  cases x with
  | error e => exact error e
  | ok a => exact rest a (first a rfl)

/-- Whatever the first computation results in, the second one gives what is described. -/
theorem after {x : Except ε α} {next : α → Except ε β} (rest : ∀ a, Gives Q (next a)) :
    Gives Q (x >>= next) := by
  cases x with
  | error e => exact error e
  | ok a => exact rest a

theorem ofExcept {x : Except EvalError α} (given : Gives P x) :
    Gives P (EvalFailure.ofExcept x) := by
  cases x with
  | error e => exact error _
  | ok a => exact ok (given a rfl)

/-- What every step keeps holds after the last one. -/
theorem foldlM {step : α → β → Except ε α} {items : List β} (start : P a)
    (keeps : ∀ a, P a → ∀ b ∈ items, Gives P (step a b)) : Gives P (items.foldlM step a) := by
  induction items generalizing a with
  | nil => exact ok start
  | cons b items ih =>
    rw [List.foldlM_cons]
    refine (keeps a start b (List.mem_cons_self ..)).bind fun a' holds => ?_
    exact ih holds fun a holds b member => keeps a holds b (List.mem_cons_of_mem _ member)

end Gives

/-- Whether a number is the zero with the sign that values do not have. -/
def Binary64.isNegativeZero (x : Binary64) : Bool := x.negative && x.isZero

/-- Whether a kind can be the one that is recorded for a set, which has none if it is empty. -/
def Kind.Suits (kind : Kind) (elementKind : Option Kind) : Prop :=
  elementKind = none ∨ elementKind = some kind

instance (kind : Kind) (elementKind : Option Kind) : Decidable (kind.Suits elementKind) :=
  inferInstanceAs (Decidable (_ ∨ _))

theorem Kind.exists_suits (elementKind : Option Kind) : ∃ kind : Kind, kind.Suits elementKind := by
  cases elementKind with
  | none => exact ⟨.integer, .inl rfl⟩
  | some kind => exact ⟨kind, .inr rfl⟩

/-- The members ascend strictly and have one kind, which is recorded unless there are none. -/
structure Collection.IsSet (c : Collection) : Prop where
  empty : c.elementKind = none ↔ c.members = []
  kinds : ∀ m ∈ c.members, c.elementKind = some m.kind ∧ m.kind.canBeMember = true
  ascending : Value.Ascending c.members

/-- A property of values that every operation keeps. -/
structure Value.Closed (V : Value → Prop) : Prop where
  integer (n : Int) : V (.integer n)
  real (x : Binary64) : x.isNegativeZero = false → V (.real (.finite x))
  boolean (b : Bool) : V (.boolean b)
  undefined : V .undefined
  members {kind : Option Kind} {members : List Value} : V (.set kind members) →
    ∀ m ∈ members, V m
  set {kind : Option Kind} {members : List Value} : (∀ m ∈ members, V m) →
    Collection.IsSet ⟨kind, members⟩ → V (.set kind members)

namespace Collection

variable {V : Value → Prop} {c d : Collection} {x : Value}

/-- A collection of members with a property that is on the way to a canonical set. -/
def Keeps (V : Value → Prop) (c : Collection) : Prop := (∀ m ∈ c.members, V m) ∧ c.IsSet

theorem empty_keeps : empty.Keeps V :=
  ⟨nofun, ⟨⟨fun _ => rfl, fun _ => rfl⟩, nofun, .nil⟩⟩

/-- The collection of members of one kind. -/
def ofMembers (members : List Value) : Collection := ⟨members.head?.map Value.kind, members⟩

theorem IsSet.eq_ofMembers {members : List Value} (isSet : IsSet ⟨kind, members⟩) :
    ofMembers members = ⟨kind, members⟩ := by
  cases members with
  | nil =>
    obtain rfl : kind = none := isSet.empty.mpr rfl
    rfl
  | cons m members =>
    obtain rfl : kind = some m.kind := (isSet.kinds m (List.mem_cons_self ..)).1
    rfl

theorem toValue_cases (finished : toValue c = .ok v) :
    v = .set c.elementKind c.members ∧ Value.allRanked c.members = true := by
  unfold toValue at finished
  split at finished
  case isTrue ranked =>
    cases finished
    exact ⟨rfl, ranked⟩
  case isFalse => cases finished

theorem toValue_keeps (closed : Value.Closed V) (kept : c.Keeps V) : Gives V c.toValue := by
  intro v finished
  obtain ⟨rfl, -⟩ := toValue_cases finished
  exact closed.set kept.1 kept.2

theorem add_cases (added : add c x = .ok d) : x.kind.canBeMember = true ∧
    x.kind.Suits c.elementKind ∧ d = ⟨some x.kind, x.insert c.members⟩ := by
  unfold add at added
  split at added
  · cases added
  · split at added
    · cases added
    case isFalse allowed =>
      have allowed : x.kind.canBeMember = true := by simpa using allowed
      split at added
      case h_1 none =>
        cases added
        exact ⟨allowed, .inl none, rfl⟩
      case h_2 kind some =>
        split at added
        · cases added
          subst kind
          exact ⟨allowed, .inr some, rfl⟩
        · cases added

theorem add_ok (member : x.kind.canBeMember = true) (suits : x.kind.Suits c.elementKind) :
    c.add x = .ok ⟨some x.kind, x.insert c.members⟩ := by
  have defined : x.kind ≠ .undefined := by
    intro undefined
    rw [undefined] at member
    cases member
  rw [add, if_neg defined, if_neg (by simp [member])]
  rcases suits with none | some
  · rw [none]
  · rw [some]
    exact if_pos rfl

/-- A collection with one more member is still one whose members ascend. -/
theorem add_keeps (kept : c.Keeps V) (member : V x) : Gives (Keeps V) (c.add x) := by
  intro d added
  obtain ⟨allowed, kind, rfl⟩ := add_cases added
  obtain ⟨members, isSet⟩ := kept
  constructor
  · intro m inserted
    rcases Value.mem_insert inserted with rfl | old
    · exact member
    · exact members m old
  · refine ⟨by simp [Value.insert_ne_nil], ?_, Value.ascending_insert isSet.ascending x⟩
    intro m inserted
    rcases Value.mem_insert inserted with rfl | old
    · exact ⟨rfl, allowed⟩
    · obtain ⟨same, other⟩ := isSet.kinds m old
      rcases kind with none | some
      · rw [none] at same
        cases same
      · exact ⟨some.symm.trans same, other⟩

theorem collect_keeps {values : List Value} (members : ∀ m ∈ values, V m) :
    Gives (Keeps V) (values.foldlM add empty) := by
  apply Gives.foldlM empty_keeps
  intro c kept m member
  exact add_keeps kept (members m member)

end Collection

theorem Value.mem_combine {operation : SetOperation} (member : m ∈ operation.combine as bs) :
    m ∈ as ∨ m ∈ bs := by
  cases operation <;> simp only [SetOperation.combine, List.mem_append, List.mem_filter] at member
  · exact member
  · exact .inl member.1
  · exact .inl member.1
  · exact member.imp And.left And.left

namespace Value.Closed

variable {V : Value → Prop} {left right value argument : Value}

theorem ofDouble (closed : Closed V) (x : Double) : V (ofDouble x) := by
  cases x with
  | finite x =>
    apply closed.real
    unfold Binary64.canonicalZero
    by_cases zero : x.isZero = true
    · rw [if_pos zero]
      rfl
    · rw [if_neg zero]
      simp [Binary64.isNegativeZero, zero]
  | infinite negative => exact closed.undefined
  | notANumber => exact closed.undefined

theorem setOf (closed : Closed V) (members : ∀ m ∈ values, V m) : Gives V (setOf values) :=
  (Collection.collect_keeps members).ofExcept.bind fun _ => Collection.toValue_keeps closed

theorem arithmetic (closed : Closed V) (ints : ∀ a b, V (onInts a b)) (left right : Value) :
    Gives V (arithmetic symbol onInts onReals left right) := by
  unfold Value.arithmetic
  split
  · exact .ok closed.undefined
  · exact .ok closed.undefined
  · exact .ok (ints _ _)
  · split
    · split
      · exact .ok (closed.ofDouble _)
      · exact .ok closed.undefined
    · exact .error _

theorem add (closed : Closed V) (left right : Value) : Gives V (add left right) :=
  closed.arithmetic (fun _ _ => closed.integer _) left right

theorem subtract (closed : Closed V) (left right : Value) : Gives V (subtract left right) :=
  closed.arithmetic (fun _ _ => closed.integer _) left right

theorem multiply (closed : Closed V) (left right : Value) : Gives V (multiply left right) :=
  closed.arithmetic (fun _ _ => closed.integer _) left right

theorem divide (closed : Closed V) (left right : Value) : Gives V (divide left right) :=
  closed.arithmetic (fun _ _ => closed.ofDouble _) left right

theorem remainder (closed : Closed V) (left right : Value) : Gives V (remainder left right) := by
  apply closed.arithmetic
  intro a b
  by_cases zero : b = 0
  · rw [if_pos zero]
    exact closed.undefined
  · rw [if_neg zero]
    exact closed.integer _

theorem powerReals (closed : Closed V) (x y : Option Binary64) : V (powerReals x y) := by
  unfold Value.powerReals
  split
  · exact closed.ofDouble _
  · exact closed.undefined

theorem power (closed : Closed V) (left right : Value) : Gives V (power left right) :=
  closed.arithmetic (fun _ _ => closed.powerReals _ _) left right

theorem plusMinus (closed : Closed V) (left right : Value) : Gives V (plusMinus left right) := by
  unfold Value.plusMinus
  split
  · exact .ok closed.undefined
  · exact .ok closed.undefined
  · split
    · refine (closed.add left right).ofExcept.bind fun sum first => ?_
      refine (closed.subtract left right).ofExcept.bind fun difference second => ?_
      split
      · exact .ok closed.undefined
      · exact closed.setOf (by simp [first, second])
    · exact .error _

theorem negate (closed : Closed V) (value : Value) : Gives V (negate value) := by
  unfold Value.negate
  split
  · exact .ok closed.undefined
  · exact .ok (closed.integer _)
  · exact .ok (closed.ofDouble _)
  · exact .ok closed.undefined
  · exact .error _

theorem magnitude (closed : Closed V) (value : Value) : Gives V (magnitude value) := by
  unfold Value.magnitude
  split
  · exact .ok closed.undefined
  · exact .ok (closed.integer _)
  · exact .ok (closed.ofDouble _)
  · exact .ok closed.undefined
  · exact .ok (closed.integer _)
  · exact .error _

theorem factorial (closed : Closed V) (value : Value) : Gives V (factorial value) := by
  unfold Value.factorial
  split
  · exact .ok closed.undefined
  · split
    · split <;> exact .error _
    · split
      · exact .error _
      · exact .ok (closed.integer _)
  · exact .error _

theorem compare (closed : Closed V) (symbol : Symbol) (left right : Value) :
    Gives V (compare symbol left right) := by
  have undefined : V (compareUndefined symbol) := by
    unfold compareUndefined
    split
    · exact closed.boolean _
    · exact closed.boolean _
    · exact closed.undefined
  unfold Value.compare
  split
  · exact .ok undefined
  · exact .ok undefined
  · apply Gives.ofExcept
    unfold compareBooleans
    split
    · exact .ok (closed.boolean _)
    · exact .ok (closed.boolean _)
    · exact .error _
  · exact .after fun _ => .after fun _ => .ok (closed.boolean _)
  · split
    · exact .after fun _ => .ok (closed.boolean _)
    · exact .error _

theorem connect (closed : Closed V) (symbol : Symbol) (left right : Value) :
    Gives V (connect symbol left right) := by
  unfold Value.connect
  split
  · exact .ok closed.undefined
  · exact .ok closed.undefined
  · exact .after fun _ => .ok (closed.boolean _)
  · exact .error _

theorem not (closed : Closed V) (value : Value) : Gives V (not value) := by
  unfold Value.not
  split
  · exact .ok closed.undefined
  · exact .ok (closed.boolean _)
  · exact .error _

theorem coalesce (first : V left) (second : V right) : V (left.coalesce right) := by
  unfold Value.coalesce
  split
  · exact second
  · exact first

theorem contains (closed : Closed V) (element container : Value) :
    Gives V (contains element container) := by
  unfold Value.contains
  split
  · exact .ok closed.undefined
  · split
    · exact .ok (closed.boolean _)
    · split
      · exact .ok (closed.boolean _)
      · split
        · exact .ok (closed.boolean _)
        · exact .error _
  · exact .error _

/-- The algebra of sets takes its members from its operands. -/
theorem setAlgebra (closed : Closed V) (operation : SetOperation) (first : V left)
    (second : V right) : Gives V (setAlgebra operation left right) := by
  unfold Value.setAlgebra
  split
  · exact .ok closed.undefined
  · exact .ok closed.undefined
  · refine .after fun _ => closed.setOf ?_
    intro m member
    rcases mem_combine member with member | member
    · exact closed.members first m member
    · exact closed.members second m member
  · exact .error _

theorem convert (closed : Closed V) (domain : Domain) (given : V value) :
    V (convert domain value) := by
  cases domain with
  | naturals =>
    simp only [Value.convert, toNatural]
    split
    · split
      · exact closed.undefined
      · exact closed.integer _
    · exact closed.undefined
  | integers =>
    simp only [Value.convert, toInteger]
    split
    · exact closed.integer _
    · exact closed.undefined
  | reals =>
    simp only [Value.convert, toReal]
    split
    · exact closed.ofDouble _
    · exact closed.ofDouble _
    · exact given
  | booleans => exact closed.boolean _

theorem cast (closed : Closed V) (given : V value) (name : String) :
    Gives V (value.cast name) := by
  unfold Value.cast
  split
  · exact .error _
  · split
    · exact .ok closed.undefined
    · exact .ok (closed.convert _ given)
    · exact .ok (closed.convert _ given)
    · exact .ok (closed.convert _ given)
    · exact .error _

/-- Every function of a set gives a member or what its arithmetic gives. -/
theorem apply (closed : Closed V) (function : Builtin) (given : V argument) :
    Gives V (function.apply argument) := by
  unfold Builtin.apply
  split
  · exact .ok closed.undefined
  case h_2 kind first rest =>
    have members := closed.members given
    have start := members first (List.mem_cons_self ..)
    split
    · exact .error _
    · cases function with
      | max => exact .ok (members _ List.getLastD_mem_cons)
      | min => exact .ok start
      | sum => exact Gives.foldlM start fun a _ b _ => closed.add a b
      | product => exact Gives.foldlM start fun a _ b _ => closed.multiply a b
  · exact .error _

variable {symbol : Symbol}

theorem infixOperation (closed : Closed V) (found : symbol.infixOperation? = some operation)
    (first : V left) (second : V right) : Gives V (operation left right) := by
  cases symbol with
  | add => cases found; exact (closed.add left right).ofExcept
  | sub => cases found; exact (closed.subtract left right).ofExcept
  | mul => cases found; exact (closed.multiply left right).ofExcept
  | div => cases found; exact (closed.divide left right).ofExcept
  | mod => cases found; exact (closed.remainder left right).ofExcept
  | pow => cases found; exact (closed.power left right).ofExcept
  | plusMinus | minusPlus => cases found; exact closed.plusMinus left right
  | eq | ne | lt | le | gt | ge => cases found; exact closed.compare _ left right
  | and | or | xor => cases found; exact closed.connect _ left right
  | coalesce => cases found; exact .ok (coalesce first second)
  | mem => cases found; exact (closed.contains left right).ofExcept
  | union | intersection | difference | symmetricDifference =>
    cases found
    exact closed.setAlgebra _ first second
  | not | cast | factorial | call => cases found

theorem prefixOperation (closed : Closed V) (found : symbol.prefixOperation? = some operation)
    (value : Value) : Gives V (operation value) := by
  cases symbol <;> cases found
  · exact closed.negate value
  · exact closed.not value

theorem postfixOperation (closed : Closed V) (found : symbol.postfixOperation? = some operation)
    (value : Value) : Gives V (operation value) := by
  cases symbol <;> cases found
  exact closed.factorial value

end Value.Closed

namespace Value

inductive Canonical : Value → Prop where
  | integer : Canonical (.integer n)
  | real : x.isNegativeZero = false → Canonical (.real (.finite x))
  | boolean : Canonical (.boolean b)
  | undefined : Canonical .undefined
  | function : Canonical (.function parameters body)
  | builtin : Canonical (.builtin f)
  | set : (∀ m ∈ members, Canonical m) → Collection.IsSet ⟨elementKind, members⟩ →
      Canonical (.set elementKind members)

theorem canonical_closed : Closed Canonical where
  integer _ := .integer
  real _ := .real
  boolean _ := .boolean
  undefined := .undefined
  members canonical := by
    cases canonical
    assumption
  set := .set

/-- Every function in a value, also inside of sets, has parameters and a body as described. -/
inductive Holds (P : List String → Expr → Prop) : Value → Prop where
  | integer : Holds P (.integer n)
  | real : Holds P (.real x)
  | boolean : Holds P (.boolean b)
  | undefined : Holds P .undefined
  | function : P parameters body → Holds P (.function parameters body)
  | builtin : Holds P (.builtin f)
  | set : (∀ m ∈ members, Holds P m) → Holds P (.set elementKind members)

theorem holds_closed (P : List String → Expr → Prop) : Closed (Holds P) where
  integer _ := .integer
  real _ _ := .real
  boolean _ := .boolean
  undefined := .undefined
  members holds := by
    cases holds
    assumption
  set members _ := .set members

end Value

end PiecewiseLang
