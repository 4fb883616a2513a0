import PiecewiseLang.Proofs.Value.Exactness

/-! The keys that set members are sorted by. A key is the pair of a rank and a content, and the
content of the key of a set is the tuple of the keys of its members. Tuples are compared item by
item up to their first difference, and numbers by value, whatever their types. The contents are
compared only where the ranks are equal, so a number never meets a tuple, and the keys order
members exactly as sets list them. -/
namespace PiecewiseLang

theorem orderInts_units (m n : Int) :
    orderInts (m * Binary64.oneUnits) (n * Binary64.oneUnits) = orderInts m n := by
  obtain ⟨places, count⟩ : ∃ places, places = 1074 := ⟨_, rfl⟩
  have positive : 0 < (Binary64.oneUnits : Int) := by
    rw [Binary64.oneUnits_eq count]
    exact Int.natCast_pos.mpr (Nat.two_pow_pos places)
  simp only [orderInts, Int.mul_lt_mul_right positive, Int.mul_eq_mul_right_iff positive.ne']

/-- The numbers that keys are made of. Truth values count as zero and one. -/
inductive Scalar where
  | truth (b : Bool)
  | whole (n : Int)
  | real (x : Double)

namespace Scalar

/-- The place of a number among all numbers: its band, and its units within the finite band. -/
def place? : Scalar → Option (Int × Int)
  | .truth b => some (1, b.toInt * Binary64.oneUnits)
  | .whole n => some (1, n * Binary64.oneUnits)
  | .real .notANumber => none
  | .real x => some (x.band, x.finiteUnits)

def same (a b : Scalar) : Bool :=
  match a.place?, b.place? with
  | some p, some q => p = q
  | _, _ => false

def less (a b : Scalar) : Bool :=
  match a.place?, b.place? with
  | some p, some q => p.1 < q.1 ∨ p.1 = q.1 ∧ p.2 < q.2
  | _, _ => false

end Scalar

inductive Key where
  | number (value : Scalar)
  | tuple (items : List Key)

namespace Key

def isTuple : Key → Bool
  | .number _ => false
  | .tuple _ => true

mutual

/-- Whether two keys are equal. A number equals no tuple. -/
def same : Key → Key → Bool
  | .number a, .number b => a.same b
  | .tuple as, .tuple bs => sameAll as bs
  | _, _ => false

def sameAll : List Key → List Key → Bool
  | [], [] => true
  | a :: as, b :: bs => a.same b && sameAll as bs
  | _, _ => false

end

mutual

/-- Whether a key is less than another one. A number and a tuple have no order. -/
def less? : Key → Key → Option Bool
  | .number a, .number b => some (a.less b)
  | .tuple as, .tuple bs => lessAll? as bs
  | _, _ => none

/-- Tuples by their first different items; a tuple is less than its extensions. -/
def lessAll? : List Key → List Key → Option Bool
  | [], [] => some false
  | [], _ :: _ => some true
  | _ :: _, [] => some false
  | a :: as, b :: bs => if a.same b then lessAll? as bs else a.less? b

end

mutual

/-- The pairs that are compared in the course of comparing two keys. -/
def compared : Key → Key → List (Key × Key)
  | .tuple as, .tuple bs => (.tuple as, .tuple bs) :: comparedAll as bs
  | a, b => [(a, b)]

def comparedAll : List Key → List Key → List (Key × Key)
  | a :: as, b :: bs => a.compared b ++ if a.same b then comparedAll as bs else []
  | _, _ => []

end

/-- Whether numbers meet only numbers, and tuples only tuples. -/
def Alike (pairs : List (Key × Key)) : Prop := ∀ pair ∈ pairs, pair.1.isTuple = pair.2.isTuple

theorem alike_append : Alike (pairs ++ pairs') ↔ Alike pairs ∧ Alike pairs' := List.forall_mem_append

mutual

theorem alike_of_same : (a b : Key) → a.same b = true → Alike (a.compared b)
  | .number _, .number _, _ => List.forall_mem_singleton.mpr rfl
  | .tuple as, .tuple bs, equal => List.forall_mem_cons.mpr ⟨rfl, alike_of_sameAll as bs equal⟩
  | .number _, .tuple _, equal | .tuple _, .number _, equal => nomatch equal

theorem alike_of_sameAll : (as bs : List Key) → sameAll as bs = true → Alike (comparedAll as bs)
  | [], _, _ | _ :: _, [], _ => nofun
  | a :: as, b :: bs, equal => by
    obtain ⟨first, rest⟩ := Bool.and_eq_true_iff.mp equal
    rw [comparedAll, first, alike_append]
    exact ⟨alike_of_same a b first, alike_of_sameAll as bs rest⟩

end

mutual

/-- A comparison has a result unless it comes to a number and a tuple. -/
theorem isSome_less? : (a b : Key) → ((a.less? b).isSome = true ↔ Alike (a.compared b))
  | .number _, .number _ => iff_of_true rfl (List.forall_mem_singleton.mpr rfl)
  | .tuple as, .tuple bs => by
    rw [less?, isSome_lessAll? as bs, compared, Alike, Alike, List.forall_mem_cons]
    exact (and_iff_right rfl).symm
  | .number _, .tuple _ | .tuple _, .number _ =>
    iff_of_false nofun fun alike => nomatch List.forall_mem_singleton.mp alike

theorem isSome_lessAll? :
    (as bs : List Key) → ((lessAll? as bs).isSome = true ↔ Alike (comparedAll as bs))
  | [], [] | [], _ :: _ | _ :: _, [] => iff_of_true rfl nofun
  | a :: as, b :: bs => by
    cases equal : a.same b with
    | true =>
      rw [lessAll?, comparedAll, equal, if_pos rfl, if_pos rfl, isSome_lessAll? as bs, alike_append]
      exact (and_iff_right (alike_of_same a b equal)).symm
    | false =>
      rw [lessAll?, comparedAll, equal, if_neg nofun, if_neg nofun, isSome_less? a b,
        List.append_nil]

end

/-- Two keys can be compared, and the result is as the order says. -/
structure Compares (a b : Key) (order : Ordering) : Prop where
  same : a.same b = (order == .eq)
  less : a.less? b = some (order == .lt)

structure ComparesAll (as bs : List Key) (order : Ordering) : Prop where
  same : sameAll as bs = (order == .eq)
  less : lessAll? as bs = some (order == .lt)

namespace ComparesAll

theorem nil : ComparesAll [] [] .eq := ⟨rfl, rfl⟩

theorem nil_cons : ComparesAll [] (b :: bs) .lt := ⟨rfl, rfl⟩

theorem cons_nil : ComparesAll (a :: as) [] .gt := ⟨rfl, rfl⟩

/-- The items behind the first ones are compared only if these are equal. -/
theorem cons (first : Compares a b order) (rest : order = .eq → ComparesAll as bs order') :
    ComparesAll (a :: as) (b :: bs) (order.then order') := by
  cases order with
  | eq =>
    obtain ⟨same, less⟩ := rest rfl
    constructor
    · rw [sameAll, first.same, same]
      rfl
    · rw [lessAll?, first.same, less]
      rfl
  | lt | gt =>
    constructor
    · rw [sameAll, first.same]
      rfl
    · rw [lessAll?, first.same, first.less]
      rfl

end ComparesAll

namespace Compares

theorem alike (compares : Compares a b order) : Alike (a.compared b) := by
  rw [← isSome_less?, compares.less]
  rfl

theorem tuple (items : ComparesAll as bs order) : Compares (.tuple as) (.tuple bs) order :=
  ⟨items.same, items.less⟩

/-- Finite numbers are compared by their units. -/
theorem number {m n : Int} (first : a.place? = some (1, m)) (second : b.place? = some (1, n)) :
    Compares (.number a) (.number b) (orderInts m n) := by
  constructor
  · simp only [Key.same, Scalar.same, first, second]
    rcases orderInts_cases m n with ⟨_, order⟩ | ⟨_, order⟩ | ⟨_, order⟩ <;> rw [order] <;>
      simp <;> omega
  · simp only [Key.less?, Scalar.less, first, second]
    rcases orderInts_cases m n with ⟨_, order⟩ | ⟨_, order⟩ | ⟨_, order⟩ <;> rw [order] <;>
      simp <;> omega

theorem whole (m n : Int) :
    Compares (.number (.whole m)) (.number (.whole n)) (orderInts m n) :=
  orderInts_units m n ▸ number rfl rfl

theorem truth (p q : Bool) :
    Compares (.number (.truth p)) (.number (.truth q)) (orderInts p.toInt q.toInt) :=
  orderInts_units p.toInt q.toInt ▸ number rfl rfl

end Compares

end Key

namespace Value

/-- The key with the rank of a kind and a content. -/
def keyed (kind : Kind) (content : Key) : Key := .tuple [.number (.whole kind.rank), content]

mutual

/-- The key of a value. Only the kinds that members of sets can have are in the table of ranks. -/
def sortKey? : Value → Option Key
  | .boolean b => some (keyed .boolean (.number (.truth b)))
  | .integer n => some (keyed .integer (.number (.whole n)))
  | .real x => some (keyed .real (.number (.real x)))
  | .set _ members => (sortKeys? members).map fun keys => keyed .set (.tuple keys)
  | _ => none

def sortKeys? : List Value → Option (List Key)
  | [] => some []
  | v :: rest => do return (← v.sortKey?) :: (← sortKeys? rest)

end

mutual

/-- The values that have a key are those that have a place among the members of sets. -/
theorem isSome_sortKey? : (v : Value) → v.sortKey?.isSome = v.isRanked
  | .set _ members => by
    rw [sortKey?, Option.isSome_map, isSome_sortKeys? members, isRanked]
  | .integer _ | .real _ | .boolean _ | .undefined | .function .. | .builtin _ => rfl

theorem isSome_sortKeys? : (values : List Value) → (sortKeys? values).isSome = allRanked values
  | [] => rfl
  | v :: rest => by
    rw [allRanked, ← isSome_sortKey? v, ← isSome_sortKeys? rest, sortKeys?]
    cases v.sortKey? <;> cases sortKeys? rest <;> rfl

end

variable {a b v : Value}

theorem exists_content (found : v.sortKey? = some key) : ∃ content, key = keyed v.kind content := by
  cases v with
  | set kind members =>
    obtain ⟨keys, -, rfl⟩ := Option.map_eq_some_iff.mp found
    exact ⟨_, rfl⟩
  | _ => cases found <;> exact ⟨_, rfl⟩

/-- The contents of two keys are compared only if the values have one kind. -/
theorem compares_keyed (contents : a.kind = b.kind → c.Compares d (a.order b)) :
    (keyed a.kind c).Compares (keyed b.kind d) (a.order b) := by
  have ranks := Key.Compares.whole a.kind.rank b.kind.rank
  rw [order_by_rank, ← Ordering.then_eq (o := a.order b)]
  exact .tuple (.cons ranks fun same => .cons (contents (kind_of_rank same)) fun _ => .nil)

theorem sortKeys?_cons (found : sortKeys? (v :: rest) = some keys) : ∃ first others,
    keys = first :: others ∧ v.sortKey? = some first ∧ sortKeys? rest = some others := by
  rw [sortKeys?] at found
  obtain ⟨first, here, found⟩ := Option.bind_eq_some_iff.mp found
  obtain ⟨others, there, whole⟩ := Option.bind_eq_some_iff.mp found
  exact ⟨first, others, (Option.some.inj whole).symm, here, there⟩

theorem comparesAll
    (each : ∀ a ∈ as, ∀ b ∈ bs, ∀ k l, a.sortKey? = some k → b.sortKey? = some l →
      k.Compares l (a.order b))
    (found : sortKeys? as = some ks) (found' : sortKeys? bs = some ls) :
    Key.ComparesAll ks ls (orderAll as bs) := by
  induction as generalizing bs ks ls with
  | nil =>
    cases found
    cases bs with
    | nil =>
      cases found'
      exact .nil
    | cons b bs =>
      obtain ⟨l, ls, rfl, -, -⟩ := sortKeys?_cons found'
      exact .nil_cons
  | cons a as ih =>
    obtain ⟨k, ks, rfl, here, there⟩ := sortKeys?_cons found
    cases bs with
    | nil =>
      cases found'
      exact .cons_nil
    | cons b bs =>
      obtain ⟨l, ls, rfl, here', there'⟩ := sortKeys?_cons found'
      refine .cons (each a (List.mem_cons_self ..) b (List.mem_cons_self ..) k l here here') ?_
      intro _
      refine ih (fun a member b member' => ?_) there there'
      exact each a (List.mem_cons_of_mem _ member) b (List.mem_cons_of_mem _ member')

/-- Comparing the keys of canonical members tells their order. -/
theorem Canonical.compares (first : a.Canonical) (second : b.Canonical)
    (found : a.sortKey? = some k) (found' : b.sortKey? = some l) : k.Compares l (a.order b) := by
  induction first generalizing b k l with
  | undefined | function | builtin => cases found
  | @integer n =>
    obtain ⟨content, rfl⟩ := exists_content found'
    cases found
    refine compares_keyed (a := .integer n) fun same => ?_
    cases second <;> cases same
    cases found'
    exact .whole ..
  | @real x =>
    obtain ⟨content, rfl⟩ := exists_content found'
    cases found
    refine compares_keyed (a := .real (.finite x)) fun same => ?_
    cases second with
    | real =>
      cases found'
      exact .number rfl rfl
    | _ => cases same
  | @boolean p =>
    obtain ⟨content, rfl⟩ := exists_content found'
    cases found
    refine compares_keyed (a := .boolean p) fun same => ?_
    cases second <;> cases same
    cases found'
    exact .truth ..
  | @set members kind _ isSet ih =>
    obtain ⟨content, rfl⟩ := exists_content found'
    obtain ⟨keys, listed, rfl⟩ := Option.map_eq_some_iff.mp found
    refine compares_keyed (a := .set kind members) fun same => ?_
    cases second with
    | set canonical =>
      obtain ⟨keys', listed', equal⟩ := Option.map_eq_some_iff.mp found'
      cases equal
      refine .tuple (comparesAll (fun a member b member' k l => ?_) listed listed')
      exact ih a member (canonical b member')
    | _ => cases same

end Value

/-- A canonical value that can be a member of a set. -/
structure SetMember where
  value : Value
  canonical : value.Canonical
  allowed : value.kind.canBeMember = true

namespace SetMember

variable {a b c : SetMember}

def key (a : SetMember) : Key :=
  a.value.sortKey?.get (a.value.isSome_sortKey?.trans (a.canonical.ranked a.allowed))

theorem sortKey?_value (a : SetMember) : a.value.sortKey? = some a.key := (Option.some_get _).symm

theorem compares (a b : SetMember) : a.key.Compares b.key (a.value.order b.value) :=
  a.canonical.compares b.canonical a.sortKey?_value b.sortKey?_value

/-- Whether the key of a member is less than the key of another one. -/
def Precedes (a b : SetMember) : Prop := a.key.less? b.key = some true

theorem precedes_iff : a.Precedes b ↔ a.value.order b.value = .lt := by
  rw [Precedes, (a.compares b).less, Option.some_inj, beq_iff_eq]

theorem order_eq_iff : a.value.order b.value = .eq ↔ a.value = b.value := by
  constructor
  · exact a.canonical.eq_of_order b.canonical a.allowed
  · intro same
    rw [same]
    exact Std.ReflCmp.compare_self

/-- The keys of two members are equal only if the members are the same value. -/
theorem same_iff : a.key.same b.key = true ↔ a.value = b.value := by
  rw [(a.compares b).same, beq_iff_eq, order_eq_iff]

/-- Of two members one precedes the other, or they are the same. -/
theorem trichotomous (a b : SetMember) :
    (a.Precedes b ∧ a.value ≠ b.value ∧ ¬b.Precedes a) ∨
    (¬a.Precedes b ∧ a.value = b.value ∧ ¬b.Precedes a) ∨
    (¬a.Precedes b ∧ a.value ≠ b.value ∧ b.Precedes a) := by
  have back := Value.order_swap a.value b.value
  simp only [precedes_iff, ne_eq, ← order_eq_iff, back]
  cases a.value.order b.value <;> decide

theorem Precedes.trans (first : a.Precedes b) (second : b.Precedes c) : a.Precedes c := by
  rw [precedes_iff] at *
  exact Std.TransCmp.lt_trans first second

/-- Numbers of one kind precede each other as the rational numbers they stand for. -/
theorem precedes_numbers {m n : Number} (first : a.value = m.value) (second : b.value = n.value)
    (alike : m.value.kind = n.value.kind) : a.Precedes b ↔ m.rational < n.rational := by
  rw [precedes_iff, first, second, Number.order_value alike, cmp_eq_lt_iff]

end SetMember

/-- The keys of set members are a faithful total order. Every member has a key, and comparing two
keys never comes to a number and a tuple. It tells the order that sets list their members in: of two
members either one has the lesser key or they are the same value, the order is transitive, and
numbers of one kind are in their numeric order. -/
theorem sort_keys_order_members (a b c : SetMember) :
    a.value.sortKey? = some a.key ∧
    Key.Alike (a.key.compared b.key) ∧
    a.key.less? b.key = some (a.value.order b.value == .lt) ∧
    (a.key.same b.key = true ↔ a.value = b.value) ∧
    ((a.Precedes b ∧ a.value ≠ b.value ∧ ¬b.Precedes a) ∨
      (¬a.Precedes b ∧ a.value = b.value ∧ ¬b.Precedes a) ∨
      (¬a.Precedes b ∧ a.value ≠ b.value ∧ b.Precedes a)) ∧
    (a.Precedes b → b.Precedes c → a.Precedes c) ∧
    ∀ m n : Number, a.value = m.value → b.value = n.value → m.value.kind = n.value.kind →
      (a.Precedes b ↔ m.rational < n.rational) := by
  have compares := a.compares b
  refine ⟨a.sortKey?_value, compares.alike, compares.less, SetMember.same_iff, a.trichotomous b,
    SetMember.Precedes.trans, ?_⟩
  exact fun m n => SetMember.precedes_numbers

/-- The set of a member alone, as a member of other sets. -/
def SetMember.singleton (m : SetMember) : SetMember where
  value := .set (some m.value.kind) [m.value]
  canonical := .set (List.forall_mem_singleton.mpr m.canonical)
    ⟨iff_of_false nofun nofun, List.forall_mem_singleton.mpr ⟨rfl, m.allowed⟩,
      List.pairwise_singleton ..⟩
  allowed := rfl

def SetMember.integer (n : Int) : SetMember := ⟨.integer n, .integer, rfl⟩

def truthSample : SetMember := ⟨.boolean true, .boolean, rfl⟩

/-- The real one. -/
def oneSample : SetMember := ⟨.real (.finite ⟨false, 0x3ff0000000000000, by decide⟩), .real rfl, rfl⟩

/-- What is equal as a number is told apart by its kind, inside of sets as well. -/
theorem sort_keys_order_members_sample :
    truthSample.singleton.Precedes (SetMember.integer 1).singleton ∧
    (SetMember.integer 1).singleton.Precedes oneSample.singleton ∧
    truthSample.singleton.Precedes oneSample.singleton ∧
    (SetMember.integer (-2)).Precedes (SetMember.integer 1) := by
  have first : truthSample.singleton.Precedes (SetMember.integer 1).singleton := by
    unfold SetMember.Precedes
    decide +kernel
  have second : (SetMember.integer 1).singleton.Precedes oneSample.singleton := by
    unfold SetMember.Precedes
    decide +kernel
  obtain ⟨-, -, -, -, -, transitive, -⟩ := sort_keys_order_members truthSample.singleton
    (SetMember.integer 1).singleton oneSample.singleton
  obtain ⟨-, -, -, -, -, -, numeric⟩ := sort_keys_order_members (.integer (-2)) (.integer 1) (.integer 1)
  refine ⟨first, second, transitive first second, ?_⟩
  exact (numeric (.integer (-2)) (.integer 1) rfl rfl rfl).mpr (Int.cast_lt.mpr (by decide))

end PiecewiseLang
