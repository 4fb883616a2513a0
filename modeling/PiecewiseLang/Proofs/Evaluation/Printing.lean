import Mathlib.Data.List.Forall2
import PiecewiseLang.Proofs.Evaluation.Keeping
import PiecewiseLang.Proofs.Parsing.Entry
import PiecewiseLang.Proofs.Parsing.RoundTrip
import PiecewiseLang.Proofs.Value.Failures
import PiecewiseLang.Value.Display

/-! Written values read back. The written form of a number, a truth value, the undefined value or
a set of such is an expression again: it is scanned, parsed and evaluated to the value it was
written from. A negative number comes back as a minus before a number, and a set is built anew
from its members, which are added in the order they have. -/
namespace PiecewiseLang

/-- A written form: the text, the words it spells and the expression these are read as. -/
structure WrittenForm where
  text : String
  words : List Word
  expr : Expr

namespace WrittenForm

/-- The text stands for the expression wherever something follows that ends both. -/
structure Legible (l : WrittenForm) : Prop where
  apart : ∃ c rest, l.text.toList = c :: rest ∧ c ≠ '/'
  spells {rest : List Char} {after : List Word} : isBoundary rest = true → Spells rest after →
    Spells (l.text.toList ++ rest) (l.words ++ after)
  reads {precedence : Precedence} {next : TokenKind} :
    precedence.level < Precedence.call.level → next.endsExpression = true →
    Reading.Expression precedence l.words next l.expr

/-- A tree in the form that trees are written in. -/
def ofExpr (e : Expr) : WrittenForm := ⟨e.render, e.words, e⟩

theorem ofExpr_legible {e : Expr} (wellFormed : e.isWellFormed = true) : (ofExpr e).Legible where
  apart := e.render_head wellFormed
  spells := Expr.spells_render e wellFormed
  reads weak ends :=
    Expr.reads_whole (Expr.reads_words e wellFormed weak) (TokenKind.endsAt_of_ends ends)

/-- A minus directly before a written form. -/
def negated (l : WrittenForm) : WrittenForm :=
  ⟨"-" ++ l.text, mark '-' :: l.words, .combination ⟨.sub, .prefixed⟩ none (some l.expr)⟩

theorem Legible.negated {l : WrittenForm} (legible : l.Legible) : l.negated.Legible where
  apart := ⟨'-', l.text.toList, by simp [WrittenForm.negated], by decide⟩
  spells {rest after} boundary spelled := by
    obtain ⟨c, chars, text, other⟩ := legible.apart
    have apart : (l.text.toList ++ rest).head? ≠ some '/' := by
      rw [text]
      exact fun same => other (Option.some.inj same)
    simpa [WrittenForm.negated] using Spells.minus apart (legible.spells boundary spelled)
  reads {precedence next} _ ends := by
    have minus : (mark '-').kind.prefixSymbol? = some .sub := rfl
    have operand : Reading.Operand l.negated.words next l.negated.expr :=
      .prefixed minus (legible.reads (by decide) ends)
    simpa using Reading.Expression.intro operand (.done (TokenKind.endsAt_of_ends ends))

/-- The words of the further members of a set with the closing brace. -/
def furtherWords : List WrittenForm → List Word
  | [] => [mark '}']
  | l :: ls => mark ',' :: (l.words ++ furtherWords ls)

/-- The words of the members of a set with the closing brace. -/
def memberWords : List WrittenForm → List Word
  | [] => [mark '}']
  | l :: ls => l.words ++ furtherWords ls

def set (ls : List WrittenForm) : WrittenForm :=
  ⟨"\x7b" ++ ", ".intercalate (ls.map text) ++ "\x7d", mark '{' :: memberWords ls,
    .set (ls.map expr)⟩

theorem set_toList (ls : List WrittenForm) :
    (set ls).text.toList = '{' :: ((", ".intercalate (ls.map text)).toList ++ ['}']) := by
  simp only [set, String.toList_append]
  rfl

theorem spells_further {ls : List WrittenForm} (legible : ∀ l ∈ ls, l.Legible)
    (spelled : Spells rest after) :
    let following := (ls.map text).flatMap (", ".toList ++ ·.toList) ++ '}' :: rest
    isBoundary following = true ∧ Spells following (furtherWords ls ++ after) := by
  induction ls with
  | nil => exact ⟨rfl, Spells.isolated '}' (by decide) spelled⟩
  | cons l ls ih =>
    obtain ⟨first, others⟩ := List.forall_mem_cons.mp legible
    obtain ⟨boundary, more⟩ := ih others
    have spaced := (first.spells boundary more).blank (c := ' ') rfl
    have whole := Spells.isolated ',' (by decide) spaced
    exact ⟨rfl, by simpa [furtherWords] using whole⟩

theorem reads_further {ls : List WrittenForm} (legible : ∀ l ∈ ls, l.Legible) :
    Reading.Members (furtherWords ls) (ls.map expr) := by
  induction ls with
  | nil => exact .done
  | cons l ls ih =>
    obtain ⟨first, others⟩ := List.forall_mem_cons.mp legible
    have ends : (headKind (furtherWords ls) .endOfInput).endsExpression = true := by
      cases ls <;> rfl
    exact .more (first.reads (by decide) ends) (ih others)

theorem Legible.set {ls : List WrittenForm} (legible : ∀ l ∈ ls, l.Legible) : (set ls).Legible where
  apart := ⟨'{', _, set_toList ls, by decide⟩
  spells {rest after} _ spelled := by
    rw [set_toList, List.cons_append, List.append_assoc]
    refine Spells.isolated '{' (by decide) ?_
    cases ls with
    | nil => exact Spells.isolated '}' (by decide) spelled
    | cons l ls =>
      obtain ⟨first, others⟩ := List.forall_mem_cons.mp legible
      obtain ⟨boundary, more⟩ := spells_further others spelled
      rw [List.map_cons, Expr.toList_intercalate_cons, List.append_assoc]
      have whole := first.spells boundary more
      rwa [← List.append_assoc l.words] at whole
  reads {precedence next} _ ends := by
    have operand : Reading.Operand (WrittenForm.set ls).words next (WrittenForm.set ls).expr := by
      cases ls with
      | nil => exact .emptySet
      | cons l ls =>
        obtain ⟨first, others⟩ := List.forall_mem_cons.mp legible
        refine .set (first.reads (by decide) ?_) (reads_further others)
        cases ls <;> rfl
    simpa using Reading.Expression.intro operand (.done (TokenKind.endsAt_of_ends ends))

/-- The text is the written form of the value, and the expression evaluates to the value. -/
structure Writes (l : WrittenForm) (v : Value) : Prop extends l.Legible where
  displayed : v.display? = some l.text
  evaluated (callDepth : Int) {nesting : Nat} (env : Environment) : l.words.length ≤ nesting →
    (evaluateWithin callDepth nesting env l.expr).result = .ok v

theorem exists_forall (each : ∀ m ∈ members, ∃ l, Writes l m) :
    ∃ ls, List.Forall₂ Writes ls members := by
  induction members with
  | nil => exact ⟨[], .nil⟩
  | cons m members ih =>
    obtain ⟨⟨l, first⟩, others⟩ := List.forall_mem_cons.mp each
    obtain ⟨ls, rest⟩ := ih others
    exact ⟨l :: ls, .cons first rest⟩

theorem legible_all (written : List.Forall₂ Writes ls members) : ∀ l ∈ ls, l.Legible := by
  induction written with
  | nil => exact nofun
  | cons first _ ih => exact List.forall_mem_cons.mpr ⟨first.toLegible, ih⟩

theorem displayEach_all (written : List.Forall₂ Writes ls members) :
    Value.displayEach? members = some (ls.map text) := by
  induction written with
  | nil => rfl
  | cons first _ ih => simp [Value.displayEach?, first.displayed, ih]

theorem furtherWords_length {ls : List WrittenForm} (member : l ∈ ls) :
    l.words.length < (furtherWords ls).length := by
  induction ls with
  | nil => cases member
  | cons first ls ih =>
    simp only [furtherWords, List.length_cons, List.length_append]
    rcases List.mem_cons.mp member with rfl | member
    · omega
    · have less := ih member
      omega

theorem memberWords_length {ls : List WrittenForm} (member : l ∈ ls) :
    l.words.length ≤ (memberWords ls).length := by
  cases ls with
  | nil => cases member
  | cons first ls =>
    simp only [memberWords, List.length_append]
    rcases List.mem_cons.mp member with rfl | member
    · omega
    · have less := furtherWords_length member
      omega

end WrittenForm

/-- A value above all members of a list is inserted behind them. -/
theorem Value.insert_above (above : ∀ m ∈ members, m.order x = .lt) :
    insert x members = members ++ [x] := by
  induction members with
  | nil => rfl
  | cons m members ih =>
    obtain ⟨first, others⟩ := List.forall_mem_cons.mp above
    have greater : x.order m = .gt := Std.OrientedCmp.gt_of_lt first
    rw [insert, greater, ih others, List.cons_append]

namespace Collection

theorem add_above {members : List Value} (above : ∀ m ∈ members, m.order x = .lt)
    (alike : ∀ m ∈ members, m.kind = x.kind) (allowed : x.kind.canBeMember = true) :
    add (ofMembers members) x = .ok (ofMembers (members ++ [x])) := by
  have suits : x.kind.Suits (ofMembers members).elementKind := by
    cases members with
    | nil => exact .inl rfl
    | cons m members => exact .inr (congrArg some (alike m (List.mem_cons_self ..)))
  have first : (members ++ [x]).head?.map Value.kind = some x.kind := by
    cases members with
    | nil => rfl
    | cons m members => exact congrArg some (alike m (List.mem_cons_self ..))
  rw [add_ok allowed suits, ofMembers, ofMembers, Value.insert_above above, first]

end Collection

/-- The members of a set, given in their order, are collected to the set. -/
theorem Evaluation.collect_members {inner : Expr → Traced Value} {before : List Value}
    (evaluated : List.Forall₂ (fun e m => (inner e).result = .ok m) es members)
    (isSet : Collection.IsSet ⟨kind, before ++ members⟩) :
    (collect inner (.ofMembers before) es).result = .ok ⟨kind, before ++ members⟩ := by
  induction evaluated generalizing before with
  | nil =>
    rw [List.append_nil] at isSet ⊢
    rw [← isSet.eq_ofMembers]
    rfl
  | @cons e m es members first _ ih =>
    obtain ⟨here, allowed⟩ := isSet.kinds m (by simp)
    have above : ∀ b ∈ before, b.order m = .lt := fun b member =>
      (List.pairwise_append.mp isSet.ascending).2.2 b member m (List.mem_cons_self ..)
    have alike : ∀ b ∈ before, b.kind = m.kind := fun b member =>
      Option.some.inj ((isSet.kinds b (List.mem_append_left _ member)).1.symm.trans here)
    have added := Collection.add_above above alike allowed
    rw [List.append_cons] at isSet ⊢
    rw [collect, Traced.result_bind, first]
    change (Traced.ofExcept _ >>= _).result = _
    rw [Traced.result_bind, Traced.result_ofExcept, added]
    exact ih isSet

namespace WrittenForm

theorem evaluates_all (written : List.Forall₂ Writes ls members)
    (fits : ∀ l ∈ ls, l.words.length ≤ nesting) (callDepth : Int) (env : Environment) :
    List.Forall₂ (fun e m => (evaluateWithin callDepth nesting env e).result = .ok m)
      (ls.map expr) members := by
  induction written with
  | nil => exact .nil
  | cons first _ ih =>
    obtain ⟨here, others⟩ := List.forall_mem_cons.mp fits
    exact .cons (first.evaluated callDepth env here) (ih others)

theorem Writes.set (written : List.Forall₂ Writes ls members)
    (canonical : ∀ m ∈ members, m.Canonical) (isSet : Collection.IsSet ⟨kind, members⟩) :
    (set ls).Writes (.set kind members) := by
  refine ⟨Legible.set (legible_all written), ?_, ?_⟩
  · rw [Value.display?, displayEach_all written]
    rfl
  intro callDepth nesting env fits
  cases nesting with
  | zero => cases fits
  | succ nesting =>
    have inner := evaluates_all written (fun l member => Nat.le_trans (memberWords_length member)
      (Nat.le_of_succ_le_succ fits)) callDepth env
    have collected : (Evaluation.collect (evaluateWithin callDepth nesting env) (.ofMembers [])
        (ls.map expr)).result = .ok ⟨kind, [] ++ members⟩ := Evaluation.collect_members inner isSet
    have ranked : Value.allRanked members = true := Value.allRanked_iff.mpr fun m member =>
      (canonical m member).ranked (isSet.kinds m member).2
    change (Evaluation.collect (evaluateWithin callDepth nesting env) (.ofMembers [])
      (ls.map expr) >>= _).result = _
    rw [Traced.result_bind, collected]
    exact if_pos ranked

theorem writes_of_expr {e : Expr} (wellFormed : e.isWellFormed = true)
    (displayed : v.display? = some e.render) (evaluated : ∀ callDepth nesting env,
      (evaluateWithin callDepth (nesting + 1) env e).result = .ok v) : (ofExpr e).Writes v := by
  refine ⟨ofExpr_legible wellFormed, displayed, ?_⟩
  intro callDepth nesting env fits
  cases nesting with
  | zero =>
    have read : Reading.Expression .lowest (ofExpr e).words .semicolon e :=
      (ofExpr_legible wellFormed).reads (by decide) rfl
    exact absurd fits (Nat.not_le.mpr read.length_pos)
  | succ nesting => exact evaluated callDepth nesting env

theorem Writes.negated {l : WrittenForm} {v w : Value} (written : l.Writes v)
    (displayed : w.display? = some l.negated.text) (result : v.negate = .ok w) :
    l.negated.Writes w := by
  refine ⟨written.toLegible.negated, displayed, ?_⟩
  intro callDepth nesting env fits
  cases nesting with
  | zero => cases fits
  | succ nesting =>
    change (evaluateWithin callDepth nesting env l.expr >>=
      fun v => Traced.ofExcept v.negate).result = _
    rw [Traced.result_bind, written.evaluated callDepth env (Nat.le_of_succ_le_succ fits)]
    change (Traced.ofExcept v.negate).result = _
    rw [result]
    rfl

theorem writeInteger_eq {n : Int} (range : n.natAbs ≤ Lexeme.integerMax) :
    Text.writeInteger n = some (toString n) := by
  have small : Lexeme.integerMax < 10 ^ Text.digitLimit := calc
    Lexeme.integerMax < 10 ^ 19 := by decide
    _ ≤ 10 ^ Text.digitLimit := Nat.pow_le_pow_right (by decide) (by decide)
  rw [Text.writeInteger, Nat.pow_eq, if_pos (Nat.lt_of_le_of_lt range small)]

theorem writes_integer {n : Int} (range : n.natAbs ≤ Lexeme.integerMax) :
    ∃ l : WrittenForm, l.Writes (.integer n) := by
  have natural : ∀ {k : Nat}, k ≤ Lexeme.integerMax →
      (ofExpr (.integer k)).Writes (.integer k) := by
    intro k small
    refine writes_of_expr ?_ (writeInteger_eq small) fun _ _ _ => rfl
    exact Bool.and_eq_true_iff.mpr ⟨decide_eq_true (Int.natCast_nonneg k),
      decide_eq_true (Int.ofNat_le.mpr small)⟩
  cases n with
  | ofNat k => exact ⟨_, natural range⟩
  | negSucc k => exact ⟨_, (natural range).negated (writeInteger_eq range) rfl⟩

theorem canonicalZero_eq {x : Binary64} (one : x.isNegativeZero = false) :
    x.canonicalZero = x := by
  unfold Binary64.canonicalZero
  split
  case isTrue zero =>
    have plain : x.negative = false := by simpa [Binary64.isNegativeZero, zero] using one
    have nothing : x.magnitude = 0 := Fin.ext (of_decide_eq_true zero)
    rw [Binary64.zero, Binary64.signedZero, ← plain, ← nothing]
  case isFalse => rfl

theorem writes_real {x : Binary64} (one : x.isNegativeZero = false) :
    ∃ l : WrittenForm, l.Writes (.real (.finite x)) := by
  have unsigned : ∀ {y : Binary64}, y.negative = false →
      (ofExpr (.real (.finite y))).Writes (.real (.finite y)) := by
    intro y plain
    refine writes_of_expr (by simp [Expr.isWellFormed, plain]) rfl fun _ _ _ => ?_
    have zero : y.isNegativeZero = false := by simp [Binary64.isNegativeZero, plain]
    change Except.ok (Value.real (.finite y.canonicalZero)) = _
    rw [canonicalZero_eq zero]
  cases sign : x.negative with
  | false => exact ⟨_, unsigned sign⟩
  | true =>
    have plain : x.abs.negative = false := rfl
    refine ⟨_, (unsigned plain).negated ?_ ?_⟩
    · exact congrArg some (Binary64.write_of_negative sign)
    · have back : x.abs.neg = x := by
        obtain ⟨negative, magnitude⟩ := x
        cases sign
        rfl
      change Except.ok (Value.real (.finite x.abs.neg.canonicalZero)) = _
      rw [back, canonicalZero_eq one]

end WrittenForm

/-- Made of numbers, truth values and the undefined value, with integers that tokens can hold. -/
inductive Value.Plain : Value → Prop where
  | integer : n.natAbs ≤ Lexeme.integerMax → Plain (.integer n)
  | real : Plain (.real x)
  | boolean : Plain (.boolean b)
  | undefined : Plain .undefined
  | set : (∀ m ∈ members, Plain m) → Plain (.set elementKind members)

theorem Value.Canonical.writes (canonical : v.Canonical) (plain : v.Plain) :
    ∃ l : WrittenForm, l.Writes v := by
  induction canonical with
  | integer =>
    cases plain with
    | integer range => exact WrittenForm.writes_integer range
  | real one => exact WrittenForm.writes_real one
  | @boolean b =>
    refine ⟨.ofExpr (.boolean b), WrittenForm.writes_of_expr rfl ?_ fun _ _ _ => rfl⟩
    cases b <;> rfl
  | undefined => exact ⟨.ofExpr .undefined, WrittenForm.writes_of_expr rfl rfl fun _ _ _ => rfl⟩
  | function => cases plain
  | builtin => cases plain
  | @set members kind canonical isSet ih =>
    cases plain with
    | set plain =>
      obtain ⟨ls, written⟩ := WrittenForm.exists_forall fun m member => ih m member (plain m member)
      exact ⟨.set ls, .set written canonical isSet⟩

/-- A canonical value of numbers, truth values, the undefined value and sets is written as a text
that is parsed as an expression, given as much nesting as the text is long, and this expression
evaluates to the value again in every environment: to the same kind of value, and to the same
members in the same order. -/
theorem written_values_read_back (canonical : v.Canonical) (plain : v.Plain) :
    ∃ text e, v.display? = some text ∧
      (∀ nesting, text.length ≤ nesting → parseExpr nesting text = .ok e) ∧
      ∀ (limits : Limits) env, text.length ≤ limits.nesting →
        (e.evaluate limits env).result = .ok v := by
  obtain ⟨l, written⟩ := canonical.writes plain
  have ended : code [] = [] := rfl
  have spelled : Spells l.text.toList l.words := by
    simpa using written.spells rfl (Spells.done ended)
  have short : l.words.length ≤ l.text.length := spelled.length_le
  refine ⟨l.text, l.expr, written.displayed, fun nesting enough => ?_, fun limits env enough => ?_⟩
  · exact parseExpr_complete spelled (written.reads (by decide) rfl) (Nat.le_trans short enough)
  · exact written.evaluated limits.callDepth env (Nat.le_trans short enough)

/-- Two and a half, negative. -/
def fractionSample : Binary64 := ⟨true, ⟨0x4004000000000000, by decide⟩⟩

/-- A set of a set of integers and a set of reals, with negative numbers in both. -/
def nestedSample : Value :=
  .set (some .set) [.set (some .integer) [.integer (-9223372036854775807), .integer 5],
    .set (some .real) [.real (.finite fractionSample)]]

theorem written_values_read_back_sample :
    nestedSample.display? = some "\x7b\x7b-9223372036854775807, 5\x7d, \x7b-2.5\x7d\x7d" ∧
    ∃ text e, nestedSample.display? = some text ∧
      (∀ nesting, text.length ≤ nesting → parseExpr nesting text = .ok e) ∧
      ∀ (limits : Limits) env, text.length ≤ limits.nesting →
        (e.evaluate limits env).result = .ok nestedSample := by
  have integers :
      (Value.set (some .integer) [.integer (-9223372036854775807), .integer 5]).Canonical :=
    Value.canonical_closed.setOf
      (List.forall_mem_cons.mpr ⟨.integer, List.forall_mem_singleton.mpr .integer⟩) _
      (by decide +kernel : Value.setOf [.integer (-9223372036854775807), .integer 5] = _)
  have reals : (Value.set (some .real) [.real (.finite fractionSample)]).Canonical :=
    Value.canonical_closed.setOf (List.forall_mem_singleton.mpr (.real rfl)) _
      (by decide +kernel : Value.setOf [.real (.finite fractionSample)] = _)
  have canonical : nestedSample.Canonical :=
    Value.canonical_closed.setOf
      (List.forall_mem_cons.mpr ⟨integers, List.forall_mem_singleton.mpr reals⟩) _
      (by decide +kernel)
  have plain : nestedSample.Plain := by
    refine .set (List.forall_mem_cons.mpr ⟨.set ?_, List.forall_mem_singleton.mpr (.set ?_)⟩)
    · exact List.forall_mem_cons.mpr ⟨.integer (by decide),
        List.forall_mem_singleton.mpr (.integer (by decide))⟩
    · exact List.forall_mem_singleton.mpr .real
  exact ⟨by decide +kernel, written_values_read_back canonical plain⟩

end PiecewiseLang
