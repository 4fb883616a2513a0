import PiecewiseLang.Proofs.Parsing.Entry
import PiecewiseLang.Proofs.Parsing.Grouping

/-! Expressions as chains. A chain is made of operands with signs in front of them and
operators between them, an operand is a name, a literal or something in brackets, with the
factorial signs and calls behind it, and the tree of a chain is the one that the binding
strengths prescribe. The parser reads every chain as its tree. -/
namespace PiecewiseLang

namespace Chain

section
variable (Operand Expression : List Word → Expr → Prop)

/-- An operand with signs in front of it. -/
inductive Item : List Word → Signed → Prop where
  | plain : Operand words e → Item words ⟨[], e⟩
  | signed : kind.prefixSymbol? = some sign → Item words ⟨signs, e⟩ →
      Item (⟨kind, text⟩ :: words) ⟨sign :: signs, e⟩

/-- Operators other than the call, each with what follows it. -/
inductive Links : List Word → List (Symbol × Signed) → Prop where
  | done : Links [] []
  | more : kind.infixSymbol? = some symbol → symbol ≠ .call →
      Operator.infixPrecedence? symbol = some binding → Item Operand words item →
      Links rest links → Links (⟨kind, text⟩ :: (words ++ rest)) ((symbol, item) :: links)

/-- Expressions between commas, of which one may stand at the end. -/
inductive Items : List Word → List Expr → Prop where
  | last : Expression words e → Items words [e]
  | trailing : Expression words e → Items (words ++ [⟨.comma, text⟩]) [e]
  | more : Expression words e → Items rest es → Items (words ++ ⟨.comma, text⟩ :: rest) (e :: es)

/-- The arms of a block and how many of them are its `else`. -/
inductive Arms : Nat → List Word → List (Expr × Expr) → Prop where
  | done : Arms 0 [] []
  | condition : Expression words value → Expression words' g → Arms count rest arms →
      Arms count (words ++ ⟨.ifWord, text⟩ :: (words' ++ ⟨.semicolon, text'⟩ :: rest))
        ((value, g) :: arms)
  | otherwise : Expression words value → Arms count rest arms →
      Arms (count + 1) (words ++ ⟨.elseWord, text⟩ :: ⟨.semicolon, text'⟩ :: rest)
        ((value, .boolean true) :: arms)

end

mutual

/-- Names, literals and what stands in brackets. -/
inductive Primary : List Word → Expr → Prop where
  | name : Primary [⟨.name, text⟩] (.name text)
  | integer : Text.readInteger text = some n → Primary [⟨.integer, text⟩] (.integer n)
  | real : Double.read? text = some x → Primary [⟨.real, text⟩] (.real x)
  | trueWord : Primary [⟨.trueWord, text⟩] (.boolean true)
  | falseWord : Primary [⟨.falseWord, text⟩] (.boolean false)
  | undefinedWord : Primary [⟨.undefinedWord, text⟩] .undefined
  | parens : Expression words e →
      Primary (⟨.leftParen, text⟩ :: (words ++ [⟨.rightParen, text'⟩])) e
  | bars : Expression words e →
      Primary (⟨.bar, text⟩ :: (words ++ [⟨.bar, text'⟩])) (.magnitude e)
  | emptySet : Primary [⟨.leftBrace, text⟩, ⟨.rightBrace, text'⟩] (.set [])
  | set : Items Expression words es →
      Primary (⟨.leftBrace, text⟩ :: (words ++ [⟨.rightBrace, text'⟩])) (.set es)
  | piecewise : Arms Expression count words arms → arms ≠ [] → count ≤ 1 →
      Primary (⟨.leftBrace, text⟩ :: (words ++ [⟨.rightBrace, text'⟩])) (.piecewise arms)

/-- A primary with the factorial signs and calls behind it. -/
inductive Suffixed : List Word → Expr → Prop where
  | plain : Primary words e → Suffixed words e
  | factorial : Suffixed words e → Suffixed (words ++ [⟨.bang, text⟩])
      (.combination ⟨.factorial, .postfixed⟩ (some e) none)
  | emptyCall : Suffixed words e →
      Suffixed (words ++ [⟨.leftParen, text⟩, ⟨.rightParen, text'⟩]) (.call e [])
  | call : Suffixed words e → Items Expression words' es →
      Suffixed (words ++ ⟨.leftParen, text⟩ :: (words' ++ [⟨.rightParen, text'⟩])) (.call e es)

/-- A chain and its tree. -/
inductive Expression : List Word → Expr → Prop where
  | intro : Item Suffixed words first → Links Suffixed rest links →
      Expression (words ++ rest) (Grouping.tree first links)

end

open Reading (Climb)
open Grouping (Link absorb resolve group join tree)

/-- The words are read as the tree, and what follows them extends it. -/
def Extends (words : List Word) (e : Expr) : Prop :=
  ∀ {precedence rest next e'}, precedence.level < Precedence.call.level →
    Climb precedence e rest next e' → Reading.Expression precedence (words ++ rest) next e'

/-- Whether a symbol stands between two operands and is not a call. -/
def joins (symbol : Symbol) : Bool := (Operator.infixPrecedence? symbol).isSome && symbol ≠ .call

theorem joins_of (strength : Operator.infixPrecedence? symbol = some binding)
    (other : symbol ≠ .call) : joins symbol = true := by
  simp [joins, strength, other]

theorem level_eq (strength : Operator.infixPrecedence? symbol = some binding) :
    symbol.level = binding.level := by
  simp [Symbol.level, strength]

theorem level_bounds (legal : joins symbol = true) :
    Precedence.lowest.level < symbol.level ∧ symbol.level < Precedence.call.level := by
  revert legal
  cases symbol <;> decide

/-- Only a power binds more strongly than a sign. -/
theorem unary_lt_iff (legal : joins symbol = true) :
    Precedence.unary.level < symbol.level ↔ symbol = .pow := by
  revert legal
  cases symbol <;> decide

theorem absorb_subset (signs : List Symbol) (operand : Expr) (links : List Link) :
    ∀ link ∈ (absorb signs operand links).2, link ∈ links := by
  induction signs with
  | nil => exact fun _ member => member
  | cons sign signs ih =>
    intro link member
    exact ih link (List.dropWhile_subset _ member)

theorem resolve_joins (links : Links Operand words chain) :
    ∀ link ∈ resolve chain, joins link.1 = true := by
  induction links with
  | done => simp [resolve]
  | more _ other strength _ _ ih =>
    intro link member
    rcases List.mem_cons.mp member with rfl | member
    · exact joins_of strength other
    · exact ih link (absorb_subset _ _ _ link member)

/-- What an expression of some strength takes of the links that follow it: those that bind
more strongly, up to the first that does not. -/
def Climbs (precedence : Precedence) (left : Expr) (words : List Word)
    (chain : List (Symbol × Signed)) (next : TokenKind) : Prop :=
  ∃ taken kept others, words = taken ++ kept ∧ Links Extends kept others ∧
    others.length ≤ chain.length ∧
    resolve others = (resolve chain).dropWhile (precedence.level < ·.1.level) ∧
    Climb precedence left taken (headKind kept next)
      (group left ((resolve chain).takeWhile (precedence.level < ·.1.level)))

theorem takeWhile_congr {p q : α → Bool} {list : List α} (same : ∀ a ∈ list, p a = q a) :
    list.takeWhile p = list.takeWhile q ∧ list.dropWhile p = list.dropWhile q := by
  induction list with
  | nil => exact ⟨rfl, rfl⟩
  | cons a list ih =>
    have here := same a (List.mem_cons_self ..)
    obtain ⟨taken, dropped⟩ := ih fun b member => same b (List.mem_cons_of_mem a member)
    simp only [List.takeWhile_cons, List.dropWhile_cons, here, taken, dropped, and_self]

/-- A sign takes the powers that follow its operand, and no other links. -/
theorem powers_eq {links : List Link} (legal : ∀ link ∈ links, joins link.1 = true)
    (first : Expr) :
    group first (links.takeWhile (Precedence.unary.level < ·.1.level)) =
        (links.takeWhile (·.1 = .pow)).foldl join first ∧
      links.dropWhile (Precedence.unary.level < ·.1.level) = links.dropWhile (·.1 = .pow) := by
  have same : ∀ link ∈ links, decide (Precedence.unary.level < link.1.level) =
      decide (link.1 = .pow) := fun link member =>
    decide_eq_decide.mpr (unary_lt_iff (legal link member))
  obtain ⟨taken, dropped⟩ := takeWhile_congr same
  refine ⟨?_, dropped⟩
  rw [taken]
  have powers : ∀ link ∈ links.takeWhile (·.1 = .pow), link.1.level = Symbol.pow.level := by
    intro link member
    rw [of_decide_eq_true (List.all_eq_true.mp List.all_takeWhile link member)]
  exact Grouping.group_eq_foldl powers first

/-- An operand with its signs is read together with the powers that the signs take, and
what then follows extends it. -/
theorem item_reads (climbs : ∀ {left words chain}, Links Extends words chain →
      chain.length ≤ bound → Climbs .unary left words chain next)
    (item : Item Extends words first) (links : Links Extends rest chain)
    (fits : chain.length ≤ bound) :
    ∃ taken kept others operand, rest = taken ++ kept ∧ Links Extends kept others ∧
      others.length ≤ chain.length ∧
      absorb first.signs first.operand (resolve chain) = (operand, resolve others) ∧
      ∀ {precedence more after e'}, precedence.level < Precedence.call.level →
        kept = more ++ after → Climb precedence operand more (headKind after next) e' →
        Reading.Expression precedence (words ++ taken ++ more) (headKind after next) e' := by
  induction item with
  | @plain words e extends' =>
    refine ⟨[], rest, chain, e, rfl, links, Nat.le_refl _, rfl, ?_⟩
    intro precedence more after e' weak _ climb
    rw [List.append_nil]
    exact extends' weak climb
  | @signed sign words signs e kind text found _ ih =>
    obtain ⟨taken, kept, others, inner, rfl, inside, shorter, absorbed, reads⟩ := ih
    obtain ⟨run, left, remaining, rfl, outside, fewer, resolved, climb⟩ :=
      climbs inside (Nat.le_trans shorter fits)
    obtain ⟨powers, dropped⟩ := powers_eq (resolve_joins inside) inner
    have operand := reads (by decide) rfl climb
    rw [powers] at operand
    let powersOf := ((resolve others).takeWhile (·.1 = .pow)).foldl join inner
    refine ⟨taken ++ run, left, remaining, Grouping.signed sign powersOf, by simp, outside,
      Nat.le_trans fewer shorter, ?_, ?_⟩
    · rw [resolved, dropped, absorb, absorbed]
    · rintro precedence more after e' - rfl climb
      rw [headKind_append] at operand
      have whole : Reading.Operand (⟨kind, text⟩ :: (words ++ taken ++ run)) _ _ :=
        .prefixed found operand
      simpa using Reading.Expression.intro whole climb

/-- The links that follow an expression are taken as far as their strengths allow. -/
theorem links_climb (links : Links Extends words chain) (ends : next.endsExpression = true)
    (precedence : Precedence) (left : Expr) : Climbs precedence left words chain next := by
  -- By the number of links: the operand of the first one leaves fewer of them, and so do the
  -- links that this operand takes.
  induction count : chain.length using Nat.strongRecOn generalizing words chain precedence left with
  | ind _ ih =>
    subst count
    cases links with
    | done =>
      refine ⟨[], [], [], rfl, .done, Nat.le_refl _, rfl, ?_⟩
      rw [resolve, List.takeWhile_nil, Grouping.group_nil]
      exact .done (TokenKind.endsAt_of_ends ends)
    | @more symbol binding words item rest chain kind text found other strength operand links =>
      have level := level_eq strength
      by_cases weak : binding.level ≤ precedence.level
      case pos =>
        have stops : ¬ precedence.level < symbol.level := by omega
        refine ⟨[], _, _, rfl, .more found other strength operand links, Nat.le_refl _, ?_, ?_⟩
        · simp [resolve, stops]
        · simp only [resolve, List.takeWhile_cons, stops, decide_false, Bool.false_eq_true, if_false,
            Grouping.group_nil]
          exact .done (TokenKind.endsAt_of_weak found strength weak)
      case neg =>
        have bounds := level_bounds (joins_of strength other)
        obtain ⟨taken, kept, others, x, rfl, inside, shorter, absorbed, reads⟩ :=
          item_reads (fun links fits => ih _ (Nat.lt_succ_of_le fits) links .unary _ rfl) operand
            links (Nat.le_refl _)
        obtain ⟨run, left', remaining, rfl, outside, fewer, resolved, climb⟩ :=
          ih _ (Nat.lt_succ_of_le shorter) inside binding x rfl
        have right := reads (by omega) rfl climb
        obtain ⟨run', last, final, rfl, finished, fewest, resolved', climb'⟩ :=
          ih _ (Nat.lt_succ_of_le (Nat.le_trans fewer shorter)) outside precedence
            (join left (symbol, group x ((resolve others).takeWhile (binding.level < ·.1.level)))) rfl
        obtain ⟨grouped, dropped⟩ := Grouping.group_run level (Nat.not_le.mp weak) (resolve others)
        have chained : resolve ((symbol, item) :: chain) = (symbol, x) :: resolve others := by
          simp only [resolve, absorbed]
        have above : precedence.level < symbol.level := by omega
        rw [headKind_append] at right
        rw [resolved, ← grouped] at climb'
        rw [resolved, ← dropped] at resolved'
        refine ⟨⟨kind, text⟩ :: ((words ++ taken ++ run) ++ run'), last, final, by simp, finished,
          Nat.le_succ_of_le (Nat.le_trans fewest (Nat.le_trans fewer shorter)), ?_, ?_⟩
        · simp only [chained, resolved', List.dropWhile_cons, above, decide_true, if_true]
        · simp only [chained, List.takeWhile_cons, above, decide_true, if_true]
          exact .infixed found other strength (by omega) right climb'

theorem eq_nil_of_resolve (none : resolve chain = []) : chain = [] := by
  cases chain with
  | nil => rfl
  | cons link chain => simp [resolve] at none

/-- A chain before a token that ends expressions is read as its tree. -/
theorem chain_reads (item : Item Extends words first) (links : Links Extends rest chain)
    (ends : next.endsExpression = true) :
    Reading.Expression .lowest (words ++ rest) next (tree first chain) := by
  obtain ⟨taken, kept, others, operand, rfl, inside, -, absorbed, reads⟩ :=
    item_reads (fun links _ => links_climb links ends .unary _) item links (Nat.le_refl _)
  obtain ⟨run, last, final, rfl, finished, -, resolved, climb⟩ :=
    links_climb inside ends .lowest operand
  have all : ∀ link ∈ resolve others, decide (Precedence.lowest.level < link.1.level) = true :=
    fun link member => decide_eq_true (level_bounds (resolve_joins inside link member)).1
  have taking := @List.takeWhile_append_of_pos _ _ _ [] all
  have dropping := @List.dropWhile_append_of_pos _ _ _ [] all
  simp only [List.append_nil, List.takeWhile_nil, List.dropWhile_nil] at taking dropping
  rw [dropping] at resolved
  obtain rfl := eq_nil_of_resolve resolved
  cases finished
  have whole := reads (by decide) rfl climb
  rw [taking] at whole
  simpa [tree, absorbed] using whole

/-- The words are read as an expression before every token that ends one. -/
def Reads (words : List Word) (e : Expr) : Prop :=
  ∀ {next}, next.endsExpression = true → Reading.Expression .lowest words next e

theorem Items.arguments (items : Items Reads words es) (text : String) :
    Reading.Arguments (words ++ [⟨.rightParen, text⟩]) es := by
  induction items with
  | last expression => exact .last (expression rfl)
  | trailing expression =>
    rw [List.append_assoc]
    exact .more (expression rfl) .done
  | more expression _ ih =>
    rw [List.append_assoc]
    exact .more (expression rfl) ih

theorem members_end (members : Reading.Members words es) (next : TokenKind) :
    (headKind words next).endsExpression = true := by
  rcases members.starts next with comma | brace
  · rw [comma]; rfl
  · rw [brace]; rfl

theorem Items.members (items : Items Reads words es) (text : String) : ∃ first rest e others,
    words ++ [⟨.rightBrace, text⟩] = first ++ rest ∧ es = e :: others ∧ Reads first e ∧
      Reading.Members rest others := by
  induction items with
  | last expression => exact ⟨_, _, _, _, rfl, rfl, expression, .done⟩
  | trailing expression => exact ⟨_, _, _, _, List.append_assoc .., rfl, expression, .trailing⟩
  | more expression _ ih =>
    obtain ⟨first, rest, e, others, same, rfl, next, members⟩ := ih
    refine ⟨_, _, _, _, by rw [List.append_assoc, List.cons_append, same], rfl, expression,
      .more (next (members_end members .endOfInput)) members⟩

theorem arms_end (arms : Reading.Arms seenElse value words pieces) (next : TokenKind) :
    (headKind words next).endsExpression = true := by
  rcases arms.starts next with condition | otherwise
  · rw [condition]; rfl
  · rw [otherwise]; rfl

theorem arms_cons (guarded : Reading.Guard seenElse words isElse g)
    (others : pieces = [] ∧ rest = [] ∨ ∃ first more next,
      rest ++ [⟨.rightBrace, text⟩] = first ++ more ∧ Reads first next ∧
        Reading.Arms (seenElse || isElse) next more pieces) (text' : String) :
    Reading.Arms seenElse value (words ++ ⟨.semicolon, text'⟩ :: (rest ++ [⟨.rightBrace, text⟩]))
      ((value, g) :: pieces) := by
  rcases others with ⟨rfl, rfl⟩ | ⟨first, more, next, same, reads, arms⟩
  · exact .last guarded
  · rw [same]
    exact .more guarded (reads (arms_end arms .endOfInput)) arms

/-- The arms of a block, of which one at most is its `else`, are read from the first guard
on. -/
theorem Arms.arms (arms : Arms Reads count words pieces) (seenElse : Bool)
    (one : seenElse.toNat + count ≤ 1) (text : String) :
    pieces = [] ∧ words = [] ∨ ∃ first rest value,
      words ++ [⟨.rightBrace, text⟩] = first ++ rest ∧ Reads first value ∧
        Reading.Arms seenElse value rest pieces := by
  induction arms generalizing seenElse with
  | done => exact .inl ⟨rfl, rfl⟩
  | @condition words value words' g count rest pieces stop ifText before condition _ ih =>
    have guard : Reading.Guard seenElse (⟨.ifWord, ifText⟩ :: words') false g :=
      .condition (condition rfl)
    have others := ih (seenElse || false) (by rwa [Bool.or_false])
    exact .inr ⟨words, _, value, by simp, before, arms_cons guard others stop⟩
  | @otherwise words value count rest pieces elseText stop before _ ih =>
    obtain rfl : seenElse = false := Bool.toNat_eq_zero.mp (by omega)
    have guard : Reading.Guard false [⟨.elseWord, elseText⟩] true (.boolean true) := .otherwise
    have others := ih (false || true) (by simpa [Nat.add_comm] using one)
    exact .inr ⟨words, _, value, by simp, before, arms_cons guard others stop⟩

mutual

theorem Primary.reads : Primary words e → Reading.Operand words next e
  | .name => .name
  | .integer read => .integer read
  | .real read => .real read
  | .trueWord => .trueWord
  | .falseWord => .falseWord
  | .undefinedWord => .undefinedWord
  | .parens expression => .parens (expression.reads rfl)
  | .bars expression => .bars (expression.reads rfl)
  | .emptySet => .emptySet
  | .set items => by
    obtain ⟨first, rest, e, others, same, rfl, reads, members⟩ := (itemsRead items).members _
    rw [same]
    exact .set (reads (members_end members next)) members
  | .piecewise arms nonempty one => by
    obtain ⟨none, -⟩ | ⟨first, rest, value, same, reads, read⟩ :=
      (armsRead arms).arms false (by simpa using one) _
    · exact absurd none nonempty
    · rw [same]
      exact .piecewise (reads (arms_end read next)) read

theorem Suffixed.extends' : Suffixed words e → Extends words e
  | .plain primary => fun _ climb => .intro primary.reads climb
  | .factorial operand => fun weak climb => by
    rw [List.append_assoc]
    exact operand.extends' weak (.factorial climb)
  | .emptyCall operand => fun weak climb => by
    rw [List.append_assoc]
    exact operand.extends' weak (.call weak .done climb)
  | .call operand items => fun weak climb => by
    rw [List.append_assoc]
    exact operand.extends' weak (.call weak ((itemsRead items).arguments _) climb)

theorem Expression.reads : Expression words e → next.endsExpression = true →
    Reading.Expression .lowest words next e
  | .intro item links, ends => chain_reads (itemExtends item) (linksExtend links) ends

theorem itemsRead : Items Expression words es → Items Reads words es
  | .last expression => .last expression.reads
  | .trailing expression => .trailing expression.reads
  | .more expression items => .more expression.reads (itemsRead items)

theorem armsRead : Arms Expression count words pieces → Arms Reads count words pieces
  | .done => .done
  | .condition value condition arms => .condition value.reads condition.reads (armsRead arms)
  | .otherwise value arms => .otherwise value.reads (armsRead arms)

theorem itemExtends : Item Suffixed words first → Item Extends words first
  | .plain operand => .plain operand.extends'
  | .signed found item => .signed found (itemExtends item)

theorem linksExtend : Links Suffixed words chain → Links Extends words chain
  | .done => .done
  | .more found other strength item links =>
    .more found other strength (itemExtends item) (linksExtend links)

end

end Chain

end PiecewiseLang
