import PiecewiseLang.Expr

/-! The tree of a chain of operands, as the table of binding strengths prescribes it and
without regard to how a parser finds it. Signs in front of operands are resolved first, from
right to left; what remains is split at the rightmost operator of least strength. -/
namespace PiecewiseLang

/-- An operand with the signs in front of it, the outermost first. -/
structure Signed where
  signs : List Symbol
  operand : Expr

/-- How strongly an operator between two operands binds. -/
def Symbol.level (symbol : Symbol) : Nat :=
  ((Operator.infixPrecedence? symbol).getD .lowest).level

namespace Grouping

/-- An operator and the operand to its right. -/
abbrev Link := Symbol × Expr

def join (left : Expr) (link : Link) : Expr :=
  .combination ⟨link.1, .infixed⟩ (some left) (some link.2)

def signed (sign : Symbol) (operand : Expr) : Expr :=
  .combination ⟨sign, .prefixed⟩ none (some operand)

/-- Signs take the operand they stand before together with the powers that follow it, the
innermost sign first. The result is one operand and the links that are left. -/
def absorb : List Symbol → Expr → List Link → Expr × List Link
  | [], operand, links => (operand, links)
  | sign :: signs, operand, links =>
    let (inner, rest) := absorb signs operand links
    (signed sign ((rest.takeWhile (·.1 = .pow)).foldl join inner), rest.dropWhile (·.1 = .pow))

/-- The links of a chain with all signs resolved, from right to left. -/
def resolve : List (Symbol × Signed) → List Link
  | [] => []
  | (symbol, item) :: rest =>
    let (operand, links) := absorb item.signs item.operand (resolve rest)
    (symbol, operand) :: links

/-- The rightmost link of least strength, between the links before and after it. -/
def weakest : List Link → Option (List Link × Link × List Link)
  | [] => none
  | link :: links =>
    match weakest links with
    | none => some ([], link, [])
    | some (before, least, after) =>
      if link.1.level < least.1.level then some ([], link, links)
      else some (link :: before, least, after)

theorem weakest_isSome (some : links ≠ []) :
    ∃ before least after, weakest links = .some (before, least, after) := by
  cases links with
  | nil => exact absurd rfl some
  | cons link links =>
    simp only [weakest]
    split
    · exact ⟨_, _, _, rfl⟩
    · split <;> exact ⟨_, _, _, rfl⟩

theorem weakest_eq_none (none : weakest links = none) : links = [] := by
  refine Decidable.byContradiction fun some => ?_
  obtain ⟨_, _, _, found⟩ := weakest_isSome some
  rw [none] at found
  cases found

theorem weakest_eq (found : weakest links = some (before, least, after)) :
    links = before ++ least :: after := by
  induction links generalizing before with
  | nil => cases found
  | cons link links ih =>
    simp only [weakest] at found
    split at found
    case h_1 none =>
      cases found
      rw [weakest_eq_none none]
      rfl
    case h_2 inner least' after' some =>
      split at found
      · cases found; rfl
      · cases found
        rw [ih some]
        rfl

/-- The tree of a chain without signs. -/
def group (first : Expr) (links : List Link) : Expr :=
  match _ : weakest links with
  | none => first
  | some (before, least, after) => join (group first before) (least.1, group least.2 after)
termination_by links.length
decreasing_by
  all_goals
    rw [weakest_eq ‹weakest links = _›, List.length_append, List.length_cons]
    omega

/-- The tree of a chain of operands with signs. -/
def tree (first : Signed) (links : List (Symbol × Signed)) : Expr :=
  let (operand, rest) := absorb first.signs first.operand (resolve links)
  group operand rest

theorem weakest_le (found : weakest links = some (before, least, after)) :
    ∀ link ∈ links, least.1.level ≤ link.1.level := by
  induction links generalizing before least after with
  | nil => cases found
  | cons link links ih =>
    simp only [weakest] at found
    split at found
    case h_1 none =>
      cases found
      simp [weakest_eq_none none]
    case h_2 inner least' after' some =>
      have others := ih some
      split at found
      case isTrue below =>
        cases found
        intro other member
        rcases List.mem_cons.mp member with rfl | member
        · exact Nat.le_refl _
        · exact Nat.le_trans (Nat.le_of_lt below) (others other member)
      case isFalse above =>
        cases found
        intro other member
        rcases List.mem_cons.mp member with rfl | member
        · exact Nat.not_lt.mp above
        · exact others other member

/-- A first link that is weaker than all others is the weakest. -/
theorem weakest_first (strong : ∀ link ∈ links, first.1.level < link.1.level) :
    weakest (first :: links) = some ([], first, links) := by
  cases links with
  | nil => rfl
  | cons link links =>
    obtain ⟨before, least, after, found⟩ := weakest_isSome (List.cons_ne_nil link links)
    have member : least ∈ link :: links := by rw [weakest_eq found]; simp
    rw [weakest, found]
    exact if_pos (strong least member)

/-- Links in front that are no weaker leave the weakest one where it is. -/
theorem weakest_append (found : weakest links = some (before, least, after))
    (strong : ∀ link ∈ front, least.1.level ≤ link.1.level) :
    weakest (front ++ links) = some (front ++ before, least, after) := by
  induction front with
  | nil => exact found
  | cons link front ih =>
    have others := ih fun other member => strong other (List.mem_cons_of_mem _ member)
    rw [List.cons_append, weakest, others]
    exact if_neg (Nat.not_lt.mpr (strong link (List.mem_cons_self ..)))

theorem group_nil (first : Expr) : group first [] = first := by
  rw [group]
  rfl

theorem group_of_weakest (found : weakest links = some (before, least, after)) (first : Expr) :
    group first links = join (group first before) (least.1, group least.2 after) := by
  rw [group]
  split
  case h_1 none => rw [found] at none; cases none
  case h_2 some => rw [found] at some; cases some; rfl

/-- An operator takes on its right the stronger links that follow it, and on its left all
that stands there, provided that what comes next is no stronger. -/
theorem group_cons_append (strong : ∀ link ∈ tight, symbol.level < link.1.level)
    (weak : ∀ link ∈ rest.head?, link.1.level ≤ symbol.level) (first operand : Expr) :
    group first ((symbol, operand) :: (tight ++ rest)) =
      group (join first (symbol, group operand tight)) rest := by
  -- By the number of links that come next: the weakest of them splits both sides alike.
  induction count : rest.length using Nat.strongRecOn generalizing rest with
  | ind _ ih =>
    subst count
    cases rest with
    | nil =>
      rw [List.append_nil, group_of_weakest (weakest_first strong), group_nil, group_nil]
    | cons next rest =>
      obtain ⟨before, least, after, found⟩ := weakest_isSome (List.cons_ne_nil next rest)
      have least_le := weakest_le found next (List.mem_cons_self ..)
      have next_le := weak next rfl
      have front : ∀ link ∈ (symbol, operand) :: tight, least.1.level ≤ link.1.level := by
        intro link member
        rcases List.mem_cons.mp member with rfl | member
        · exact Nat.le_trans least_le next_le
        · exact Nat.le_of_lt (Nat.lt_of_le_of_lt (Nat.le_trans least_le next_le) (strong link member))
      have whole := weakest_append found front
      have split := weakest_eq found
      have shorter : before.length < (next :: rest).length := by
        rw [split, List.length_append, List.length_cons]
        omega
      have weak' : ∀ link ∈ before.head?, link.1.level ≤ symbol.level := by
        intro link head
        cases before with
        | nil => cases head
        | cons other before =>
          cases head
          cases (List.cons.inj split).1
          exact next_le
      rw [← List.cons_append, group_of_weakest whole, group_of_weakest found, List.cons_append,
        ih _ shorter weak' rfl]

/-- Operators of one strength group to the left. -/
theorem group_eq_foldl (same : ∀ link ∈ links, link.1.level = level) (first : Expr) :
    group first links = links.foldl join first := by
  induction links generalizing first with
  | nil => exact group_nil first
  | cons link links ih =>
    have others : ∀ other ∈ links, other.1.level = level := fun other member =>
      same other (List.mem_cons_of_mem _ member)
    have weak : ∀ other ∈ links.head?, other.1.level ≤ link.1.level := by
      intro other head
      have this := others other (List.mem_of_mem_head? head)
      exact Nat.le_of_eq (this.trans (same link (List.mem_cons_self ..)).symm)
    have none : ∀ other ∈ ([] : List Link), link.1.level < other.1.level := by simp
    have step := group_cons_append none weak first link.2
    rw [group_nil] at step
    exact step.trans (ih others _)

/-- A run of a class of items splits into the run of a narrower class and a run that begins
outside of it. -/
theorem takeWhile_split {p q : α → Bool} (narrower : ∀ a, q a = true → p a = true)
    (list : List α) :
    list.takeWhile p = list.takeWhile q ++ (list.dropWhile q).takeWhile p ∧
      list.dropWhile p = (list.dropWhile q).dropWhile p ∧
      ∀ a ∈ ((list.dropWhile q).takeWhile p).head?, q a = false := by
  induction list with
  | nil => simp
  | cons a list ih =>
    by_cases inner : q a = true
    · simpa [inner, narrower a inner] using ih
    · by_cases outer : p a = true <;> simp [inner, outer]

/-- An operator first takes what binds more strongly than itself; what is left and binds more
strongly than some bound joins the result. -/
theorem group_run (same : symbol.level = strength) (above : bound < strength)
    (links : List Link) {first operand : Expr} :
    group first ((symbol, operand) :: links.takeWhile (bound < ·.1.level)) =
        group (join first (symbol, group operand (links.takeWhile (strength < ·.1.level))))
          ((links.dropWhile (strength < ·.1.level)).takeWhile (bound < ·.1.level)) ∧
      links.dropWhile (bound < ·.1.level) =
        (links.dropWhile (strength < ·.1.level)).dropWhile (bound < ·.1.level) := by
  obtain ⟨taking, dropping, headed⟩ := takeWhile_split
    (p := fun link => decide (bound < link.1.level))
    (q := fun link => decide (strength < link.1.level))
    (fun link stronger => decide_eq_true (Nat.lt_trans above (of_decide_eq_true stronger))) links
  refine ⟨?_, dropping⟩
  rw [taking]
  refine group_cons_append ?_ ?_ first operand
  · intro link member
    rw [same]
    exact of_decide_eq_true (List.all_eq_true.mp List.all_takeWhile link member)
  · intro link member
    rw [same]
    exact Nat.not_lt.mp (of_decide_eq_false (headed link member))

/-- A link to an operand without signs. -/
def plain (link : Link) : Symbol × Signed := (link.1, ⟨[], link.2⟩)

end Grouping

end PiecewiseLang
