import PiecewiseLang.Environment.Forest
import PiecewiseLang.Proofs.Environment.Names
import PiecewiseLang.Proofs.Session.Effects

/-! Trees of scopes that grow. Scopes are made, on their own or inside of others, and names are
bound in them, in any order, so that a name can come into sight of scopes that are there already.
Every operation adds one scope or extends the bindings of one, and this tells what is in sight of
every scope before and after it. -/
namespace PiecewiseLang

/-- What is done to a forest of scopes. -/
inductive Operation where
  | root
  | child (parent : Nat)
  | declare (number : Nat) (name : String) (value : Value)
  | install (number : Nat)

namespace Forest

/-- The forest after an operation on scopes it has. A binding that fails leaves the forest as it
is, and the installation of the initial names leaves the bindings that were made. -/
def perform (forest : Forest) : Operation → Option Forest
  | .root => some (forest.addRoot [])
  | .child parent => if parent < forest.length then some (forest.addChild parent) else none
  | .declare number name value =>
    (forest.declare number name value).map fun result => result.toOption.getD forest
  | .install number => (forest.install number).map Prod.fst

/-- The bindings of the scope with a number, which are none if there is no such scope. -/
def bindings (forest : Forest) (number : Nat) : Bindings :=
  (forest[number]?.map ScopeNode.bindings).getD []

/-- The value a name has in a scope itself. -/
def own? (forest : Forest) (number : Nat) (name : String) : Option Value :=
  (forest.bindings number).lookup name

/-- The value a name has where a scope is the innermost one. -/
def get? (forest : Forest) (number : Nat) (name : String) : Option Value :=
  (forest.environment? number).bind (·.get? name)

/-- The number of the scope around the one with a number, if there are both. -/
def around? (forest : Forest) (number : Nat) : Option Nat :=
  forest[number]?.bind ScopeNode.parent

/-- The numbers of a scope and of the scopes around it, outwards. -/
inductive Path (forest : Forest) : Nat → List Nat → Prop where
  | root : number < forest.length → forest.around? number = none → Path forest number [number]
  | child : forest.around? number = some parent → Path forest parent path →
      Path forest number (number :: path)

/-- From one scope outwards another is met before any that binds the name. -/
def Reaches (forest : Forest) (number other : Nat) (name : String) : Prop :=
  ∃ inner outer, forest.Path number (inner ++ other :: outer) ∧
    ∀ scope ∈ inner, forest.own? scope name = none

/-- Scopes are inside of earlier ones, and bind no name twice. -/
structure WellGrown (forest : Forest) : Prop where
  parents : ∀ number parent, forest.around? number = some parent → parent < number
  distinct : ∀ number, (forest.bindings number).names.Nodup

variable {forest after : Forest} {number : Nat} {scopes : List Nat}

theorem bindings_of_node {node : ScopeNode} (found : forest[number]? = some node) :
    forest.bindings number = node.bindings := by
  rw [bindings, found]
  rfl

theorem lt_length_of_around (found : forest.around? number = some parent) :
    number < forest.length := by
  obtain ⟨node, found, -⟩ := Option.bind_eq_some_iff.mp found
  exact (List.getElem?_eq_some_iff.mp found).1

theorem chain_succ (inside : number < forest.length) (count : Nat) :
    forest.chain (count + 1) number = forest.bindings number ::
      ((forest.around? number).map (forest.chain count)).getD [] := by
  obtain ⟨node, found⟩ : ∃ node, forest[number]? = some node := ⟨_, List.getElem?_eq_getElem inside⟩
  rw [chain, bindings, around?, found]
  cases parent : node.parent <;> simp [parent]

namespace Path

theorem lt_length (path : forest.Path number scopes) : number < forest.length := by
  cases path with
  | root inside => exact inside
  | child found => exact lt_length_of_around found

theorem exists_outer (path : forest.Path number scopes) : ∃ outer, scopes = number :: outer := by
  cases path with
  | root | child => exact ⟨_, rfl⟩

theorem length_le (grown : forest.WellGrown) (path : forest.Path number scopes) :
    scopes.length ≤ number + 1 := by
  induction path with
  | root => simp
  | child found _ ih =>
    have earlier := grown.parents _ _ found
    simp only [List.length_cons]
    omega

theorem le (grown : forest.WellGrown) (path : forest.Path number scopes) :
    ∀ scope ∈ scopes, scope ≤ number := by
  induction path with
  | root => simp
  | child found _ ih =>
    have earlier := grown.parents _ _ found
    exact List.forall_mem_cons.mpr
      ⟨Nat.le_refl _, fun scope member => Nat.le_trans (ih scope member) (Nat.le_of_lt earlier)⟩

theorem outer_lt (grown : forest.WellGrown) (path : forest.Path number (number :: outer)) :
    ∀ scope ∈ outer, scope < number := by
  cases path with
  | root => nofun
  | child found path =>
    intro scope member
    exact Nat.lt_of_le_of_lt (path.le grown scope member) (grown.parents _ _ found)

theorem descending (grown : forest.WellGrown) (path : forest.Path number scopes) :
    scopes.Pairwise (· > ·) := by
  induction path with
  | root => exact List.pairwise_singleton ..
  | child found path ih => exact .cons ((Path.child found path).outer_lt grown) ih

theorem chain_eq (path : forest.Path number scopes) (enough : scopes.length ≤ count) :
    forest.chain count number = scopes.map forest.bindings := by
  induction path generalizing count with
  | root inside found =>
    obtain ⟨count, rfl⟩ : ∃ fewer, count = fewer + 1 := Nat.exists_eq_add_of_le' enough
    rw [chain_succ inside, found]
    rfl
  | child found path ih =>
    obtain ⟨count, rfl⟩ : ∃ fewer, count = fewer + 1 :=
      Nat.exists_eq_add_of_le' (Nat.le_trans (Nat.le_add_left 1 _) enough)
    rw [chain_succ (lt_length_of_around found), found, Option.map_some, Option.getD_some,
      ih (Nat.le_of_succ_le_succ enough)]
    rfl

/-- Paths are told by the scopes around others. -/
theorem congr (inside : forest.length ≤ after.length)
    (same : ∀ number < forest.length, after.around? number = forest.around? number)
    (path : forest.Path number scopes) : after.Path number scopes := by
  induction path with
  | root within found => exact .root (Nat.lt_of_lt_of_le within inside) ((same _ within).trans found)
  | child found _ ih => exact .child ((same _ (lt_length_of_around found)).trans found) ih

end Path

/-- Every scope has a path outwards. -/
theorem WellGrown.exists_path (grown : forest.WellGrown) (inside : number < forest.length) :
    ∃ outer, forest.Path number (number :: outer) := by
  induction number using Nat.strongRecOn with
  | ind number ih =>
    cases found : forest.around? number with
    | none => exact ⟨[], .root inside found⟩
    | some parent =>
      have earlier := grown.parents number parent found
      obtain ⟨outer, path⟩ := ih parent earlier (Nat.lt_trans earlier inside)
      exact ⟨parent :: outer, .child found path⟩

/-- What is in sight of a scope is what its path binds. -/
theorem WellGrown.environment_eq (grown : forest.WellGrown)
    (path : forest.Path number (number :: outer)) :
    forest.environment? number = some ⟨forest.bindings number, outer.map forest.bindings⟩ := by
  have enough := Nat.le_trans (path.length_le grown) path.lt_length
  rw [environment?, path.chain_eq enough, List.map_cons]

theorem get?_eq (grown : forest.WellGrown) (path : forest.Path number scopes) (name : String) :
    forest.get? number name = scopes.findSome? (forest.own? · name) := by
  obtain ⟨outer, rfl⟩ := path.exists_outer
  rw [get?, grown.environment_eq path]
  change (List.map forest.bindings (number :: outer)).findSome? _ = _
  rw [List.findSome?_map]
  rfl

/-! What an operation does. -/

theorem bindings_addScope (forest : Forest) (parent : Option Nat) (number : Nat) :
    bindings (forest ++ [⟨parent, []⟩]) number = forest.bindings number := by
  rw [bindings, bindings, List.getElem?_append]
  split
  case isTrue => rfl
  case isFalse outside =>
    rw [List.getElem?_eq_none (Nat.not_lt.mp outside)]
    cases number - forest.length <;> rfl

theorem around?_addScope (forest : Forest) (parent : Option Nat) (number : Nat) :
    around? (forest ++ [⟨parent, []⟩]) number =
      if number = forest.length then parent else forest.around? number := by
  rw [around?, around?]
  rcases Nat.lt_trichotomy number forest.length with inside | rfl | outside
  · rw [if_neg (Nat.ne_of_lt inside), List.getElem?_append_left inside]
  · simp
  · rw [if_neg (Nat.ne_of_gt outside), List.getElem?_eq_none (Nat.le_of_lt outside),
      List.getElem?_eq_none (by simpa using Nat.succ_le_of_lt outside)]

theorem length_update (forest : Forest) (number : Nat) (made : Bindings) :
    (forest.update number made).length = forest.length := by
  simp [update]

theorem bindings_update (inside : number < forest.length) (made : Bindings) (other : Nat) :
    (forest.update number made).bindings other =
      if other = number then made else forest.bindings other := by
  rw [bindings, bindings, update, List.getElem?_modify]
  by_cases same : number = other
  · subst same
    simp [List.getElem?_eq_getElem inside]
  · simp [same, Ne.symm same]

/-- To put back the bindings a scope has changes nothing. -/
theorem update_bindings (forest : Forest) (number : Nat) :
    forest.update number (forest.bindings number) = forest := by
  refine List.ext_getElem? fun other => ?_
  rw [update, List.getElem?_modify]
  cases found : forest[other]? with
  | none => rfl
  | some node =>
    by_cases same : number = other
    · subst same
      simp [bindings_of_node found]
    · simp [same]

theorem update_update (forest : Forest) (number : Nat) (made more : Bindings) :
    (forest.update number made).update number more = forest.update number more := by
  rw [update, update, List.modify_modify_eq]
  rfl

theorem around?_update (forest : Forest) (number : Nat) (made : Bindings) (other : Nat) :
    (forest.update number made).around? other = forest.around? other := by
  rw [around?, around?, update, List.getElem?_modify]
  cases forest[other]? with
  | none => rfl
  | some node => by_cases same : number = other <;> simp [same]

theorem WellGrown.addScope (grown : forest.WellGrown)
    (inside : ∀ parent ∈ around, parent < forest.length) : WellGrown (forest ++ [⟨around, []⟩]) where
  parents number parent found := by
    rw [around?_addScope] at found
    split at found
    case isTrue last => exact last ▸ inside parent found
    case isFalse => exact grown.parents number parent found
  distinct number := by
    rw [bindings_addScope]
    exact grown.distinct number

/-- Binds names in one scope, in order, up to the first that cannot be bound. -/
def declareAll (forest : Forest) (number : Nat) (all : Bindings) :
    Option (Forest × Option EvalError) :=
  (forest.environment? number).map fun env =>
    (forest.update number (env.declareAll all).1.innermost, (env.declareAll all).2)

/-- The declarations of some names in one scope, in order. -/
def declarations (number : Nat) (all : Bindings) : List Operation :=
  all.map fun binding => .declare number binding.1 binding.2

/-- The forest with one more binding in a scope. -/
def extend (forest : Forest) (number : Nat) (name : String) (value : Value) : Forest :=
  forest.update number (forest.bindings number ++ [(name, value)])

section
variable {name : String} (inside : number < forest.length)
include inside

theorem bindings_extend (value : Value) (other : Nat) : (forest.extend number name value).bindings other =
    if other = number then forest.bindings number ++ [(name, value)]
    else forest.bindings other := bindings_update inside _ other

/-- A new binding gives its scope a value for the name, and changes nothing else of any scope. -/
theorem own?_extend (fresh : forest.own? number name = none) (value : Value) (other : Nat)
    (wanted : String) : (forest.extend number name value).own? other wanted =
      if other = number ∧ wanted = name then some value else forest.own? other wanted := by
  rw [own?, bindings_extend inside]
  by_cases same : other = number
  · subst same
    by_cases named : wanted = name
    · subst named
      rw [own?] at fresh
      simp [List.lookup_append, fresh]
    · have other : (wanted == name) = false := beq_eq_false_iff_ne.mpr named
      simp [List.lookup_append, List.lookup_cons, other, named, own?]
  · simp [same, own?]

theorem WellGrown.extend (grown : forest.WellGrown) (fresh : forest.own? number name = none)
    (value : Value) : (forest.extend number name value).WellGrown where
  parents other parent found := by
    rw [Forest.extend, around?_update] at found
    exact grown.parents other parent found
  distinct other := by
    rw [bindings_extend inside]
    split
    · have absent := Bindings.lookup_eq_none_iff.mp fresh
      rw [Bindings.names_append, List.nodup_append]
      refine ⟨grown.distinct number, List.nodup_singleton name, ?_⟩
      rintro first member _ last rfl
      cases List.mem_singleton.mp last
      exact absent member
    · exact grown.distinct other

/-- To declare a name fails where the scope binds it, and otherwise adds the binding. -/
theorem WellGrown.declare_cases (grown : forest.WellGrown) (name : String) (value : Value) :
    (∃ other, forest.own? number name = some other ∧
      forest.declare number name value = some (.error (.boundAlready name))) ∨
    (forest.own? number name = none ∧
      forest.declare number name value = some (.ok (forest.extend number name value))) := by
  obtain ⟨outer, path⟩ := grown.exists_path inside
  rw [declare, grown.environment_eq path]
  rcases Environment.declare_cases ⟨forest.bindings number, outer.map forest.bindings⟩ name value with
    ⟨fresh, declared⟩ | ⟨other, bound, declared⟩
  · exact .inr ⟨fresh, by rw [Option.map_some, declared]; rfl⟩
  · exact .inl ⟨other, bound, by rw [Option.map_some, declared]; rfl⟩

theorem WellGrown.environment_extend (grown : forest.WellGrown)
    (fresh : forest.own? number name = none) (value : Value)
    (seen : forest.environment? number = some env) :
    (forest.extend number name value).environment? number = some (env.extend [(name, value)]) := by
  obtain ⟨outer, path⟩ := grown.exists_path inside
  have after := (grown.extend inside fresh value).environment_eq
    (path.congr (Nat.le_of_eq (length_update ..).symm) fun other _ => around?_update ..)
  rw [grown.environment_eq path, Option.some.injEq] at seen
  subst seen
  have around : outer.map (forest.extend number name value).bindings =
      outer.map forest.bindings := by
    refine List.map_congr_left fun other member => ?_
    rw [bindings_extend inside, if_neg (Nat.ne_of_lt (path.outer_lt grown other member))]
  rw [after, around, bindings_extend inside, if_pos rfl]
  rfl

theorem WellGrown.declareAll_bound (grown : forest.WellGrown)
    (bound : forest.own? number name = some other) (value : Value) (all : Bindings) :
    forest.declareAll number ((name, value) :: all) = some (forest, some (.boundAlready name)) := by
  obtain ⟨outer, path⟩ := grown.exists_path inside
  have declared : Environment.declare ⟨forest.bindings number, outer.map forest.bindings⟩ name value =
      .error (.boundAlready name) := by
    rw [own?] at bound
    rw [Environment.declare, bound]
  rw [declareAll, grown.environment_eq path, Option.map_some, Environment.declareAll, declared]
  dsimp only
  rw [update_bindings]

theorem WellGrown.declareAll_fresh (grown : forest.WellGrown)
    (fresh : forest.own? number name = none) (value : Value) (all : Bindings) :
    forest.declareAll number ((name, value) :: all) =
      (forest.extend number name value).declareAll number all := by
  obtain ⟨outer, path⟩ := grown.exists_path inside
  have seen := grown.environment_eq path
  have declared : Environment.declare ⟨forest.bindings number, outer.map forest.bindings⟩ name value =
      .ok (Environment.extend ⟨forest.bindings number, outer.map forest.bindings⟩
        [(name, value)]) := by
    rw [own?] at fresh
    rw [Environment.declare, fresh]
    rfl
  rw [declareAll, declareAll, seen, grown.environment_extend inside fresh value seen,
    Option.map_some, Option.map_some, Environment.declareAll, declared, Forest.extend,
    update_update]

/-- Names are declared in order, up to the first that the scope binds. -/
theorem WellGrown.declareAll_spec (grown : forest.WellGrown) (all : Bindings) :
    ∃ done rest after failure, all = done ++ rest ∧
      forest.declareAll number all = some (after, failure) ∧
      (declarations number done).foldlM perform forest = some after ∧
      (rest = [] ∧ failure = none ∨ ∃ name value others other, rest = (name, value) :: others ∧
        after.own? number name = some other ∧ failure = some (.boundAlready name)) := by
  induction all generalizing forest with
  | nil =>
    refine ⟨[], [], forest, none, rfl, ?_, rfl, .inl ⟨rfl, rfl⟩⟩
    obtain ⟨outer, path⟩ := grown.exists_path inside
    rw [declareAll, grown.environment_eq path, Option.map_some]
    exact congrArg (fun same => some (same, none)) (update_bindings forest number)
  | cons binding all ih =>
    obtain ⟨name, value⟩ := binding
    rcases grown.declare_cases inside name value with ⟨other, bound, -⟩ | ⟨fresh, declared⟩
    · exact ⟨[], _, forest, _, rfl, grown.declareAll_bound inside bound value all, rfl,
        .inr ⟨name, value, all, other, rfl, bound, rfl⟩⟩
    · obtain ⟨done, rest, after, failure, rfl, ran, performed, ended⟩ :=
        ih ((length_update ..).symm ▸ inside) (grown.extend inside fresh value)
      refine ⟨(name, value) :: done, rest, after, failure, rfl, ?_, ?_, ended⟩
      · rw [grown.declareAll_fresh inside fresh]
        exact ran
      · rw [declarations, List.map_cons, List.foldlM_cons, perform, declared]
        exact performed

end

theorem install_eq (forest : Forest) (number : Nat) :
    forest.install number = forest.declareAll number initialBindings := rfl

/-- How a forest grows: by one scope inside of those it has, or by one binding of a name that its
scope does not bind, any number of times. -/
inductive Grows (forest : Forest) : Forest → Prop where
  | refl : Grows forest forest
  | scope {next : Forest} : Grows forest next → (∀ parent ∈ around, parent < next.length) →
      Grows forest (next ++ [⟨around, []⟩])
  | binding {next : Forest} : Grows forest next → place < next.length →
      next.own? place name = none → Grows forest (next.extend place name value)

theorem Grows.trans {next : Forest} (first : Grows forest next) (second : Grows next after) :
    Grows forest after := by
  induction second with
  | refl => exact first
  | scope _ inside ih => exact .scope ih inside
  | binding _ inside fresh ih => exact .binding ih inside fresh

theorem Grows.wellGrown (grows : Grows forest after) (grown : forest.WellGrown) :
    after.WellGrown := by
  induction grows with
  | refl => exact grown
  | scope _ inside ih => exact ih.addScope inside
  | binding _ inside fresh ih => exact ih.extend inside fresh _

/-- What a scope binds it goes on to bind. -/
theorem Grows.own? (grows : Grows forest after) (bound : forest.own? number name = some value) :
    after.own? number name = some value := by
  induction grows with
  | refl => exact bound
  | scope _ inside ih =>
    rw [Forest.own?, bindings_addScope]
    exact ih
  | @binding _ other added _ _ inside fresh ih =>
    rw [own?_extend inside fresh, if_neg ?_]
    · exact ih
    · rintro ⟨rfl, rfl⟩
      cases fresh.symm.trans ih

theorem lt_length_of_environment (seen : forest.environment? number = some env) :
    number < forest.length := by
  obtain ⟨node, found, -⟩ := node_of_environment seen
  exact (List.getElem?_eq_some_iff.mp found).1

theorem WellGrown.declare_grows (grown : forest.WellGrown)
    (performed : forest.perform (.declare number name value) = some after) :
    Grows forest after := by
  obtain ⟨result, declared, rfl⟩ := Option.map_eq_some_iff.mp performed
  obtain ⟨env, seen, -⟩ := Option.map_eq_some_iff.mp declared
  have inside := lt_length_of_environment seen
  rcases grown.declare_cases inside name value with ⟨other, -, failed⟩ | ⟨fresh, added⟩
  · cases declared.symm.trans failed
    exact .refl
  · cases declared.symm.trans added
    exact .binding .refl inside fresh

theorem WellGrown.declarations_grow (grown : forest.WellGrown) {all : Bindings}
    (performed : (declarations number all).foldlM perform forest = some after) :
    Grows forest after := by
  induction all generalizing forest with
  | nil =>
    cases performed
    exact .refl
  | cons binding all ih =>
    rw [declarations, List.map_cons, List.foldlM_cons] at performed
    obtain ⟨next, first, performed⟩ := Option.bind_eq_some_iff.mp performed
    have grows := grown.declare_grows first
    exact grows.trans (ih (grows.wellGrown grown) performed)

/-- One operation on scopes that are there makes the forest grow. -/
theorem WellGrown.perform_grows (grown : forest.WellGrown)
    (performed : forest.perform operation = some after) : Grows forest after := by
  cases operation with
  | root =>
    cases performed
    exact .scope .refl (by simp)
  | child parent =>
    rw [perform] at performed
    split at performed
    case isTrue inside =>
      cases performed
      exact .scope .refl (by simpa using inside)
    case isFalse => cases performed
  | declare number name value => exact grown.declare_grows performed
  | install number =>
    obtain ⟨⟨_, failure⟩, installed, rfl⟩ := Option.map_eq_some_iff.mp performed
    obtain ⟨env, seen, -⟩ := Option.map_eq_some_iff.mp installed
    rw [install_eq] at installed
    obtain ⟨done, rest, after, failure, -, declared, performed, -⟩ :=
      grown.declareAll_spec (lt_length_of_environment seen) initialBindings
    cases installed.symm.trans declared
    exact grown.declarations_grow performed

/-- Any operations make the forest grow. -/
theorem WellGrown.operations_grow {operations : List Operation} (grown : forest.WellGrown)
    (performed : operations.foldlM perform forest = some after) : Grows forest after := by
  induction operations generalizing forest with
  | nil =>
    cases performed
    exact .refl
  | cons operation operations ih =>
    obtain ⟨next, first, performed⟩ := Option.bind_eq_some_iff.mp performed
    have grows := grown.perform_grows first
    exact grows.trans (ih (grows.wellGrown grown) performed)

theorem wellGrown_nil : WellGrown [] where
  parents _ _ found := nomatch found
  distinct _ := .nil

end Forest

end PiecewiseLang
