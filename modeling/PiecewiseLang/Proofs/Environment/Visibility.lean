import PiecewiseLang.Proofs.Environment.ScopeTree

/-! What is in sight of the scopes of a tree, and whom a new binding reaches. A name bound in one
scope gets its value in sight of the scopes inside of it from which no other scope that binds the
name is met first, and nothing else in sight of any scope changes. -/
namespace PiecewiseLang

namespace Forest

variable {forest : Forest} {number other : Nat} {name : String} {path : List Nat}

theorem get?_of_length_le (outside : forest.length ≤ number) (name : String) :
    forest.get? number name = none := by
  have missing : forest[number]? = none := List.getElem?_eq_none outside
  have nothing : forest.chain forest.length number = [] := by
    unfold chain
    split
    · rfl
    · rw [missing]
  rw [get?, environment?, nothing]
  rfl

/-- The scope a binding is added to is on a path at most once. -/
theorem Path.not_mem {inner outer : List Nat} (grown : forest.WellGrown)
    (path : forest.Path number (inner ++ other :: outer)) : other ∉ inner := by
  intro member
  have below := (List.pairwise_append.mp (path.descending grown)).2.2 other member other
    (List.mem_cons_self ..)
  exact Nat.lt_irrefl other below

section
variable (grown : forest.WellGrown) (inside : number < forest.length)
  (fresh : forest.own? number name = none) (value : Value)
include grown inside fresh

theorem get?_extend {scopes : List Nat} (path : forest.Path other scopes) (wanted : String) :
    (forest.extend number name value).get? other wanted = scopes.findSome? fun scope =>
      if scope = number ∧ wanted = name then some value else forest.own? scope wanted := by
  have path := path.congr (Nat.le_of_eq (length_update ..).symm) fun other _ =>
    around?_update forest number (forest.bindings number ++ [(name, value)]) other
  refine (get?_eq (grown.extend inside fresh value) path wanted).trans ?_
  exact congrArg (scopes.findSome? ·) (funext fun scope => own?_extend inside fresh value scope wanted)

/-- Where the scope is met before any other that binds the name, the name has the new value. -/
theorem get?_extend_of_reaches (reaches : forest.Reaches other number name) :
    (forest.extend number name value).get? other name = some value := by
  obtain ⟨inner, outer, path, unbound⟩ := reaches
  have apart := path.not_mem grown
  rw [get?_extend grown inside fresh value path, List.findSome?_append]
  have nothing : (inner.findSome? fun scope =>
      if scope = number ∧ name = name then some value else forest.own? scope name) = none := by
    refine List.findSome?_eq_none_iff.mpr fun scope member => ?_
    rw [if_neg ?_]
    · exact unbound scope member
    · rintro ⟨rfl, -⟩
      exact apart member
  rw [nothing]
  simp

/-- Anywhere else, and for any other name, the value is what it was. -/
theorem get?_extend_of_not (wanted : String)
    (elsewhere : ¬(wanted = name ∧ forest.Reaches other number name)) :
    (forest.extend number name value).get? other wanted = forest.get? other wanted := by
  rcases Nat.lt_or_ge other forest.length with there | missing
  · obtain ⟨outer, path⟩ := grown.exists_path there
    have kept : ∀ scopes : List Nat, (wanted = name → number ∉ scopes) →
        (scopes.findSome? fun scope => if scope = number ∧ wanted = name then some value
          else forest.own? scope wanted) = scopes.findSome? (forest.own? · wanted) := by
      intro scopes apart
      induction scopes with
      | nil => rfl
      | cons scope scopes ih =>
        have other : ¬(scope = number ∧ wanted = name) := by
          rintro ⟨rfl, same⟩
          exact apart same (List.mem_cons_self ..)
        rw [List.findSome?_cons, List.findSome?_cons, if_neg other,
          ih fun same member => apart same (List.mem_cons_of_mem _ member)]
    rw [get?_extend grown inside fresh value path, get?_eq grown path]
    by_cases met : wanted = name ∧ number ∈ other :: outer
    · obtain ⟨rfl, member⟩ := met
      obtain ⟨inner, rest, split, apart⟩ := List.eq_append_cons_of_mem member
      rw [split] at path ⊢
      rw [List.findSome?_append, List.findSome?_append, kept inner fun _ => apart]
      cases bound : inner.findSome? (forest.own? · wanted) with
      | some found => rfl
      | none =>
        have unbound := List.findSome?_eq_none_iff.mp bound
        exact absurd ⟨rfl, inner, rest, path, unbound⟩ elsewhere
    · exact kept _ fun same member => met ⟨same, member⟩
  · rw [get?_of_length_le missing, get?_of_length_le]
    exact Nat.le_trans (Nat.le_of_eq (length_update ..)) missing

end

/-- What is in sight of a scope, from the scopes on its path. -/
theorem WellGrown.sight (grown : forest.WellGrown) (inside : number < forest.length) :
    ∃ env outer, forest.environment? number = some env ∧ forest.Path number (number :: outer) ∧
      env.scopes = (number :: outer).map forest.bindings ∧
      (∀ scope ∈ env.scopes, scope.names.Nodup) ∧
      ∀ name, name ∈ env.names ↔
        ∃ scope ∈ number :: outer, ∃ value, forest.own? scope name = some value := by
  obtain ⟨outer, path⟩ := grown.exists_path inside
  refine ⟨_, outer, grown.environment_eq path, path, rfl, ?_, fun name => ?_⟩
  · intro scope member
    have member : scope ∈ (number :: outer).map forest.bindings := member
    obtain ⟨other, -, rfl⟩ := List.mem_map.mp member
    exact grown.distinct other
  · rw [Environment.mem_names]
    simp only [Environment.scopes, ← List.map_cons, List.mem_map, exists_exists_and_eq_and, own?,
      ← Option.ne_none_iff_exists', ne_eq, Bindings.lookup_eq_none_iff, not_not]

end Forest

/-- However scopes are made and names are bound in them, what is in sight of a scope is what it and
the scopes around it bind: as many are around it as its depth says, and its names are those that
any of them binds, each once and in order, with the values they have there. To declare a name fails
exactly where the scope binds it, and then nothing changes; otherwise the name gets its value in
sight of the scopes that meet the scope before any other that binds the name, and everything else in
sight of any scope stays. To install the initial names is to declare them in order, up to the first
that fails. And no operation changes what a scope binds already. -/
theorem scope_trees_keep_their_frame {operations : List Operation} {forest : Forest}
    (performed : operations.foldlM Forest.perform [] = some forest) :
    (∀ e < forest.length, ∃ env ancestors, forest.environment? e = some env ∧
      forest.Path e (e :: ancestors) ∧ env.depth = ancestors.length ∧ env.names.Nodup ∧
      (∀ name, name ∈ env.names ↔
        ∃ scope ∈ e :: ancestors, ∃ value, forest.own? scope name = some value) ∧
      env.names.Pairwise (Environment.Before ((e :: ancestors).map forest.bindings)) ∧
      env.items.map Prod.fst = env.names ∧
      ∀ item ∈ env.items, forest.get? e item.1 = some item.2) ∧
    (∀ s < forest.length, ∀ name value,
      (∃ other, forest.own? s name = some other ∧
        forest.declare s name value = some (.error (.boundAlready name)) ∧
        forest.perform (.declare s name value) = some forest) ∨
      (forest.own? s name = none ∧ ∃ after, forest.declare s name value = some (.ok after) ∧
        forest.perform (.declare s name value) = some after ∧
        (∀ e, after.bindings e =
          if e = s then forest.bindings s ++ [(name, value)] else forest.bindings e) ∧
        (∀ e, forest.Reaches e s name → after.get? e name = some value) ∧
        ∀ e wanted, ¬(wanted = name ∧ forest.Reaches e s name) →
          after.get? e wanted = forest.get? e wanted)) ∧
    (∀ s < forest.length, ∃ done rest after failure, initialBindings = done ++ rest ∧
      forest.install s = some (after, failure) ∧
      (Forest.declarations s done).foldlM Forest.perform forest = some after ∧
      (rest = [] ∧ failure = none ∨ ∃ name value others other, rest = (name, value) :: others ∧
        after.own? s name = some other ∧ failure = some (.boundAlready name))) ∧
    ∀ (more : List Operation) (after : Forest), more.foldlM Forest.perform forest = some after →
      ∀ s name value, forest.own? s name = some value → after.own? s name = some value := by
  have grown := (Forest.wellGrown_nil.operations_grow performed).wellGrown Forest.wellGrown_nil
  refine ⟨fun e inside => ?_, fun s inside name value => ?_, fun s inside => ?_, ?_⟩
  · obtain ⟨env, ancestors, seen, path, scopes, distinct, names⟩ := grown.sight inside
    obtain ⟨listed, values⟩ := env.items_spec
    refine ⟨env, ancestors, seen, path, ?_, Environment.names_nodup distinct, names, ?_, listed, ?_⟩
    · have count := congrArg List.length scopes
      simpa [Environment.scopes, Environment.depth] using count
    · exact scopes ▸ Environment.names_pairwise distinct
    · intro item member
      rw [Forest.get?, seen]
      exact values item member
  · rcases grown.declare_cases inside name value with ⟨other, bound, failed⟩ | ⟨fresh, declared⟩
    · exact .inl ⟨other, bound, failed, by rw [Forest.perform, failed]; rfl⟩
    · refine .inr ⟨fresh, _, declared, by rw [Forest.perform, declared]; rfl, ?_, ?_, ?_⟩
      · exact Forest.bindings_extend inside value
      · exact fun e reaches => Forest.get?_extend_of_reaches grown inside fresh value reaches
      · exact fun e wanted elsewhere =>
          Forest.get?_extend_of_not grown inside fresh value wanted elsewhere
  · rw [Forest.install_eq]
    exact grown.declareAll_spec inside initialBindings
  · exact fun more after ran s name value bound => (grown.operations_grow ran).own? bound

/-- Two scopes inside of one that is extended when they are there; one of them binds `x`. -/
def treeSample : List Operation :=
  [.root, .child 0, .declare 1 "x" (.integer 1), .child 0, .declare 0 "y" (.integer 2)]

def treeSampleForest : Forest :=
  [⟨none, [("y", .integer 2)]⟩, ⟨some 0, [("x", .integer 1)]⟩, ⟨some 0, []⟩]

theorem scope_trees_keep_their_frame_sample :
    treeSample.foldlM Forest.perform [] = some treeSampleForest ∧
    ∃ after, treeSampleForest.declare 0 "x" (.integer 5) = some (.ok after) ∧
      after.get? 2 "x" = some (.integer 5) ∧ after.get? 1 "x" = some (.integer 1) ∧
      after.get? 2 "y" = some (.integer 2) := by
  have performed : treeSample.foldlM Forest.perform [] = some treeSampleForest := rfl
  obtain ⟨-, declarations, -, -⟩ := scope_trees_keep_their_frame performed
  obtain ⟨other, bound, -⟩ | ⟨-, after, declared, -, -, reached, kept⟩ :=
    declarations 0 (by decide) "x" (.integer 5)
  · cases bound
  · refine ⟨performed, after, declared, reached 2 ?_, (kept 1 "x" ?_).trans rfl,
      (kept 2 "y" (by simp)).trans rfl⟩
    · refine ⟨[2], [], .child rfl (.root (by decide) rfl), ?_⟩
      simp [Forest.own?, Forest.bindings, treeSampleForest]
    · rintro ⟨-, inner, outer, path, unbound⟩
      obtain ⟨_, split⟩ := path.exists_outer
      cases inner with
      | nil => cases split
      | cons first inner =>
        obtain rfl : first = 1 := (List.cons.inj split).1
        cases unbound 1 (List.mem_cons_self ..)

end PiecewiseLang
