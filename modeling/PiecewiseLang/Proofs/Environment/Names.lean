import Mathlib.Data.List.Nodup
import PiecewiseLang.Environment

/-! The names in sight of an environment. They are the names its scopes bind, each once: those of
the innermost scope first, and those of one scope in the order it bound them. -/
namespace PiecewiseLang

namespace Bindings

/-- The names a scope binds, in the order it bound them. -/
def names (scope : Bindings) : List String := scope.map Prod.fst

@[simp] theorem names_append (first second : Bindings) :
    names (first ++ second) = first.names ++ second.names := List.map_append

theorem lookup_eq_none_iff {scope : Bindings} :
    scope.lookup name = none ↔ name ∉ scope.names := by
  rw [List.lookup_eq_none_iff]
  constructor
  · intro absent member
    obtain ⟨binding, inside, rfl⟩ := List.mem_map.mp member
    simpa using absent binding inside
  · intro absent binding inside
    have other : name ≠ binding.1 := by
      rintro rfl
      exact absent (List.mem_map_of_mem inside)
    simpa using other

end Bindings

theorem eraseDups_of_nodup {names : List String} (distinct : names.Nodup) :
    names.eraseDups = names := by
  induction names with
  | nil => rfl
  | cons name names ih =>
    obtain ⟨fresh, distinct⟩ := List.nodup_cons.mp distinct
    have kept : names.filter (fun other => !other == name) = names := by
      refine List.filter_eq_self.mpr fun other member => ?_
      simpa using ne_of_mem_of_not_mem member fresh
    rw [List.eraseDups_cons, kept, ih distinct]

namespace Environment

/-- Of two names one is found before the other in a chain of scopes: the other one is bound further
out, or it was bound later in the same scope. -/
inductive Before : List Bindings → String → String → Prop where
  | further {scope : Bindings} : first ∈ scope.names → second ∉ scope.names →
      Before (scope :: others) first second
  | later {scope : Bindings} : [first, second].Sublist scope.names →
      Before (scope :: others) first second
  | around {scope : Bindings} : first ∉ scope.names → second ∉ scope.names →
      Before others first second → Before (scope :: others) first second

section
variable {scopes : List Bindings} (distinct : ∀ scope ∈ scopes, Bindings.names scope |>.Nodup)
include distinct

theorem Before.ne (before : Before scopes first second) : first ≠ second := by
  induction before with
  | further inside outside =>
    rintro rfl
    exact outside inside
  | later inOrder =>
    have pair := (distinct _ (List.mem_cons_self ..)).sublist inOrder
    simpa using pair
  | around _ _ _ ih => exact ih fun scope member => distinct scope (List.mem_cons_of_mem _ member)

/-- The names of a chain of scopes that are not left out come in order. -/
theorem pairwise_before (kept : String → Bool) :
    ((scopes.flatMap Bindings.names).filter kept).eraseDups.Pairwise (Before scopes) := by
  -- The names found already are among those that are left out further out.
  induction scopes generalizing kept with
  | nil => exact .nil
  | cons scope others ih =>
    obtain ⟨own, distinct⟩ := List.forall_mem_cons.mp distinct
    have own_kept : (scope.names.filter kept).Nodup := own.filter kept
    rw [List.flatMap_cons, List.filter_append, List.eraseDups_append, eraseDups_of_nodup own_kept,
      List.removeAll, List.filter_filter, List.pairwise_append]
    have further {name : String} (member : name ∈ ((others.flatMap Bindings.names).filter fun name =>
        !(scope.names.filter kept).elem name && kept name).eraseDups) : name ∉ scope.names := by
      rw [List.mem_eraseDups, List.mem_filter, Bool.and_eq_true] at member
      obtain ⟨-, outside, chosen⟩ := member
      intro inside
      simp [inside, chosen] at outside
    refine ⟨?_, ?_, ?_⟩
    · refine List.pairwise_iff_forall_sublist.mpr fun inOrder => ?_
      exact .later (inOrder.trans List.filter_sublist)
    · refine (ih distinct _).imp_of_mem fun {first second} member member' before => ?_
      exact .around (further member) (further member') before
    · intro first member second member'
      exact .further (List.mem_filter.mp member).1 (further member')

end

variable {env : Environment}

theorem mem_names : name ∈ env.names ↔ ∃ scope ∈ env.scopes, name ∈ scope.names := by
  rw [names, List.mem_eraseDups, List.mem_flatMap]
  rfl

theorem get?_eq_none_iff : env.get? name = none ↔ name ∉ env.names := by
  rw [get?, List.findSome?_eq_none_iff, mem_names, not_exists]
  refine forall_congr' fun scope => ?_
  rw [not_and, Bindings.lookup_eq_none_iff]

theorem names_pairwise (distinct : ∀ scope ∈ env.scopes, scope.names.Nodup) :
    env.names.Pairwise (Before env.scopes) := by
  have pairwise := pairwise_before distinct fun _ => true
  rwa [List.filter_true] at pairwise

theorem names_nodup (distinct : ∀ scope ∈ env.scopes, scope.names.Nodup) : env.names.Nodup :=
  (names_pairwise distinct).imp fun before => before.ne distinct

/-- There is an item for every name in sight, in order, with the value the name has. -/
theorem items_spec (env : Environment) : env.items.map Prod.fst = env.names ∧
    ∀ item ∈ env.items, env.get? item.1 = some item.2 := by
  constructor
  · rw [items, List.map_filterMap]
    refine (List.filterMap_congr fun name member => ?_).trans (List.filterMap_some ..)
    obtain ⟨value, found⟩ := Option.ne_none_iff_exists'.mp (mt get?_eq_none_iff.mp (not_not.mpr member))
    simp [found]
  · intro item member
    obtain ⟨name, -, made⟩ := List.mem_filterMap.mp member
    obtain ⟨value, found, rfl⟩ := Option.map_eq_some_iff.mp made
    exact found

end Environment

end PiecewiseLang
