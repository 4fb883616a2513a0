import PiecewiseLang.Environment

/-! Forests of scopes. Scopes are numbered in the order they were made, and a scope made
inside another stays inside it: what is bound in a scope later on is in sight of the scopes
made inside it earlier. -/
namespace PiecewiseLang

/-- A scope with the number of the scope around it. -/
structure ScopeNode where
  parent : Option Nat
  bindings : Bindings

abbrev Forest := List ScopeNode

namespace Forest

/-- Scopes from the one with the given number outwards, at most as many as the first
argument says. -/
def chain (forest : Forest) : Nat → Nat → List Bindings
  | 0, _ => []
  | count + 1, number =>
    match forest[number]? with
    | none => []
    | some node =>
      node.bindings :: match node.parent with
        | none => []
        | some parent => chain forest count parent

/-- The environment whose innermost scope has the given number. -/
def environment? (forest : Forest) (number : Nat) : Option Environment :=
  match forest.chain forest.length number with
  | [] => none
  | innermost :: outer => some ⟨innermost, outer⟩

/-- Adds a scope of its own with the given bindings. -/
def addRoot (forest : Forest) (bindings : Bindings) : Forest := forest ++ [⟨none, bindings⟩]

/-- Adds a scope inside another. -/
def addChild (forest : Forest) (parent : Nat) : Forest := forest ++ [⟨some parent, []⟩]

/-- Replaces the bindings of one scope. -/
def update (forest : Forest) (number : Nat) (bindings : Bindings) : Forest :=
  forest.modify number fun node => { node with bindings }

/-- Binds a name in one scope. -/
def declare (forest : Forest) (number : Nat) (name : String) (value : Value) :
    Option (Except EvalError Forest) :=
  (forest.environment? number).map fun env => do
    return forest.update number (← env.declare name value).innermost

/-- Binds the initial names in one scope, up to the first that it binds already. -/
def install (forest : Forest) (number : Nat) : Option (Forest × Option EvalError) :=
  (forest.environment? number).map fun env =>
    let (extended, failure) := env.declareAll initialBindings
    (forest.update number extended.innermost, failure)

end Forest

end PiecewiseLang
