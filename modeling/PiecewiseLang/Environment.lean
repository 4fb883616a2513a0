import PiecewiseLang.Value.Builtins

/-! Environments: chains of scopes, the innermost first. A name has the value of the first
scope that binds it. Names are only ever added to the innermost scope, and a scope binds a
name at most once. -/
namespace PiecewiseLang

/-- The bindings of one scope, in the order they were made. -/
abbrev Bindings := List (String × Value)

structure Environment where
  innermost : Bindings
  outer : List Bindings

namespace Environment

def empty : Environment := ⟨[], []⟩

def scopes (env : Environment) : List Bindings := env.innermost :: env.outer

/-- The number of scopes around the innermost one. -/
def depth (env : Environment) : Nat := env.outer.length

/-- A new scope inside an environment. -/
def child (env : Environment) : Environment := ⟨[], env.scopes⟩

def get? (env : Environment) (name : String) : Option Value :=
  env.scopes.findSome? (·.lookup name)

def lookup (env : Environment) (name : String) : Except EvalError Value :=
  match env.get? name with
  | some value => .ok value
  | none => .error (.unboundName name)

/-- Binds a name in the innermost scope. It may be bound further out, but not there. -/
def declare (env : Environment) (name : String) (value : Value) : Except EvalError Environment :=
  match env.innermost.lookup name with
  | some _ => .error (.boundAlready name)
  | none => .ok { env with innermost := env.innermost ++ [(name, value)] }

/-- Binds names in order, up to the first that cannot be bound. The result has the bindings
made and the error that ended them. -/
def declareAll (env : Environment) : Bindings → Environment × Option EvalError
  | [] => (env, none)
  | (name, value) :: rest =>
    match env.declare name value with
    | .ok next => next.declareAll rest
    | .error e => (env, some e)

/-- The names in sight, the innermost scope first, each once. -/
def names (env : Environment) : List String :=
  (env.scopes.flatMap (·.map Prod.fst)).eraseDups

/-- The names in sight with their values. -/
def items (env : Environment) : Bindings :=
  env.names.filterMap fun name => (env.get? name).map (name, ·)

/-- The environment a program starts in. -/
def initial : Environment := ⟨initialBindings, []⟩

/-- The items that a program did not start with. -/
def ownItems (env : Environment) : Bindings :=
  env.items.filter fun item => (initialBindings.lookup item.1).isNone

/-- The depth and the names of the innermost scope, for inspection. -/
def inspect (env : Environment) : String :=
  "Environment(depth=" ++ toString env.depth ++ ", names=[" ++
    ", ".intercalate (env.innermost.map fun binding => Text.quoted binding.1) ++ "])"

end Environment

end PiecewiseLang
