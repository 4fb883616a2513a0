import PiecewiseLang.Value.Error

/-! Computations that keep a trace of the calls they make. The trace is written and never
read: the result does not depend on it, and a failure keeps the calls made before it. -/
namespace PiecewiseLang

/-- A call of a function of the program, with the depth of the scope it opened. -/
structure CallRecord where
  function : String
  depth : Nat
deriving DecidableEq, Repr

structure Traced (α : Type) where
  calls : List CallRecord
  result : Except EvalFailure α

namespace Traced

variable {α β : Type}

def pure (a : α) : Traced α := ⟨[], .ok a⟩

/-- Runs the second computation after the first, unless the first failed. -/
def bind (x : Traced α) (next : α → Traced β) : Traced β :=
  match x.result with
  | .error failure => ⟨x.calls, .error failure⟩
  | .ok a =>
    let y := next a
    ⟨x.calls ++ y.calls, y.result⟩

instance : Monad Traced where
  pure := Traced.pure
  bind := Traced.bind

def fail (error : EvalError) : Traced α := ⟨[], .error (.error error)⟩

def ofFailure (result : Except EvalFailure α) : Traced α := ⟨[], result⟩

def ofExcept : Except EvalError α → Traced α
  | .ok a => Traced.pure a
  | .error error => fail error

/-- Writes one call to the trace. -/
def call (record : CallRecord) : Traced Unit := ⟨[record], .ok ()⟩

end Traced

end PiecewiseLang
