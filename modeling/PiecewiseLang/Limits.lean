/-! The limits a program runs under. -/
namespace PiecewiseLang

structure Limits where
  /-- A call from an environment of this depth or more is an error. -/
  callDepth : Int
  /-- How many expressions may be open inside one another, in the parser and in evaluation. -/
  nesting : Nat
  /-- How many written forms may be open inside one another when a value is shown. -/
  rendering : Nat

namespace Limits

def default : Limits := ⟨128, 495, 495⟩

/-- The usual limits with another call depth. -/
def ofCallDepth (callDepth : Int) : Limits := { default with callDepth }

end Limits

end PiecewiseLang
