/-! Faults: the ways a computation can break down without an error of the language. They
carry no message and no position, and they discard the output of the program they end. -/
namespace PiecewiseLang

inductive Fault where
  /-- An integer with more decimal digits than text may have, read or written. -/
  | overlongInteger
  /-- A number token whose text is not a numeral. -/
  | malformedNumeral
  /-- The factorial of an integer past the machine word. -/
  | oversizedFactorial
  /-- A table that has no entry for what it was asked about. -/
  | missingEntry
  /-- Parameters and arguments that do not pair off. -/
  | unevenCall
  /-- A limit on the depth of calls with more decimal digits than text may have, in the error
  that would name it. -/
  | overlongLimit
  /-- A value of too many forms inside one another to be written. -/
  | overdeepValue
deriving DecidableEq, Repr

instance decidableEqExcept [DecidableEq ε] [DecidableEq α] : DecidableEq (Except ε α)
  | .error e, .error f => decidable_of_iff (e = f) (by simp)
  | .ok a, .ok b => decidable_of_iff (a = b) (by simp)
  | .error _, .ok _ | .ok _, .error _ => isFalse nofun

end PiecewiseLang
