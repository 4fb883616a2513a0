/-! What can be wrong with an entry of the settings. -/
namespace PiecewiseLang.Settings

inductive Problem where
  /-- A number with a fraction where an integer is wanted. -/
  | fractional
  /-- A number that is not finite where an integer is wanted. -/
  | notFinite
  /-- A text that writes no integer. -/
  | notAnInteger
  /-- A number beyond what can be brought to an integer. -/
  | overlong
  /-- Something that could not stand for an integer. -/
  | notIntegral
  /-- An integer below one. -/
  | tooSmall
  | notALevel
  | notText
  | unknownKey
deriving DecidableEq, Repr

/-- A key with what is wrong about its entry. -/
abbrev Complaint := String × Problem

end PiecewiseLang.Settings
