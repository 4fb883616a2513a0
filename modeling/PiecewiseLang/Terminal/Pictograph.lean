import PiecewiseLang.Terminal.PictographNames
import PiecewiseLang.Text.Blank
import PiecewiseLang.Text.Lines
import PiecewiseLang.Text.SmallLetters

/-! Pictographs by name: a name between two colons stands for a pictograph. The name may end
in a word that asks for it to be shown as a picture or as text. -/
namespace PiecewiseLang.Terminal

/-- Words taken in pairs. -/
def inPairs : List (List Char) → List (String × String)
  | first :: second :: rest => (String.ofList first, String.ofList second) :: inPairs rest
  | _ => []

/-- The pictographs with their names. -/
def pictographs : List (String × String) :=
  inPairs (Text.words Text.isBlank pictographNames.toList)

/-- The endings of a name that ask for a form, with the character that selects it. -/
def pictographForms : List (String × String) := [("-emoji", "\ufe0f"), ("-text", "\ufe0e")]

/-- A name without the ending that asks for a form, and the character that selects it. -/
def splitForm (name : String) : String × String :=
  match pictographForms.find? fun form => name.endsWith form.1 with
  | some (ending, selector) => ((name.dropEnd ending.length).toString, selector)
  | none => (name, "")

/-- The pictograph of a name, which counts alike in either case. -/
def pictograph? (name : String) : Option String :=
  let (name, selector) := splitForm name
  (pictographs.lookup (Text.lowercase name)).map (· ++ selector)

/-- Joins the pieces of a text that colons divide. A piece between two colons that has no
blank in it is a name, and a colon belongs to one name at most. A name that no pictograph
has is kept with its colons. -/
def joinAtColons : List (List Char) → List Char
  | [] => []
  | [piece] => piece
  | [piece, last] => piece ++ ':' :: last
  | piece :: name :: next :: rest =>
    if name.any Text.isBlank then piece ++ ':' :: joinAtColons (name :: next :: rest)
    else
      let shown := match pictograph? (String.ofList name) with
        | some pictograph => pictograph.toList
        | none => ':' :: name ++ [':']
      piece ++ shown ++ joinAtColons (next :: rest)

/-- A text with pictographs for their names. -/
def withPictographs (chars : List Char) : List Char :=
  joinAtColons (Text.splitAt (· = ':') chars)

end PiecewiseLang.Terminal
