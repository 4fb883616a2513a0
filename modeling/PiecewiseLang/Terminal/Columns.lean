import PiecewiseLang.Terminal.Widths
import PiecewiseLang.Text.Lines

/-! Text on a terminal: how many columns it takes, and what becomes of the characters that
move the cursor. -/
namespace PiecewiseLang.Terminal

def charColumns (c : Char) : Nat :=
  if c.toNat < 0x20 then 0
  else if c.toNat < 0x7f then 1
  else if c.toNat < 0xa0 || Text.inRanges unspacedRanges c then 0
  else if Text.inRanges wideRanges c then 2
  else 1

/-- Joins the character behind it to the one in front, so that neither it nor the character
behind it takes a column. -/
def joiner : Char := '\u200d'

/-- Asks for the character in front of it to be shown as a pictograph. -/
def pictographSelector : Char := '\ufe0f'

/-- The columns of a text. The first argument tells whether its first character is joined to
what stands in front, and the second is the last character that took a column. -/
def columnsFrom : (joined : Bool) → (last : Option Char) → List Char → Nat
  | _, _, [] => 0
  | true, last, _ :: rest => columnsFrom false last rest
  | false, last, c :: rest =>
    if c = joiner then columnsFrom true last rest
    else if c = pictographSelector then
      let widened := last.any fun c => Text.inRanges widenedRanges c
      (if widened then 1 else 0) + columnsFrom false none rest
    else
      let width := charColumns c
      width + columnsFrom false (if width = 0 then last else some c) rest

/-- The columns a text takes. -/
def columns (chars : List Char) : Nat := columnsFrom false none chars

/-- The characters a terminal would act on instead of showing them. -/
def isControl (c : Char) : Bool := [0x07, 0x08, 0x0b, 0x0c, 0x0d].contains c.toNat

def withoutControls (chars : List Char) : List Char := chars.filter (!isControl ·)

/-- The distance between tab stops. -/
def tabWidth : Nat := 8

/-- Joins the pieces of a line that tabs divide. Each tab becomes the blanks up to the next
tab stop, and there is at least one. -/
def joinAtTabs : (column : Nat) → List (List Char) → List Char
  | _, [] => []
  | _, [piece] => piece
  | column, piece :: rest =>
    let first := piece ++ [' ']
    let reached := column + columns first
    let blanks := (tabWidth - reached % tabWidth) % tabWidth
    first ++ List.replicate blanks ' ' ++ joinAtTabs (reached + blanks) rest

/-- A line with blanks for its tabs. -/
def expandTabs (line : List Char) : List Char := joinAtTabs 0 (Text.splitAt (· = '\t') line)

/-- The lines of a text as a terminal shows them. -/
def displayedLines (s : String) : List (List Char) :=
  (Text.splitLines (withoutControls s.toList)).map expandTabs

/-- A text as a terminal shows it. -/
def displayed (s : String) : String :=
  String.ofList (List.intercalate ['\n'] (displayedLines s))

end PiecewiseLang.Terminal
