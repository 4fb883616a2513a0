import PiecewiseLang.Text.Ranges

/-! Text in pieces, and in lines, which line feeds divide. -/
namespace PiecewiseLang.Text

/-- The pieces between characters of a class; `n` such characters make `n + 1` pieces. -/
def splitAt (isDivider : Char → Bool) : List Char → List (List Char)
  | [] => [[]]
  | c :: rest =>
    if isDivider c then [] :: splitAt isDivider rest
    else match splitAt isDivider rest with
      | [] => [[c]]
      | piece :: pieces => (c :: piece) :: pieces

/-- The pieces between line feeds. -/
def splitLines (chars : List Char) : List (List Char) := splitAt (· = '\n') chars

/-- The pieces between characters of a class that are not empty. -/
def words (isDivider : Char → Bool) (chars : List Char) : List (List Char) :=
  (splitAt isDivider chars).filter (!·.isEmpty)

/-- Lines with single line feeds between them. -/
def joinLines (lines : List String) : String := "\n".intercalate lines

/-- Reads every kind of line end as a line feed. -/
def universalNewlines : List Char → List Char
  | [] => []
  | '\r' :: '\n' :: rest => '\n' :: universalNewlines rest
  | c :: rest => (if c = '\r' then '\n' else c) :: universalNewlines rest

/-- The lines of an input, where a line feed at the end begins no further line. -/
def inputLines (s : String) : List String :=
  let lines := splitLines s.toList
  let lines := if lines.getLast? = some [] then lines.dropLast else lines
  lines.map String.ofList

/-- Characters that end a line somewhere: line and page feeds, carriage returns, the
separators of files, groups and records, and those of lines and paragraphs. -/
def isLineBreak (c : Char) : Bool :=
  inRanges [(0x0a, 0x0d), (0x1c, 0x1e), (0x85, 0x85), (0x2028, 0x2029)] c

end PiecewiseLang.Text
