/-! Escape sequences, by which a text would set the colours of a terminal or move its cursor.
They are left out of text that goes to a file or another program. -/
namespace PiecewiseLang.Terminal

/-- The characters between the opening of an escape sequence and its final letter. -/
def isParameter (c : Char) : Bool := c.isDigit || c = ';' || c = '?'

/-- What follows an escape sequence, given what follows its escape character. -/
def afterSequence? : List Char → Option (List Char)
  | '[' :: rest =>
    match rest.dropWhile isParameter with
    | c :: rest => if c.isAlpha then some rest else none
    | [] => none
  | _ => none

/-- The characters without escape sequences; the bound is on their number. -/
def dropSequences : (bound : Nat) → List Char → List Char
  | 0, _ => []
  | _ + 1, [] => []
  | bound + 1, c :: rest =>
    match if c = '\x1b' then afterSequence? rest else none with
    | some rest => dropSequences bound rest
    | none => c :: dropSequences bound rest

/-- A text without its escape sequences. -/
def withoutEscapes (s : String) : String :=
  String.ofList (dropSequences s.length s.toList)

end PiecewiseLang.Terminal
