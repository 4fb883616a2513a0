import PiecewiseLang.Text.Ranges

/-! Blank characters and the trimming of text. A blank is any character of the Unicode
white-space property or one of the four information separators U+001C to U+001F. -/
namespace PiecewiseLang.Text

/-- The white-space property, in ascending order. -/
def whiteSpaceRanges : List Range :=
  [(0x09, 0x0d), (0x20, 0x20), (0x85, 0x85), (0xa0, 0xa0), (0x1680, 0x1680), (0x2000, 0x200a),
    (0x2028, 0x2029), (0x202f, 0x202f), (0x205f, 0x205f), (0x3000, 0x3000)]

def isWhiteSpace (c : Char) : Bool := inRanges whiteSpaceRanges c

/-- The file, group, record and unit separators. -/
def isSeparator (c : Char) : Bool := inRanges [(0x1c, 0x1f)] c

def isBlank (c : Char) : Bool := isWhiteSpace c || isSeparator c

/-- The characters without those of a class at either end. -/
def trimmed (isOuter : Char → Bool) (chars : List Char) : List Char :=
  ((chars.dropWhile isOuter).reverse.dropWhile isOuter).reverse

/-- The text without the blanks at either end. -/
def trim (s : String) : String := String.ofList (trimmed isBlank s.toList)

end PiecewiseLang.Text
