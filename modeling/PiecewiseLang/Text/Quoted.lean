import PiecewiseLang.Text.Shapeless

/-! Quoted text, as names and foreign values appear inside messages. The quotation mark is
the apostrophe, unless the text holds an apostrophe and no double quotation mark. -/
namespace PiecewiseLang.Text

/-- The digits of `n` in base sixteen, at least `width` of them. -/
def hexDigits (width n : Nat) : List Char :=
  let digits := Nat.toDigits 16 n
  List.replicate (width - digits.length) '0' ++ digits

/-- A character by its code point, in the shortest form that can hold it. -/
def codePointEscape (c : Char) : List Char :=
  if c.toNat < 0x100 then ['\\', 'x'] ++ hexDigits 2 c.toNat
  else if c.toNat < 0x10000 then ['\\', 'u'] ++ hexDigits 4 c.toNat
  else ['\\', 'U'] ++ hexDigits 8 c.toNat

/-- One character inside quotation marks: the mark and the backslash are escaped, and so are
the characters without a shape. -/
def quotedChar (mark : Char) (c : Char) : List Char :=
  if c = mark || c = '\\' then ['\\', c]
  else if c = '\n' then ['\\', 'n']
  else if c = '\r' then ['\\', 'r']
  else if c = '\t' then ['\\', 't']
  else if isShapeless c then codePointEscape c
  else [c]

def quotationMark (chars : List Char) : Char :=
  if chars.contains '\'' && !chars.contains '"' then '"' else '\''

def quoted (s : String) : String :=
  let mark := quotationMark s.toList
  String.ofList (mark :: (s.toList.flatMap (quotedChar mark) ++ [mark]))

end PiecewiseLang.Text
