import PiecewiseLang.Terminal.Columns
import PiecewiseLang.Terminal.Literal
import PiecewiseLang.Terminal.Pictograph
import PiecewiseLang.Terminal.Style

/-! Markup in text for a terminal. A tag in square brackets begins a style, and one that
begins with a slash ends it. Backslashes in front of a tag are halved, and an odd one makes
the tag plain text. Names between colons stand for pictographs. -/
namespace PiecewiseLang.Terminal

namespace Markup

/-- Why markup cannot be shown. -/
inductive Failure where
  /-- A tag ends a style that has not begun. -/
  | nothingToEnd
  /-- The argument of an action is no literal. -/
  | malformedArgument
  /-- A part of a colour should be a number and is none. -/
  | malformedNumber
deriving DecidableEq, Repr

/-- A piece of markup: plain text, or what stands between the brackets of a tag. -/
inductive Piece where
  | text (chars : List Char)
  | tag (content : List Char)

/-- The characters a tag may begin with. -/
def beginsTag (c : Char) : Bool := ('a' ≤ c && c ≤ 'z') || c = '#' || c = '/' || c = '@'

/-- The content of the tag behind an opening bracket, and what follows the closing one. -/
def tagContent? (chars : List Char) : Option (List Char × List Char) :=
  let isInside := fun c : Char => c ≠ '[' && c ≠ ']'
  match chars.head?.any beginsTag, chars.dropWhile isInside with
  | true, ']' :: rest => some (chars.takeWhile isInside, rest)
  | _, _ => none

/-- A piece of plain text, unless it is empty. -/
def plain (chars : List Char) : List Piece := if chars.isEmpty then [] else [.text chars]

/-- The pieces of a text, behind the plain text that is not yet part of a piece. The bound
is on the number of characters. -/
def pieces : (bound : Nat) → (before : List Char) → List Char → List Piece
  | 0, before, _ => plain before
  | bound + 1, before, chars =>
    let slashes := chars.takeWhile (· = '\\')
    match chars.dropWhile (· = '\\') with
    | [] => plain (before ++ slashes)
    | c :: rest =>
      match if c = '[' then tagContent? rest else none with
      | none => pieces bound (before ++ slashes ++ [c]) rest
      | some (content, rest) =>
        let piece := if slashes.length % 2 = 0 then .tag content
          else .text ('[' :: content ++ [']'])
        plain before ++ plain (List.replicate (slashes.length / 2) '\\') ++
          piece :: pieces bound [] rest

/-- A bracket that begins no tag may have a backslash in front, which is not shown. -/
def unescape : List Char → List Char
  | [] => []
  | '\\' :: '[' :: rest => '[' :: unescape rest
  | c :: rest => c :: unescape rest

/-- A style that has begun: its name in normal form, what stands behind the equals sign, and
how much text there was before it. -/
structure Tag where
  name : String
  argument : Option String
  start : Nat

namespace Tag

/-- The style a tag begins, as a definition. -/
def definition (tag : Tag) : String :=
  match tag.argument with
  | none => tag.name
  | some argument => tag.name ++ " " ++ argument

def isAction (tag : Tag) : Bool := tag.name.startsWith "@"

/-- Whether the argument of an action can be read, if it has one. -/
def hasReadableArgument (tag : Tag) : Bool :=
  match tag.argument with
  | none => true
  | some argument => argument.isEmpty || isActionArgument (Text.trim argument).toList

/-- Checks a tag whose style has ended. -/
def checkEnded (tag : Tag) : Except Failure Unit :=
  if tag.isAction && !tag.hasReadableArgument then .error .malformedArgument else .ok ()

end Tag

/-- A style, and whether the text that has it is empty but for line ends. -/
structure Span where
  definition : String
  isEmpty : Bool

namespace Span

/-- The text that has the style of a tag, where the text up to now ends it. -/
def ofTag (text : List Char) (tag : Tag) : Span :=
  ⟨tag.definition, (text.drop tag.start).all (· = '\n')⟩

/-- Checks the numbers in the definition of a style. -/
def check (span : Span) : Except Failure Unit :=
  match Style.read span.definition with
  | .error .malformedNumber => .error .malformedNumber
  | _ => .ok ()

end Span

/-- Markup as far as it has been read: the text, the styles that have begun and not ended,
the last first, and those that have ended. Actions are no styles. -/
structure Reading where
  text : List Char
  begun : List Tag
  ended : List Span

namespace Reading

def start : Reading := ⟨[], [], []⟩

def normalize (name : String) : Except Failure String :=
  match Style.normalize name with
  | .ok name => .ok name
  | .error _ => .error .malformedNumber

/-- The last style that has begun under a name, and the other styles. Without a name it is
the last one of all. -/
def remove? (name : Option String) (begun : List Tag) : Option (Tag × List Tag) :=
  match begun.findIdx? (fun tag => name.all (tag.name = ·)) with
  | none => none
  | some index => begun[index]?.map (·, begun.eraseIdx index)

/-- Ends a style. -/
def close (name : Option String) (reading : Reading) : Except Failure Reading := do
  match remove? name reading.begun with
  | none => throw .nothingToEnd
  | some (tag, begun) =>
    tag.checkEnded
    let ended := if tag.isAction then reading.ended
      else Span.ofTag reading.text tag :: reading.ended
    return { reading with begun, ended }

/-- Takes in a tag, given what stands between its brackets. -/
def addTag (content : List Char) (reading : Reading) : Except Failure Reading := do
  let name := content.takeWhile (· ≠ '=')
  let argument := (content.dropWhile (· ≠ '=')).tail?.map String.ofList
  match name with
  | '/' :: ended =>
    let ended := Text.trim (String.ofList ended)
    if ended.isEmpty then reading.close none
    else reading.close (some (← normalize ended))
  | _ =>
    let tag : Tag := ⟨← normalize (String.ofList name), argument, reading.text.length⟩
    return { reading with begun := tag :: reading.begun }

def add (reading : Reading) : Piece → Except Failure Reading
  | .text chars =>
    let shown := withoutControls (withPictographs (unescape chars))
    .ok { reading with text := reading.text ++ shown }
  | .tag content => reading.addTag content

/-- The styles that are looked up to show the text. Where it is divided into lines or at
tabs, styles that no text has are lost. -/
def spans (reading : Reading) : List Span :=
  let all := reading.begun.map (Span.ofTag reading.text) ++ reading.ended
  let isDivided := reading.text.any fun c => c = '\n' || c = '\t'
  all.filter fun span => !(isDivided && span.isEmpty)

end Reading

/-- The text that markup shows. -/
def read (chars : List Char) : Except Failure (List Char) := do
  let reading ← (pieces (chars.length + 1) [] chars).foldlM Reading.add Reading.start
  reading.spans.forM Span.check
  return reading.text

/-- Markup as a terminal shows it. -/
def displayed (s : String) : Except Failure String := do
  return Terminal.displayed (String.ofList (← read s.toList))

end Markup

end PiecewiseLang.Terminal
