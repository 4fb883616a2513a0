import PiecewiseLang.Text.Lines
import PiecewiseLang.Text.Numeral
import PiecewiseLang.Text.SmallLetters

/-! Styles of text on a terminal: forms of emphasis, a colour, a colour behind, and a link. A
style is defined by words; two definitions of one style have the same normal form. -/
namespace PiecewiseLang.Terminal

/-- Why words define no style. -/
inductive StyleFailure where
  /-- A word that has no meaning where it stands. -/
  | unknown
  /-- A part of a colour that should be a number and is none. -/
  | malformedNumber
deriving DecidableEq, Repr

namespace Color

/-- The colours that have names. -/
def names : List String :=
  ["black", "red", "green", "yellow", "blue", "magenta", "cyan", "white", "bright_black",
    "bright_red", "bright_green", "bright_yellow", "bright_blue", "bright_magenta", "bright_cyan",
    "bright_white", "grey0", "gray0", "navy_blue", "dark_blue", "blue3", "blue1", "dark_green",
    "deep_sky_blue4", "dodger_blue3", "dodger_blue2", "green4", "spring_green4", "turquoise4",
    "deep_sky_blue3", "dodger_blue1", "green3", "spring_green3", "dark_cyan", "light_sea_green",
    "deep_sky_blue2", "deep_sky_blue1", "spring_green2", "cyan3", "dark_turquoise", "turquoise2",
    "green1", "spring_green1", "medium_spring_green", "cyan2", "cyan1", "dark_red", "deep_pink4",
    "purple4", "purple3", "blue_violet", "orange4", "grey37", "gray37", "medium_purple4",
    "slate_blue3", "royal_blue1", "chartreuse4", "dark_sea_green4", "pale_turquoise4", "steel_blue",
    "steel_blue3", "cornflower_blue", "chartreuse3", "cadet_blue", "sky_blue3", "steel_blue1",
    "pale_green3", "sea_green3", "aquamarine3", "medium_turquoise", "chartreuse2", "sea_green2",
    "sea_green1", "aquamarine1", "dark_slate_gray2", "dark_magenta", "dark_violet", "purple",
    "light_pink4", "plum4", "medium_purple3", "slate_blue1", "yellow4", "wheat4", "grey53",
    "gray53", "light_slate_grey", "light_slate_gray", "medium_purple", "light_slate_blue",
    "dark_olive_green3", "dark_sea_green", "light_sky_blue3", "sky_blue2", "dark_sea_green3",
    "dark_slate_gray3", "sky_blue1", "chartreuse1", "light_green", "pale_green1",
    "dark_slate_gray1", "red3", "medium_violet_red", "magenta3", "dark_orange3", "indian_red",
    "hot_pink3", "medium_orchid3", "medium_orchid", "medium_purple2", "dark_goldenrod",
    "light_salmon3", "rosy_brown", "grey63", "gray63", "medium_purple1", "gold3", "dark_khaki",
    "navajo_white3", "grey69", "gray69", "light_steel_blue3", "light_steel_blue", "yellow3",
    "dark_sea_green2", "light_cyan3", "light_sky_blue1", "green_yellow", "dark_olive_green2",
    "dark_sea_green1", "pale_turquoise1", "deep_pink3", "magenta2", "hot_pink2", "orchid",
    "medium_orchid1", "orange3", "light_pink3", "pink3", "plum3", "violet", "light_goldenrod3",
    "tan", "misty_rose3", "thistle3", "plum2", "khaki3", "light_goldenrod2", "light_yellow3",
    "grey84", "gray84", "light_steel_blue1", "yellow2", "dark_olive_green1", "honeydew2",
    "light_cyan1", "red1", "deep_pink2", "deep_pink1", "magenta1", "orange_red1", "indian_red1",
    "hot_pink", "dark_orange", "salmon1", "light_coral", "pale_violet_red1", "orchid2", "orchid1",
    "orange1", "sandy_brown", "light_salmon1", "light_pink1", "pink1", "plum1", "gold1",
    "navajo_white1", "misty_rose1", "thistle1", "yellow1", "light_goldenrod1", "khaki1", "wheat1",
    "cornsilk1", "grey100", "gray100", "grey3", "gray3", "grey7", "gray7", "grey11", "gray11",
    "grey15", "gray15", "grey19", "gray19", "grey23", "gray23", "grey27", "gray27", "grey30",
    "gray30", "grey35", "gray35", "grey39", "gray39", "grey42", "gray42", "grey46", "gray46",
    "grey50", "gray50", "grey54", "gray54", "grey58", "gray58", "grey62", "gray62", "grey66",
    "gray66", "grey70", "gray70", "grey74", "gray74", "grey78", "gray78", "grey82", "gray82",
    "grey85", "gray85", "grey89", "gray89", "grey93", "gray93"]

def isHexDigit (c : Char) : Bool := c.isDigit || ('a' ≤ c && c ≤ 'f')

/-- What stands in parentheses behind a word, if the text is of that form. -/
def argument? (word : String) (chars : List Char) : Option (List Char) :=
  let opening := word.toList ++ ['(']
  if opening.isPrefixOf chars && chars.getLast? = some ')' then
    some ((chars.drop opening.length).dropLast)
  else none

/-- A number that has a colour: one to three digits, at most 255. -/
def isNumber (digits : List Char) : Bool :=
  1 ≤ digits.length && digits.length ≤ 3 && digits.all Char.isDigit &&
    Text.digitsValue digits ≤ 255

/-- Checks three numbers with commas between them, each at most 255. -/
def checkParts (chars : List Char) : Except StyleFailure Unit := do
  let isPart := fun c : Char => c = ',' || (Text.decimalValue? c).isSome
  match Text.splitAt (· = ',') chars with
  | [red, green, blue] =>
    if !chars.all isPart then throw .unknown
    let numbers ← [red, green, blue].mapM fun digits =>
      match Text.readInteger (String.ofList digits) with
      | some n => .ok n
      | none => .error .malformedNumber
    if numbers.any (255 < ·) then throw .unknown
  | _ => throw .unknown

/-- The name of the colour that a word stands for. -/
def read (word : String) : Except StyleFailure String := do
  let name := Text.lowercase word
  let chars := name.toList
  let isHex := chars.head? = some '#' && chars.length = 7 && (chars.drop 1).all isHexDigit
  if name = "default" || names.contains name || isHex then return name
  else match argument? "color" chars, argument? "rgb" chars with
    | some number, _ => if isNumber number then return name else throw .unknown
    | none, some parts =>
      checkParts parts
      return name
    | none, none => throw .unknown

end Color

inductive Emphasis where
  | bold | dim | italic | underline | blink | fastBlink | reverse | conceal | strike
  | doubleUnderline | frame | encircle | overline
deriving DecidableEq, Repr

namespace Emphasis

/-- The forms of emphasis in the order of the normal form. -/
def all : List Emphasis :=
  [.bold, .dim, .italic, .underline, .blink, .fastBlink, .reverse, .conceal, .strike,
    .doubleUnderline, .frame, .encircle, .overline]

def name : Emphasis → String
  | .bold => "bold"
  | .dim => "dim"
  | .italic => "italic"
  | .underline => "underline"
  | .blink => "blink"
  | .fastBlink => "blink2"
  | .reverse => "reverse"
  | .conceal => "conceal"
  | .strike => "strike"
  | .doubleUnderline => "underline2"
  | .frame => "frame"
  | .encircle => "encircle"
  | .overline => "overline"

/-- Short names of some. -/
def shortNames : List (String × Emphasis) :=
  [("b", .bold), ("d", .dim), ("i", .italic), ("u", .underline), ("r", .reverse),
    ("c", .conceal), ("s", .strike), ("uu", .doubleUnderline), ("o", .overline)]

def ofName? (word : String) : Option Emphasis :=
  match all.find? (·.name = word) with
  | some emphasis => some emphasis
  | none => shortNames.lookup word

end Emphasis

structure Style where
  /-- The emphases that are turned on or off; the first of a form counts. -/
  emphases : List (Emphasis × Bool)
  color : Option String
  background : Option String
  link : Option String

namespace Style

def plain : Style := ⟨[], none, none, none⟩

/-- Turns an emphasis on or off. -/
def turn (emphasis : Emphasis) (on : Bool) (style : Style) : Style :=
  { style with emphases := (emphasis, on) :: style.emphases }

/-- Takes in a word in small letters that stands by itself: an emphasis or a colour. -/
def addWord (word : String) (style : Style) : Except StyleFailure Style := do
  match Emphasis.ofName? word with
  | some emphasis => return style.turn emphasis true
  | none => return { style with color := some (← Color.read word) }

/-- Takes in the words of a definition. Three words need another one behind them. -/
def addWords : List String → Style → Except StyleFailure Style
  | [], style => .ok style
  | [word], style =>
    let word := Text.lowercase word
    if ["on", "not", "link"].contains word then .error .unknown else addWord word style
  | word :: next :: rest, style =>
    match Text.lowercase word with
    | "on" => do addWords rest { style with background := some (← Color.read next) }
    | "not" =>
      match Emphasis.ofName? next with
      | some emphasis => addWords rest (style.turn emphasis false)
      | none => .error .unknown
    | "link" => addWords rest { style with link := some next }
    | word => do addWords (next :: rest) (← addWord word style)

/-- Reads a definition. -/
def read (definition : String) : Except StyleFailure Style :=
  let words := (Text.words Text.isBlank definition.toList).map String.ofList
  if words = ["none"] then .ok plain else addWords words plain

/-- The words of the emphases that are turned on or off. -/
def emphasisWords (style : Style) : List String :=
  Emphasis.all.filterMap fun emphasis =>
    (style.emphases.lookup emphasis).map fun on =>
      if on then emphasis.name else "not " ++ emphasis.name

/-- The normal form of the definition of a style. -/
def definition (style : Style) : String :=
  let words := style.emphasisWords ++ style.color.toList ++
    (style.background.toList.flatMap fun color => ["on", color]) ++
    (style.link.toList.flatMap fun target => ["link", target])
  if words.isEmpty then "none" else " ".intercalate words

/-- The normal form of a definition. One that defines no style is kept but for the blanks
around it and the case of its letters. -/
def normalize (definition : String) : Except StyleFailure String :=
  match read definition with
  | .ok style => .ok style.definition
  | .error .unknown => .ok (Text.lowercase (Text.trim definition))
  | .error .malformedNumber => .error .malformedNumber

end Style

end PiecewiseLang.Terminal
