import PiecewiseLang.Settings.Toml.Scalar

/-! Settings files as documents. A statement stands on a line of its own: a key with its
value, the header of a table, or the header of a further table in a list of tables. A number
sign begins a comment. A text that breaks a rule, or that gives one key two values, is no
document at all.

`bound` is a number of rounds that no loop over the text reaches, and `nesting` the number
of lists and tables that may be open inside one another. -/
namespace PiecewiseLang

namespace Toml

/-- Reads something off the front of a text and returns what follows it. -/
abbrev Reader (α : Type) := List Char → Except Failure (α × List Char)

def require {α : Type} : Option α → Except Failure α
  | some a => .ok a
  | none => .error .malformed

def isBareKeyChar (c : Char) : Bool := c.isAlphanum || c = '_' || c = '-'

/-- One part of a key: a bare word, or a string on one line. -/
def keyPart (bound : Nat) : Reader String := fun chars =>
  match chars.takeWhile isBareKeyChar with
  | [] => require (lineString? bound chars)
  | word => .ok (String.ofList word, chars.dropWhile isBareKeyChar)

/-- A key of one or more parts with points between them, and the spaces after it. -/
def key : (bound : Nat) → Reader (List String)
  | 0, _ => .error .malformed
  | bound + 1, chars => do
    let (part, rest) ← keyPart bound chars
    match skipSpace rest with
    | '.' :: rest =>
      let (parts, rest) ← key bound (skipSpace rest)
      return (part :: parts, rest)
    | rest => return ([part], rest)

/-- Skips blanks, line ends and comments. The first argument tells whether the text begins
inside a comment. -/
def skipLines : Bool → List Char → Except Failure (List Char)
  | _, [] => .ok []
  | true, c :: rest =>
    if c = '\n' then skipLines false rest
    else if isControl c then .error .malformed
    else skipLines true rest
  | false, c :: rest =>
    if isSpace c || c = '\n' then skipLines false rest
    else if c = '#' then skipLines true rest
    else .ok (c :: rest)

/-- A path of keys leads into one of the given tables or lists. -/
def isWithin (paths : List (List String)) (path : List String) : Bool :=
  paths.any (·.isPrefixOf path)

section
variable (value : Reader Toml)

/-- A key with its value. -/
def pair (bound : Nat) : Reader (List String × Toml) := fun chars => do
  let (path, rest) ← key bound chars
  let rest ← require (mark? '=' rest)
  let (v, rest) ← value (skipSpace rest)
  return ((path, v), rest)

/-- The members of a list, up to and with the closing bracket. A comma may stand behind the
last one. -/
def members : (bound : Nat) → Reader (List Toml)
  | 0, _ => .error .malformed
  | bound + 1, chars => do
    match ← skipLines false chars with
    | ']' :: rest => return ([], rest)
    | chars =>
      let (first, rest) ← value chars
      match ← skipLines false rest with
      | ']' :: rest => return ([first], rest)
      | ',' :: rest =>
        let (more, rest) ← members bound rest
        return (first :: more, rest)
      | _ => throw .malformed

/-- The entries of a table in braces, up to and with the closing one, behind those already
read. No key leads into a list or a table that is among the complete ones. -/
def inlineEntries : (bound : Nat) → (complete : List (List String)) → Entries → Reader Entries
  | 0, _, _, _ => .error .malformed
  | bound + 1, complete, entries, chars => do
    let ((path, v), rest) ← pair value bound chars
    if isWithin complete path then throw .malformed
    let entries ← entries.addAt path.dropLast (path.getLastD "") v
    match skipSpace rest with
    | '}' :: rest => return (entries, rest)
    | ',' :: rest =>
      let complete := if v.isContainer then path :: complete else complete
      inlineEntries bound complete entries (skipSpace rest)
    | _ => throw .malformed

/-- A table in braces, from behind the opening one. -/
def inlineTable (bound : Nat) : Reader Toml := fun chars =>
  match skipSpace chars with
  | '}' :: rest => .ok (.table [], rest)
  | chars => do
    let (entries, rest) ← inlineEntries value bound [] [] chars
    return (.table entries, rest)

end

/-- A value that is no list, no table and no string. -/
def word : Reader Toml := fun chars =>
  match chars with
  | 't' :: 'r' :: 'u' :: 'e' :: rest => .ok (.boolean true, rest)
  | 'f' :: 'a' :: 'l' :: 's' :: 'e' :: rest => .ok (.boolean false, rest)
  | _ => do
    if let some found ← moment? chars then return found
    if let some found := basedInteger? chars then return found
    if let some found ← decimal? chars then return found
    require (specialReal? chars)

def value (bound : Nat) : (nesting : Nat) → Reader Toml
  | 0, _ => .error .nestedTooDeeply
  | nesting + 1, chars =>
    match chars with
    | '[' :: rest => do
      let (items, rest) ← members (value bound nesting) bound rest
      return (.array items, rest)
    | '{' :: rest => inlineTable (value bound nesting) bound rest
    | '"' :: _ | '\'' :: _ => do
      let (s, rest) ← require (string? bound chars)
      return (.text s, rest)
    | _ => word chars

/-- A document as far as it has been read. -/
structure Reading where
  entries : Entries
  /-- The paths of lists and tables that were written as values. -/
  complete : List (List String)
  /-- The paths of tables that have had their header. -/
  headed : List (List String)
  /-- The tables that keys went through since the last header. They count as having had a
  header of their own from the next header on. -/
  opened : List (List String)
  /-- The last header. -/
  current : List String

namespace Reading

def start : Reading := ⟨[], [], [], [], []⟩

/-- Closes what keys have opened since the last header. -/
def closeOpened (reading : Reading) : Reading :=
  { reading with headed := reading.opened ++ reading.headed, opened := [] }

/-- Goes on under the header of a table, which may be given once. -/
def enterTable (path : List String) (reading : Reading) : Except Failure Reading := do
  if path ∈ reading.headed || isWithin reading.complete path then throw .malformed
  let entries ← reading.entries.change .ok path
  return { reading with entries, headed := path :: reading.headed, current := path }

/-- Goes on under the header of a further table in a list, where all begins anew. -/
def enterListed (path : List String) (reading : Reading) : Except Failure Reading := do
  if isWithin reading.complete path then throw .malformed
  let entries ← reading.entries.change (Entries.appendTable (path.getLastD "")) path.dropLast
  let outside := fun other : List String => !path.isPrefixOf other
  return { reading with
    entries
    complete := reading.complete.filter outside
    headed := path :: reading.headed.filter outside
    current := path }

/-- The tables that a key goes through below the current one. -/
def through (current : List String) : List String → List (List String)
  | name :: next :: rest => (current ++ [name]) :: through (current ++ [name]) (next :: rest)
  | _ => []

/-- Takes in a key with its value. The key goes through no table that had a header, and into
nothing that is complete. -/
def enter (path : List String) (v : Toml) (reading : Reading) : Except Failure Reading := do
  let tables := through reading.current path
  let place := reading.current ++ path
  if tables.any (· ∈ reading.headed) || isWithin reading.complete place.dropLast then
    throw .malformed
  let entries ← reading.entries.addAt place.dropLast (place.getLastD "") v
  return { reading with
    entries
    complete := if v.isContainer then place :: reading.complete else reading.complete
    opened := tables ++ reading.opened }

/-- Takes in what stands at the front of a line that is not empty, and returns what follows. -/
def statement (bound nesting : Nat) (reading : Reading) : Reader Reading := fun chars => do
  match chars with
  | '#' :: _ => return (reading, chars)
  | '[' :: '[' :: rest =>
    let (path, rest) ← key bound (skipSpace rest)
    let reading ← reading.closeOpened.enterListed path
    return (reading, ← require (mark? ']' (← require (mark? ']' rest))))
  | '[' :: rest =>
    let (path, rest) ← key bound (skipSpace rest)
    let reading ← reading.closeOpened.enterTable path
    return (reading, ← require (mark? ']' rest))
  | _ =>
    let ((path, v), rest) ← pair (value bound nesting) bound chars
    return (← reading.enter path v, rest)

/-- What follows the end of a line, before which only a comment may stand. -/
def endLine (chars : List Char) : Except Failure (List Char) :=
  let comment := fun chars : List Char => chars.takeWhile (· ≠ '\n')
  match skipSpace chars with
  | [] => .ok []
  | '\n' :: rest => .ok rest
  | '#' :: rest =>
    if (comment rest).any isControl then .error .malformed
    else .ok ((rest.dropWhile (· ≠ '\n')).drop 1)
  | _ => .error .malformed

/-- Takes in the lines of a text, at most as many as the first argument allows. -/
def lines (bound nesting : Nat) : Nat → Reading → List Char → Except Failure Reading
  | 0, _, _ => .error .malformed
  | count + 1, reading, chars =>
    match skipSpace chars with
    | [] => .ok reading
    | '\n' :: rest => lines bound nesting count reading rest
    | chars => do
      let (reading, rest) ← statement bound nesting reading chars
      lines bound nesting count reading (← endLine rest)

end Reading

/-- Lines end with a line feed, which a carriage return may precede. -/
def dropReturns : List Char → List Char
  | [] => []
  | '\r' :: '\n' :: rest => '\n' :: dropReturns rest
  | c :: rest => c :: dropReturns rest

/-- How many lists and tables may be open inside one another. -/
def nestingLimit : Nat := 400

/-- Reads a document. -/
def read (s : String) : Except Failure Entries := do
  let chars := dropReturns s.toList
  let bound := chars.length + 1
  return (← Reading.lines bound nestingLimit bound .start chars).entries

end Toml

end PiecewiseLang
