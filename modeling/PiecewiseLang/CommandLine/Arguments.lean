/-! Command-line arguments. An option has a long name after two dashes and may have a letter
after one dash; letters may be run together. The value of an option follows an equals sign
after a long name, follows a letter directly, or is the next argument, whatever that is. Two
dashes alone end the options. -/
namespace PiecewiseLang

structure OptionSpec where
  name : String
  letter : Option Char
  takesValue : Bool
deriving DecidableEq, Repr

namespace Arguments

/-- What arguments say: the options given, in order and with their values, and the rest. -/
structure Parsed where
  options : List (String × String)
  positionals : List String

namespace Parsed

def has (parsed : Parsed) (name : String) : Bool := (parsed.options.lookup name).isSome

/-- The value of an option; the last one counts. -/
def value? (parsed : Parsed) (name : String) : Option String :=
  parsed.options.reverse.lookup name

def withOptions (options : List (String × String)) (parsed : Parsed) : Parsed :=
  { parsed with options := options ++ parsed.options }

def withPositional (argument : String) (parsed : Parsed) : Parsed :=
  { parsed with positionals := argument :: parsed.positionals }

end Parsed

/-- An argument read by itself. -/
inductive Reading where
  | positional
  /-- Two dashes: what follows are no options. -/
  | stop
  | options (given : List (String × String))
  /-- Options of which the last takes the next argument for its value. -/
  | wanting (given : List (String × String)) (name : String)
  | invalid

section
variable (specs : List OptionSpec)

/-- Letters run together, after the options given by the letters before them. -/
def letters (given : List (String × String)) : List Char → Reading
  | [] => .options given
  | c :: rest =>
    match specs.find? (·.letter = some c) with
    | none => .invalid
    | some spec =>
      if !spec.takesValue then letters (given ++ [(spec.name, "")]) rest
      else if rest.isEmpty then .wanting given spec.name
      else .options (given ++ [(spec.name, String.ofList rest)])

/-- A long option, given what follows the two dashes. -/
def long (chars : List Char) : Reading :=
  let name := String.ofList (chars.takeWhile (· ≠ '='))
  match specs.find? (·.name = name), chars.dropWhile (· ≠ '=') with
  | none, _ => .invalid
  | some spec, [] => if spec.takesValue then .wanting [] name else .options [(name, "")]
  | some spec, _ :: value =>
    if spec.takesValue then .options [(name, String.ofList value)] else .invalid

def readOne (argument : String) : Reading :=
  match argument.toList with
  | ['-', '-'] => .stop
  | '-' :: '-' :: chars => long specs chars
  | '-' :: c :: rest => letters specs [] (c :: rest)
  | _ => .positional

/-- Reads arguments. Where options may not follow other arguments, the first argument that
is no option ends the options. -/
def parse (mixed : Bool) : List String → Option Parsed
  | [] => some ⟨[], []⟩
  | argument :: rest =>
    match readOne specs argument with
    | .invalid => none
    | .stop => some ⟨[], rest⟩
    | .options given => (parse mixed rest).map (·.withOptions given)
    | .wanting given name =>
      match rest with
      | [] => none
      | value :: rest => (parse mixed rest).map (·.withOptions (given ++ [(name, value)]))
    | .positional =>
      if mixed then (parse mixed rest).map (·.withPositional argument)
      else some ⟨[], argument :: rest⟩

end

end Arguments

end PiecewiseLang
