import PiecewiseLang.Binary64

/-! Values of settings files, and tables of them. -/
namespace PiecewiseLang

inductive Toml where
  | text (value : String)
  | integer (value : Int)
  | real (value : Double)
  | boolean (value : Bool)
  /-- A date, a time of day, or both. No setting makes use of it. -/
  | moment
  | array (items : List Toml)
  | table (entries : List (String × Toml))

namespace Toml

/-- Keys with their values, in the order of the text. No key is there twice. -/
abbrev Entries := List (String × Toml)

/-- Why a text is no document. -/
inductive Failure where
  /-- A rule of the format is broken. -/
  | malformed
  /-- A decimal integer has more digits than one may have as text. -/
  | overlongInteger
  /-- Too many lists and tables are open inside one another. -/
  | nestedTooDeeply
deriving DecidableEq, Repr

/-- Lists and tables, which are complete once they are written as a value. -/
def isContainer : Toml → Bool
  | .array _ | .table _ => true
  | _ => false

namespace Entries

/-- Gives a key another value, in the place of the one it has or behind all others. -/
def put (name : String) (v : Toml) (entries : Entries) : Entries :=
  match entries.lookup name with
  | none => entries ++ [(name, v)]
  | some _ => entries.map fun entry => if entry.1 = name then (name, v) else entry

/-- Changes the table that a path of keys leads to, and makes the tables that are missing on
the way. From a list the path goes on in its last member. -/
def change (f : Entries → Except Failure Entries) :
    List String → Entries → Except Failure Entries
  | [], entries => f entries
  | name :: rest, entries =>
    match entries.lookup name with
    | none => do return entries.put name (.table (← change f rest []))
    | some (.table inner) => do return entries.put name (.table (← change f rest inner))
    | some (.array items) =>
      match items.getLast? with
      | some (.table inner) => do
        return entries.put name (.array (items.dropLast ++ [.table (← change f rest inner)]))
      | _ => throw .malformed
    | some _ => throw .malformed

/-- Adds a key, which must be new. -/
def add (name : String) (v : Toml) (entries : Entries) : Except Failure Entries :=
  match entries.lookup name with
  | none => .ok (entries ++ [(name, v)])
  | some _ => .error .malformed

/-- Adds a key under the table that a path leads to. -/
def addAt (path : List String) (name : String) (v : Toml) (entries : Entries) :
    Except Failure Entries :=
  entries.change (add name v) path

/-- Adds an empty table to the list of a key, which may be missing. -/
def appendTable (name : String) (entries : Entries) : Except Failure Entries :=
  match entries.lookup name with
  | none => .ok (entries.put name (.array [.table []]))
  | some (.array items) => .ok (entries.put name (.array (items ++ [.table []])))
  | some _ => .error .malformed

end Entries

end Toml

end PiecewiseLang
