import PiecewiseLang.Text.Lines

/-! Files as the command line sees them: texts by path. A path that does not begin with a
slash leads from the working directory, of whose surroundings nothing is known but that they
are directories; one that begins with a slash leads from the root of the system. -/
namespace PiecewiseLang

/-- Texts by their paths. -/
abbrev Files := List (String × String)

namespace Files

/-- The names on a path, without the parts that say nothing. -/
def parts (path : String) : List String :=
  ((Text.words (· = '/') path.toList).filter (· ≠ ['.'])).map String.ofList

/-- The slashes a path begins with. Two of them may have a meaning of their own and are
kept; any other number counts as one. -/
def slashes (path : String) : String :=
  match (path.toList.takeWhile (· = '/')).length with
  | 0 => ""
  | 2 => "//"
  | _ => "/"

/-- A path without the parts that say nothing. -/
def normalize (path : String) : String :=
  let path := slashes path ++ "/".intercalate (parts path)
  if path.isEmpty then "." else path

/-- What is found at a path. -/
inductive Found where
  | missing
  | directory
  | file (text : String)
  /-- The path or one of its names is longer than the system allows. -/
  | tooLong

/-- The most bytes of a name and of a whole path. -/
def nameLimit : Nat := 255
def pathLimit : Nat := 4095

/-- The directories that systems have at the same place. -/
def systemDirectories : List (List String) :=
  [["bin"], ["boot"], ["dev"], ["etc"], ["home"], ["lib"], ["lib64"], ["media"], ["mnt"],
    ["opt"], ["proc"], ["root"], ["run"], ["sbin"], ["srv"], ["sys"], ["tmp"], ["usr"], ["var"],
    ["usr", "bin"], ["usr", "lib"], ["usr", "local"], ["usr", "share"], ["var", "log"],
    ["var", "tmp"]]

/-- The file that is always empty. -/
def emptyFile : List String := ["dev", "null"]

/-- Where a path has led so far. -/
inductive Place where
  /-- A directory in the working directory, by the names that lead to it. -/
  | inner (names : List String)
  /-- A directory of the system, by the names that lead to it from the root. -/
  | system (names : List String)
  /-- A directory that the working directory is in. -/
  | outer

namespace Place

def parent : Place → Place
  | .inner [] => .outer
  | .inner names => .inner names.dropLast
  | .system names => .system names.dropLast
  | .outer => .outer

end Place

/-- The place of a directory that is asked for by name, and the text of a file. -/
inductive Entry where
  | missing
  | directory (place : Place)
  | file (text : String)

section
variable (files : Files)

/-- What a directory has under a name. -/
def entry (place : Place) (name : String) : Entry :=
  match place with
  | .outer => .missing
  | .inner names =>
    let path := names ++ [name]
    match files.find? fun file => parts file.1 = path with
    | some (_, text) => .file text
    | none =>
      if files.any fun file => path.isPrefixOf (parts file.1) then .directory (.inner path)
      else .missing
  | .system names =>
    let path := names ++ [name]
    if path = emptyFile then .file ""
    else if systemDirectories.contains path then .directory (.system path)
    else .missing

/-- What the names of a path lead to from a directory. -/
def follow : Place → List String → Found
  | _, [] => .directory
  | place, name :: rest =>
    if name = ".." then follow place.parent rest
    else if nameLimit < name.utf8ByteSize then .tooLong
    else match entry files place name with
      | .missing => .missing
      | .directory place => follow place rest
      | .file text => if rest.isEmpty then .file text else .missing

/-- What is found at a path in its shortest form. -/
def find (path : String) : Found :=
  match files.find? fun file => normalize file.1 = path with
  | some file => .file file.2
  | none =>
    if pathLimit < path.utf8ByteSize then .tooLong
    else follow files (if path.startsWith "/" then .system [] else .inner []) (parts path)

end

end Files

end PiecewiseLang
