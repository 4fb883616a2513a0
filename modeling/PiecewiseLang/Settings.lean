import PiecewiseLang.Session.Record
import PiecewiseLang.Settings.Depth
import PiecewiseLang.Settings.Toml.Document
import PiecewiseLang.Text.Capitals

/-! Settings of the interpreter. They come from a table of a settings file and from
variables of the environment, which go before the table. A variable that makes no sense is
ignored with a warning; a table entry that makes no sense is an error. -/
namespace PiecewiseLang

structure Settings where
  maxCallDepth : Int
  logLevel : LogLevel
  prompt : String
  continuationPrompt : String

namespace Settings

def default : Settings := ⟨128, .warning, ">>> ", "... "⟩

def depthKey : String := "max_call_depth"
def levelKey : String := "log_level"
def promptKey : String := "prompt"
def continuationKey : String := "continuation_prompt"

/-- The keys that entries may have, in the order in which they are checked. -/
def knownKeys : List String := [depthKey, levelKey, promptKey, continuationKey]

def readLevel : Toml → Except Problem LogLevel
  | .text s => match LogLevel.ofName? s with
    | some level => .ok level
    | none => .error .notALevel
  | _ => .error .notALevel

def readText : Toml → Except Problem String
  | .text s => .ok s
  | _ => .error .notText

/-- How entries are read as what their keys ask for. -/
structure Readers where
  integer : Toml → Except Problem Int
  level : Toml → Except Problem LogLevel
  text : Toml → Except Problem String

namespace Readers

def standard : Readers := ⟨readInteger, readLevel, readText⟩

/-- The call depth, an integer of at least one. -/
def depth (readers : Readers) (v : Toml) : Except Problem Int := do
  let n ← readers.integer v
  if 1 ≤ n then .ok n else .error .tooSmall

end Readers

/-- The setting of a key: what its entry says, or the default where there is no entry. -/
def setting {α : Type} (entries : Toml.Entries) (name : String) (read : Toml → Except Problem α)
    (default : α) : Except Problem α :=
  match entries.lookup name with
  | none => .ok default
  | some v => read v

/-- The complaint about a setting, if there is one. -/
def complaint {α : Type} (name : String) : Except Problem α → List Complaint
  | .ok _ => []
  | .error problem => [(name, problem)]

/-- Complaints about the keys that entries may not have, in the order of the entries. -/
def unknownKeys (entries : Toml.Entries) : List Complaint :=
  (entries.filter (·.1 ∉ knownKeys)).map fun entry => (entry.1, .unknownKey)

/-- Settings from entries. Every entry is checked, and all complaints are given. -/
def ofEntries (readers : Readers) (entries : Toml.Entries) : Except (List Complaint) Settings :=
  let depth := setting entries depthKey readers.depth default.maxCallDepth
  let level := setting entries levelKey readers.level default.logLevel
  let prompt := setting entries promptKey readers.text default.prompt
  let continuation := setting entries continuationKey readers.text default.continuationPrompt
  match depth, level, prompt, continuation, unknownKeys entries with
  | .ok d, .ok l, .ok p, .ok c, [] => .ok ⟨d, l, p, c⟩
  | _, _, _, _, unknown =>
    .error (complaint depthKey depth ++ complaint levelKey level ++ complaint promptKey prompt ++
      complaint continuationKey continuation ++ unknown)

/-! Variables of the environment. -/

abbrev Variables := List (String × String)

def depthVariable : String := "SLOPE_MAX_CALL_DEPTH"
def levelVariable : String := "SLOPE_LOG_LEVEL"

/-- The value of a variable without the blanks around it; a missing one is blank. -/
def variableText (vars : Variables) (name : String) : String :=
  Text.trim ((vars.lookup name).getD "")

/-- What a variable sets: nothing where it is blank, an entry, or a warning. -/
inductive Override where
  | absent
  | entry (value : Toml)
  | ignored (warning : Record)

namespace Override

def entries (name : String) : Override → Toml.Entries
  | .entry v => [(name, v)]
  | _ => []

def warnings : Override → List Record
  | .ignored warning => [warning]
  | _ => []

end Override

def depthOverride (vars : Variables) : Override :=
  let s := variableText vars depthVariable
  if s.isEmpty then .absent
  else match Text.readInteger s with
    | some n => .entry (.integer n)
    | none => .ignored (.variableIgnored depthVariable s "not an integer")

/-- Level names in a variable count alike in either case. -/
def levelOverride (vars : Variables) : Override :=
  let s := Text.uppercase (variableText vars levelVariable)
  if s.isEmpty then .absent
  else match LogLevel.ofName? s with
    | some _ => .entry (.text s)
    | none => .ignored (.variableIgnored levelVariable s
        ("expected one of " ++ ", ".intercalate (LogLevel.all.map LogLevel.name)))

/-- Entries with others put in their place or added to them. -/
def override (overrides : Toml.Entries) (entries : Toml.Entries) : Toml.Entries :=
  overrides.foldl (fun entries (name, v) => entries.put name v) entries

/-! Loading. -/

/-- Why there are no settings. -/
inductive Failure where
  /-- The file is no document. -/
  | unreadable (failure : Toml.Failure)
  /-- The file has something where the settings should be that is neither a table nor a list
  of keys with their values. -/
  | notATable
  /-- A member of the list of settings is no pair. -/
  | notAPair
  /-- A setting has a key that is no text. -/
  | nameless
  | invalid (complaints : List Complaint)
deriving DecidableEq, Repr

structure Loaded where
  log : List Record
  result : Except Failure Settings

def sectionName : String := "interpreter"

/-- What the settings section of a document holds: its entries, and whether there are others
whose key is no text. -/
structure Section where
  entries : Toml.Entries
  nameless : Bool

namespace Section

def empty : Section := ⟨[], false⟩

/-- The key and the value that a member of a list gives: two members of a list, the two
characters of a text, or the two keys of a table. -/
def pair : Toml → Except Failure (Toml × Toml)
  | .array [key, v] => .ok (key, v)
  | .table [(key, _), (v, _)] => .ok (.text key, .text v)
  | .text s => match s.toList with
    | [key, v] => .ok (.text (String.singleton key), .text (String.singleton v))
    | _ => .error .notAPair
  | .array _ | .table _ => .error .notAPair
  | _ => .error .notATable

/-- Takes in a member of a list. Lists and tables are no keys at all. -/
def add (held : Section) (item : Toml) : Except Failure Section := do
  match ← pair item with
  | (.text name, v) => return { held with entries := held.entries.put name v }
  | (.array _, _) | (.table _, _) => throw .notATable
  | _ => return { held with nameless := true }

/-- The settings section of a document, which may be missing or empty. It is a table, or a
list that gives keys and values in pairs. -/
def ofDocument (document : Toml.Entries) : Except Failure Section :=
  match document.lookup sectionName with
  | none => .ok empty
  | some (.table entries) => .ok ⟨entries, false⟩
  | some (.array items) => items.foldlM add empty
  | some (.text s) => if s.isEmpty then .ok empty else .error .notAPair
  | some _ => .error .notATable

/-- The settings section of a file, given its text if there is such a file. -/
def ofFile : Option String → Except Failure Section
  | none => .ok empty
  | some text => do ofDocument (← (Toml.read text).mapError .unreadable)

end Section

/-- Settings from a section, the variables going before it. -/
def ofSection (readers : Readers) (held : Section) (vars : Variables) : Except Failure Settings :=
  let overrides := (depthOverride vars).entries depthKey ++
    (levelOverride vars).entries levelKey
  if held.nameless then .error .nameless
  else (ofEntries readers (override overrides held.entries)).mapError .invalid

/-- Loads settings from the text of the file at `path`, if there is one, and the variables. -/
def load (readers : Readers) (path : String) (text : Option String) (vars : Variables) : Loaded :=
  match Section.ofFile text with
  | .error failure => ⟨[], .error failure⟩
  | .ok held =>
    let loaded := if text.isSome then [Record.settingsLoaded path] else []
    let warnings := (depthOverride vars).warnings ++ (levelOverride vars).warnings
    ⟨loaded ++ warnings, ofSection readers held vars⟩

/-- Settings with another level, given by name in either case. -/
def withLevel (settings : Settings) (name : String) : Except (List Complaint) Settings :=
  match LogLevel.ofName? (Text.uppercase name) with
  | some logLevel => .ok { settings with logLevel }
  | none => .error [(levelKey, .notALevel)]

end Settings

end PiecewiseLang
