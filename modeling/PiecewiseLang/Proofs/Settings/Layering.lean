import PiecewiseLang.Settings

/-! Variables of the environment before a table of settings, key by key. A variable that can be read
decides about its key, and what the table has there is not looked at. All else in the table is checked
and used as it is without variables, and a variable that cannot be read changes nothing. Of the way
entries are read this needs that it leaves an integer alone and knows the levels by their names. -/
namespace PiecewiseLang

theorem lookup_filter_key {α : Type} (wanted : String → Bool) (entries : List (String × α))
    (key : String) : (entries.filter (wanted ·.1)).lookup key =
      if wanted key then entries.lookup key else none := by
  induction entries with
  | nil => simp
  | cons entry rest ih =>
    obtain ⟨name, v⟩ := entry
    by_cases same : key = name
    · subst same
      cases kept : wanted key <;> simp [kept, ih]
    · have other : (key == name) = false := beq_eq_false_iff_ne.mpr same
      cases kept : wanted name <;> simp [kept, List.lookup_cons, other, ih]

namespace Toml.Entries

theorem lookup_replaced (entries : Entries) (name : String) (v : Toml) (key : String) :
    (entries.map fun entry => if entry.1 = name then (name, v) else entry).lookup key =
      if key = name then (entries.lookup name).map fun _ => v else entries.lookup key := by
  induction entries with
  | nil => simp
  | cons entry rest ih =>
    obtain ⟨other, w⟩ := entry
    by_cases same : key = other
    · subst same
      by_cases here : key = name
      · simp [here]
      · simp [here]
    · have apart : (key == other) = false := beq_eq_false_iff_ne.mpr same
      by_cases here : other = name
      · subst here
        simpa [List.lookup_cons, apart, same] using ih
      · have elsewhere : (name == other) = false := beq_eq_false_iff_ne.mpr (Ne.symm here)
        simpa [List.lookup_cons, apart, here, elsewhere] using ih

/-- What is put under a key is found there, and under the other keys is what was there. -/
theorem lookup_put (entries : Entries) (name : String) (v : Toml) (key : String) :
    (entries.put name v).lookup key = if key = name then some v else entries.lookup key := by
  unfold put
  split
  case h_1 none =>
    rw [List.lookup_append]
    by_cases same : key = name
    · subst same
      simp [none]
    · have apart : (key == name) = false := beq_eq_false_iff_ne.mpr same
      simp [same, List.lookup_cons, apart]
  case h_2 found =>
    rw [lookup_replaced, found, Option.map_some]

end Toml.Entries

namespace Settings

open PiecewiseLang.Toml (Entries)

/-! What settings are made of. -/

theorem setting_put {α : Type} (entries : Entries) (name : String) (v : Toml) (key : String)
    (read : Toml → Except Problem α) (default : α) :
    setting (entries.put name v) key read default =
      if key = name then read v else setting entries key read default := by
  rw [setting, Entries.lookup_put]
  by_cases same : key = name
  · rw [if_pos same, if_pos same]
  · rw [if_neg same, if_neg same, setting]

theorem unknownKeys_cons (entry : String × Toml) (rest : Entries) :
    unknownKeys (entry :: rest) = if entry.1 ∈ knownKeys then unknownKeys rest
      else (entry.1, .unknownKey) :: unknownKeys rest := by
  rw [unknownKeys, List.filter_cons]
  by_cases known : entry.1 ∈ knownKeys <;> simp [known, unknownKeys]

theorem unknownKeys_replaced {name : String} (known : name ∈ knownKeys) (entries : Entries)
    (v : Toml) :
    unknownKeys (entries.map fun entry => if entry.1 = name then (name, v) else entry) =
      unknownKeys entries := by
  induction entries with
  | nil => rfl
  | cons entry rest ih =>
    rw [List.map_cons, unknownKeys_cons, unknownKeys_cons, ih]
    by_cases here : entry.1 = name
    · simp [here, known]
    · rw [if_neg here]

theorem unknownKeys_put {name : String} (known : name ∈ knownKeys) (entries : Entries) (v : Toml) :
    unknownKeys (entries.put name v) = unknownKeys entries := by
  unfold Entries.put
  split
  case h_1 => simp [unknownKeys, List.filter_append, known]
  case h_2 => exact unknownKeys_replaced known entries v

theorem unknownKeys_filter (wanted : String → Bool) (keeps : ∀ key ∉ knownKeys, wanted key = true)
    (entries : Entries) : unknownKeys (entries.filter (wanted ·.1)) = unknownKeys entries := by
  simp only [unknownKeys, List.filter_filter]
  congr 1
  refine List.filter_congr fun entry _ => ?_
  by_cases known : entry.1 ∈ knownKeys
  · simp [known]
  · simp [known, keeps _ known]

namespace Readers

/-- What reading has to keep of the two entries that variables give. -/
structure Lawful (readers : Readers) : Prop where
  integer_kept : ∀ n, readers.integer (.integer n) = .ok n
  level_named : ∀ level : LogLevel, readers.level (.text level.name) = .ok level

theorem standard_lawful : standard.Lawful where
  integer_kept _ := rfl
  level_named level := by cases level <;> rfl

theorem depth_ok {readers : Readers} {v : Toml} {n : Int} :
    readers.depth v = .ok n ↔ readers.integer v = .ok n ∧ 1 ≤ n := by
  rw [depth]
  cases readers.integer v with
  | error problem => exact iff_of_false (fun read => by cases read) fun read => by cases read.1
  | ok m =>
    change (if 1 ≤ m then Except.ok m else .error Problem.tooSmall) = .ok n ↔ _
    by_cases large : 1 ≤ m
    · rw [if_pos large]
      refine (and_iff_left_of_imp fun same => ?_).symm
      cases same
      exact large
    · rw [if_neg large]
      refine iff_of_false (fun read => by cases read) fun ⟨same, enough⟩ => ?_
      cases same
      exact large enough

end Readers

/-- Settings from what was found for each key, and complaints about other keys. -/
def assemble (depth : Except Problem Int) (level : Except Problem LogLevel)
    (prompt continuation : Except Problem String) (unknown : List Complaint) :
    Except (List Complaint) Settings :=
  match depth, level, prompt, continuation, unknown with
  | .ok d, .ok l, .ok p, .ok c, [] => .ok ⟨d, l, p, c⟩
  | _, _, _, _, unknown =>
    .error (complaint depthKey depth ++ complaint levelKey level ++ complaint promptKey prompt ++
      complaint continuationKey continuation ++ unknown)

theorem ofEntries_eq (readers : Readers) (entries : Entries) : ofEntries readers entries =
    assemble (setting entries depthKey readers.depth default.maxCallDepth)
      (setting entries levelKey readers.level default.logLevel)
      (setting entries promptKey readers.text default.prompt)
      (setting entries continuationKey readers.text default.continuationPrompt)
      (unknownKeys entries) := rfl

theorem assemble_ok {depth : Except Problem Int} {level : Except Problem LogLevel}
    {prompt continuation : Except Problem String} {unknown : List Complaint} {s : Settings} :
    assemble depth level prompt continuation unknown = .ok s ↔
      depth = .ok s.maxCallDepth ∧ level = .ok s.logLevel ∧ prompt = .ok s.prompt ∧
        continuation = .ok s.continuationPrompt ∧ unknown = [] := by
  constructor
  · intro made
    unfold assemble at made
    split at made
    · cases made
      exact ⟨rfl, rfl, rfl, rfl, rfl⟩
    · cases made
  · rintro ⟨rfl, rfl, rfl, rfl, rfl⟩
    rfl

/-- The complaints that are given instead of settings. -/
def complaintsOf : Except Failure Settings → List Complaint
  | .error (.invalid complaints) => complaints
  | _ => []

theorem filter_complaint {α : Type} {name : String} {keys : List String} (member : name ∈ keys)
    (found : Except Problem α) : (complaint name found).filter (·.1 ∉ keys) = [] := by
  cases found <;> simp [complaint, member]

theorem complaintsOf_assemble (depth : Except Problem Int) (level : Except Problem LogLevel)
    (prompt continuation : Except Problem String) (unknown : List Complaint) :
    complaintsOf ((assemble depth level prompt continuation unknown).mapError .invalid) =
      complaint depthKey depth ++ complaint levelKey level ++ complaint promptKey prompt ++
        complaint continuationKey continuation ++ unknown := by
  unfold assemble
  split <;> rfl

/-! Variables that can be read. -/

/-- The environment without a variable. -/
def Variables.unset (vars : Variables) (name : String) : Variables := vars.filter (·.1 ≠ name)

/-- The call depth that the variables give: none if the variable is missing, blank or malformed. A
text of more digits than an integer may have as text is malformed as well. -/
def givenDepth? (vars : Variables) : Option Int :=
  Text.readInteger (variableText vars depthVariable)

/-- The level that the variables name, in any case. -/
def givenLevel? (vars : Variables) : Option LogLevel :=
  LogLevel.ofName? (Text.uppercase (variableText vars levelVariable))

/-- The keys whose variable can be read. -/
def overridden (vars : Variables) : List String :=
  (if (givenDepth? vars).isSome then [depthKey] else []) ++
    if (givenLevel? vars).isSome then [levelKey] else []

theorem variableText_unset (vars : Variables) (name other : String) :
    variableText (vars.unset other) name = if name = other then "" else variableText vars name := by
  rw [variableText, Variables.unset, lookup_filter_key (fun key => decide (key ≠ other))]
  by_cases same : name = other
  · rw [if_pos same, if_neg (by simp [same])]
    rfl
  · rw [if_neg same, if_pos (by simp [same]), variableText]

theorem readInteger_blank : Text.readInteger "" = none := by decide +kernel

theorem ofName?_blank : LogLevel.ofName? (Text.uppercase "") = none := by decide +kernel

theorem givenDepth?_nil : givenDepth? [] = none := readInteger_blank

theorem givenLevel?_nil : givenLevel? [] = none := ofName?_blank

theorem name_of_ofName? {name : String} {level : LogLevel}
    (found : LogLevel.ofName? name = some level) :
    level.name = name :=
  of_decide_eq_true (List.find?_some (p := fun level : LogLevel => decide (level.name = name)) found)

section

variable (vars : Variables)

theorem givenDepth?_unset : givenDepth? (vars.unset depthVariable) = none := by
  rw [givenDepth?, variableText_unset, if_pos rfl, readInteger_blank]

theorem givenDepth?_unset_level : givenDepth? (vars.unset levelVariable) = givenDepth? vars := by
  rw [givenDepth?, variableText_unset, if_neg (by decide), givenDepth?]

theorem givenLevel?_unset : givenLevel? (vars.unset levelVariable) = none := by
  rw [givenLevel?, variableText_unset, if_pos rfl, ofName?_blank]

theorem givenLevel?_unset_depth : givenLevel? (vars.unset depthVariable) = givenLevel? vars := by
  rw [givenLevel?, variableText_unset, if_neg (by decide), givenLevel?]

theorem depthOverride_entries : (depthOverride vars).entries depthKey =
    (givenDepth? vars).toList.map fun n => (depthKey, .integer n) := by
  unfold depthOverride givenDepth?
  generalize variableText vars depthVariable = text
  by_cases blank : text.isEmpty = true
  · obtain rfl := String.isEmpty_iff.mp blank
    rw [readInteger_blank]
    rfl
  · cases read : Text.readInteger text <;> simp [blank, read, Override.entries]

theorem levelOverride_entries : (levelOverride vars).entries levelKey =
    (givenLevel? vars).toList.map fun level => (levelKey, .text level.name) := by
  unfold levelOverride givenLevel?
  generalize Text.uppercase (variableText vars levelVariable) = text
  by_cases blank : text.isEmpty = true
  · obtain rfl := String.isEmpty_iff.mp blank
    rfl
  · cases found : LogLevel.ofName? text with
    | none => simp [blank, found, Override.entries]
    | some level => simp [blank, found, Override.entries, name_of_ofName? found]

theorem depth_mem_overridden : depthKey ∈ overridden vars ↔ (givenDepth? vars).isSome := by
  have apart : depthKey ≠ levelKey := by decide
  unfold overridden
  cases givenDepth? vars <;> cases givenLevel? vars <;> simp [apart]

theorem level_mem_overridden : levelKey ∈ overridden vars ↔ (givenLevel? vars).isSome := by
  have apart : levelKey ≠ depthKey := by decide
  unfold overridden
  cases givenDepth? vars <;> cases givenLevel? vars <;> simp [apart]

theorem eq_of_mem_overridden {key : String} (member : key ∈ overridden vars) :
    key = depthKey ∨ key = levelKey := by
  rcases List.mem_append.mp member with depth | level
  · split at depth
    · exact .inl (List.mem_singleton.mp depth)
    · cases depth
  · split at level
    · exact .inr (List.mem_singleton.mp level)
    · cases level

end

/-! Settings from a table and variables. -/

/-- What is found for a key: what a variable gives, if it passes a check, or else the setting. -/
def found {α : Type} (given : Option α) (check : α → Except Problem α) (entries : Entries)
    (key : String) (read : Toml → Except Problem α) (default : α) : Except Problem α :=
  match given with
  | some a => check a
  | none => setting entries key read default

section

variable (readers : Readers)

def depthFound (entries : Entries) (vars : Variables) : Except Problem Int :=
  found (givenDepth? vars) (fun n => readers.depth (.integer n)) entries depthKey readers.depth
    default.maxCallDepth

def levelFound (entries : Entries) (vars : Variables) : Except Problem LogLevel :=
  found (givenLevel? vars) .ok entries levelKey readers.level default.logLevel

theorem depthFound_nil (entries : Entries) : depthFound readers entries [] =
    setting entries depthKey readers.depth default.maxCallDepth := by
  rw [depthFound, givenDepth?_nil, found]

theorem levelFound_nil (entries : Entries) : levelFound readers entries [] =
    setting entries levelKey readers.level default.logLevel := by
  rw [levelFound, givenLevel?_nil, found]

end

section

variable {readers : Readers} (lawful : readers.Lawful)

include lawful

/-- Only these two keys are found in the variables. -/
theorem ofSection_eq (held : Section) (vars : Variables) : ofSection readers held vars =
    if held.nameless then .error .nameless
    else (assemble (depthFound readers held.entries vars) (levelFound readers held.entries vars)
      (setting held.entries promptKey readers.text default.prompt)
      (setting held.entries continuationKey readers.text default.continuationPrompt)
      (unknownKeys held.entries)).mapError .invalid := by
  have depthKnown : depthKey ∈ knownKeys := by decide
  have levelKnown : levelKey ∈ knownKeys := by decide
  have apart : depthKey ≠ levelKey ∧ levelKey ≠ depthKey ∧ promptKey ≠ depthKey ∧
      promptKey ≠ levelKey ∧ continuationKey ≠ depthKey ∧ continuationKey ≠ levelKey := by decide
  simp only [ofSection, depthOverride_entries, levelOverride_entries, depthFound, levelFound, found]
  cases givenDepth? vars <;> cases givenLevel? vars <;>
    simp [override, ofEntries_eq, setting_put, unknownKeys_put, depthKnown, levelKnown,
      lawful.level_named, apart]

theorem ofSection_ok {held : Section} {vars : Variables} {s : Settings} :
    ofSection readers held vars = .ok s ↔ held.nameless = false ∧
      depthFound readers held.entries vars = .ok s.maxCallDepth ∧
      levelFound readers held.entries vars = .ok s.logLevel ∧
      setting held.entries promptKey readers.text default.prompt = .ok s.prompt ∧
      setting held.entries continuationKey readers.text default.continuationPrompt =
        .ok s.continuationPrompt ∧
      unknownKeys held.entries = [] := by
  rw [ofSection_eq lawful, ← assemble_ok]
  cases held.nameless with
  | true => simp
  | false =>
    rw [if_neg Bool.false_ne_true]
    generalize assemble _ _ _ _ _ = assembled
    constructor
    · intro made
      cases assembled <;> cases made
      exact ⟨rfl, rfl⟩
    · rintro ⟨-, rfl⟩
      rfl

theorem complaintsOf_ofSection (held : Section) (vars : Variables) :
    complaintsOf (ofSection readers held vars) = if held.nameless then [] else
      complaint depthKey (depthFound readers held.entries vars) ++
      complaint levelKey (levelFound readers held.entries vars) ++
      complaint promptKey (setting held.entries promptKey readers.text default.prompt) ++
      complaint continuationKey
        (setting held.entries continuationKey readers.text default.continuationPrompt) ++
      unknownKeys held.entries := by
  rw [ofSection_eq lawful]
  split
  · rfl
  · exact complaintsOf_assemble ..

end

/-! A table without the keys that the variables decide about. -/

/-- The section without the entries of some keys. -/
def Section.without (held : Section) (keys : List String) : Section :=
  { held with entries := held.entries.filter (·.1 ∉ keys) }

section

variable {α : Type} {key : String} {keys : List String}

theorem setting_without (held : Section) (kept : key ∉ keys) (read : Toml → Except Problem α)
    (default : α) :
    setting (held.without keys).entries key read default = setting held.entries key read default := by
  rw [setting, Section.without, lookup_filter_key (fun key => decide (key ∉ keys)),
    if_pos (decide_eq_true kept), setting]

theorem setting_without_of_mem (held : Section) (dropped : key ∈ keys)
    (read : Toml → Except Problem α) (default : α) :
    setting (held.without keys).entries key read default = .ok default := by
  rw [setting, Section.without, lookup_filter_key (fun key => decide (key ∉ keys)),
    if_neg (by simpa using dropped)]

variable {given : Option α}

theorem found_without (decides : key ∈ keys ↔ given.isSome) (held : Section)
    (check : α → Except Problem α) (read : Toml → Except Problem α) (default : α) :
    found given check (held.without keys).entries key read default =
      found given check held.entries key read default := by
  cases given with
  | some a => rfl
  | none => exact setting_without held (by simp [decides]) read default

/-- What is found is what a variable gives and the check keeps, or else what the entries without the
keys that the variables decide about have, which is then the default if there was an entry. -/
theorem found_ok (decides : key ∈ keys ↔ given.isSome) (held : Section)
    {check : α → Except Problem α} (keeps : ∀ a b, check a = .ok b → a = b)
    {read : Toml → Except Problem α} {default a : α} :
    found given check held.entries key read default = .ok a ↔
      ∃ r, setting (held.without keys).entries key read default = .ok r ∧
        (∀ b, given = some b → check b = .ok b) ∧ a = given.getD r := by
  cases given with
  | none =>
    rw [found, setting_without held (by simp [decides])]
    simp [eq_comm]
  | some b =>
    rw [found, setting_without_of_mem held (by simp [decides])]
    constructor
    · intro checked
      obtain rfl := keeps b a checked
      exact ⟨default, rfl, fun c same => Option.some.inj same ▸ checked, rfl⟩
    · rintro ⟨r, -, checked, same⟩
      rw [same]
      exact checked b rfl

theorem complaint_found (decides : key ∈ keys ↔ given.isSome)
    (check : α → Except Problem α) (entries : Entries) (read : Toml → Except Problem α) (default : α) :
    (complaint key (found given check entries key read default)).filter (·.1 ∉ keys) =
      (complaint key (setting entries key read default)).filter (·.1 ∉ keys) := by
  cases given with
  | none => rfl
  | some a =>
    have member : key ∈ keys := by simp [decides]
    rw [filter_complaint member, filter_complaint member]

end

section

variable (held : Section) (vars : Variables)

theorem prompt_not_overridden : promptKey ∉ overridden vars := by
  intro member
  rcases eq_of_mem_overridden vars member with same | same <;> exact absurd same (by decide)

theorem continuation_not_overridden : continuationKey ∉ overridden vars := by
  intro member
  rcases eq_of_mem_overridden vars member with same | same <;> exact absurd same (by decide)

theorem unknownKeys_without :
    unknownKeys (held.without (overridden vars)).entries = unknownKeys held.entries := by
  refine unknownKeys_filter (fun key => decide (key ∉ overridden vars)) (fun key unknown => ?_) _
  refine decide_eq_true fun member => unknown ?_
  rcases eq_of_mem_overridden vars member with rfl | rfl <;> decide

variable {readers : Readers} (lawful : readers.Lawful)

include lawful

/-- What the table has for keys that the variables decide about does not matter. -/
theorem ofSection_without :
    ofSection readers (held.without (overridden vars)) vars = ofSection readers held vars := by
  have depth : depthFound readers (held.without (overridden vars)).entries vars =
      depthFound readers held.entries vars := found_without (depth_mem_overridden vars) ..
  have level : levelFound readers (held.without (overridden vars)).entries vars =
      levelFound readers held.entries vars := found_without (level_mem_overridden vars) ..
  rw [ofSection_eq lawful, ofSection_eq lawful, depth, level, unknownKeys_without,
    setting_without held (prompt_not_overridden vars),
    setting_without held (continuation_not_overridden vars)]
  rfl

theorem depthFound_ok {d : Int} : depthFound readers held.entries vars = .ok d ↔
    ∃ r, depthFound readers (held.without (overridden vars)).entries [] = .ok r ∧
      (∀ n, givenDepth? vars = some n → 1 ≤ n) ∧ d = (givenDepth? vars).getD r := by
  have tested (n : Int) : readers.depth (.integer n) = .ok n ↔ 1 ≤ n :=
    Readers.depth_ok.trans (and_iff_right (lawful.integer_kept n))
  rw [depthFound_nil, depthFound, found_ok (depth_mem_overridden vars) held]
  · simp only [tested]
  · intro n m read
    exact Except.ok.inj ((lawful.integer_kept n).symm.trans (Readers.depth_ok.mp read).1)

omit lawful in
theorem levelFound_ok {l : LogLevel} : levelFound readers held.entries vars = .ok l ↔
    ∃ r, levelFound readers (held.without (overridden vars)).entries [] = .ok r ∧
      l = (givenLevel? vars).getD r := by
  rw [levelFound_nil, levelFound, found_ok (level_mem_overridden vars) held fun _ _ => Except.ok.inj]
  simp

/-- Settings are made if the other keys make settings and the variables give no depth below one. -/
theorem ofSection_used (s : Settings) : ofSection readers held vars = .ok s ↔
    ∃ rest, ofSection readers (held.without (overridden vars)) [] = .ok rest ∧
      (∀ n, givenDepth? vars = some n → 1 ≤ n) ∧
      s = { rest with
        maxCallDepth := (givenDepth? vars).getD rest.maxCallDepth
        logLevel := (givenLevel? vars).getD rest.logLevel } := by
  have samePrompt := setting_without held (prompt_not_overridden vars) readers.text default.prompt
  have sameContinuation := setting_without held (continuation_not_overridden vars) readers.text
    default.continuationPrompt
  have sameUnknown := unknownKeys_without held vars
  constructor
  · intro made
    obtain ⟨named, depth, level, prompt, continuation, known⟩ := (ofSection_ok lawful).mp made
    obtain ⟨d, plainDepth, atLeastOne, depthIs⟩ := (depthFound_ok held vars lawful).mp depth
    obtain ⟨l, plainLevel, levelIs⟩ := (levelFound_ok held vars).mp level
    refine ⟨⟨d, l, s.prompt, s.continuationPrompt⟩, (ofSection_ok lawful).mpr ?_, atLeastOne, ?_⟩
    · exact ⟨named, plainDepth, plainLevel, samePrompt.trans prompt,
        sameContinuation.trans continuation, sameUnknown.trans known⟩
    · rw [← depthIs, ← levelIs]
  · rintro ⟨rest, made, atLeastOne, same⟩
    obtain ⟨named, depth, level, prompt, continuation, known⟩ := (ofSection_ok lawful).mp made
    have depthIs : s.maxCallDepth = (givenDepth? vars).getD rest.maxCallDepth := by rw [same]
    have levelIs : s.logLevel = (givenLevel? vars).getD rest.logLevel := by rw [same]
    have promptIs : s.prompt = rest.prompt := by rw [same]
    have continuationIs : s.continuationPrompt = rest.continuationPrompt := by rw [same]
    rw [ofSection_ok lawful, promptIs, continuationIs]
    exact ⟨named, (depthFound_ok held vars lawful).mpr ⟨_, depth, atLeastOne, depthIs⟩,
      (levelFound_ok held vars).mpr ⟨_, level, levelIs⟩, samePrompt.symm.trans prompt,
      sameContinuation.symm.trans continuation, sameUnknown.symm.trans known⟩

/-- The complaints about the other keys are the same as without variables. -/
theorem complaintsOf_others :
    (complaintsOf (ofSection readers held vars)).filter (·.1 ∉ overridden vars) =
      (complaintsOf (ofSection readers held [])).filter (·.1 ∉ overridden vars) := by
  have depth := complaint_found (depth_mem_overridden vars) (fun n => readers.depth (.integer n))
    held.entries readers.depth default.maxCallDepth
  have level := complaint_found (level_mem_overridden vars) .ok held.entries readers.level
    default.logLevel
  rw [complaintsOf_ofSection lawful, complaintsOf_ofSection lawful, depthFound_nil, levelFound_nil]
  split
  · rfl
  · simp only [List.filter_append, depthFound, levelFound, depth, level]

omit lawful in
theorem one_le_of_depthFound {entries : Entries} {vars : Variables} {d : Int}
    (found : depthFound readers entries vars = .ok d) : 1 ≤ d := by
  unfold depthFound Settings.found setting at found
  split at found
  · exact (Readers.depth_ok.mp found).2
  split at found
  · cases found
    decide
  · exact (Readers.depth_ok.mp found).2

end

/-- How the settings from a section come about in the presence of variables. -/
structure Layered (readers : Readers) (held : Section) (vars : Variables) : Prop where
  /-- A depth that cannot be read might as well be missing. -/
  depthIgnored : givenDepth? vars = none →
    ofSection readers held (vars.unset depthVariable) = ofSection readers held vars
  levelIgnored : givenLevel? vars = none →
    ofSection readers held (vars.unset levelVariable) = ofSection readers held vars
  /-- What a section has for the keys that the variables decide about does not matter. -/
  hidden : ∀ other : Section, other.without (overridden vars) = held.without (overridden vars) →
    ofSection readers other vars = ofSection readers held vars
  /-- About the other keys there are the same complaints as without variables. -/
  checked : (complaintsOf (ofSection readers held vars)).filter (·.1 ∉ overridden vars) =
    (complaintsOf (ofSection readers held [])).filter (·.1 ∉ overridden vars)
  /-- There are settings if the variables give no depth below one and the other keys make settings
  without variables. They are these settings but for what the variables give. -/
  used : ∀ s, ofSection readers held vars = .ok s ↔
    ∃ rest, ofSection readers (held.without (overridden vars)) [] = .ok rest ∧
      (∀ n, givenDepth? vars = some n → 1 ≤ n) ∧
      s = { rest with
        maxCallDepth := (givenDepth? vars).getD rest.maxCallDepth
        logLevel := (givenLevel? vars).getD rest.logLevel }
  inRange : ∀ s, ofSection readers held vars = .ok s →
    1 ≤ s.maxCallDepth ∧ s.logLevel.name ∈ ["DEBUG", "INFO", "WARNING", "ERROR"]

/-- A file holds what its document has under the name of the section: nothing if that is missing, and
the entries of the table that is there. -/
theorem Section.ofFile_of_read (read : Toml.read text = .ok document) :
    (document.lookup sectionName = none → ofFile (some text) = .ok empty) ∧
      ∀ entries, document.lookup sectionName = some (.table entries) →
        ofFile (some text) = .ok ⟨entries, false⟩ := by
  have same : ofFile (some text) = ofDocument document := by
    rw [ofFile, read]
    rfl
  rw [same, ofDocument]
  constructor
  · intro missing
    rw [missing]
  · intro entries found
    rw [found]

/-- Settings come from the section of the file, which is empty if there is no file and else has the
entries of the table in it, and the variables go before it key by key. -/
theorem variables_layer_over_table (lawful : Readers.Lawful readers) (path : String)
    (text : Option String) (vars : Variables) :
    Section.ofFile none = .ok .empty ∧
    (∀ source document, Toml.read source = .ok document →
      (document.lookup sectionName = none → Section.ofFile (some source) = .ok .empty) ∧
      ∀ entries, document.lookup sectionName = some (.table entries) →
        Section.ofFile (some source) = .ok ⟨entries, false⟩) ∧
    (load readers path text vars).result =
      (Section.ofFile text >>= fun held => ofSection readers held vars) ∧
    ∀ held, Layered readers held vars := by
  refine ⟨rfl, fun source document read => Section.ofFile_of_read read, ?_, fun held => ?_⟩
  · rw [load]
    cases Section.ofFile text <;> rfl
  · exact {
      depthIgnored := fun none => by
        rw [ofSection_eq lawful, ofSection_eq lawful, depthFound, givenDepth?_unset, depthFound, none,
          levelFound, givenLevel?_unset_depth, levelFound]
      levelIgnored := fun none => by
        rw [ofSection_eq lawful, ofSection_eq lawful, levelFound, givenLevel?_unset, levelFound, none,
          depthFound, givenDepth?_unset_level, depthFound]
      hidden := fun other same => by
        rw [← ofSection_without other vars lawful, same, ofSection_without held vars lawful]
      checked := complaintsOf_others held vars lawful
      used := ofSection_used held vars lawful
      inRange := fun s made => by
        refine ⟨one_le_of_depthFound ((ofSection_ok lawful).mp made).2.1, ?_⟩
        cases s.logLevel <;> decide }

/-- A table whose depth is no integer. -/
def layeredSample : Section :=
  ⟨[("max_call_depth", .text "x"), ("log_level", .text "INFO")], false⟩

def layeredText : String := "[interpreter]\nmax_call_depth = \"x\"\nlog_level = \"INFO\""

/-- A depth, and a level that makes no sense. -/
def layeredVariables : Variables := [("SLOPE_MAX_CALL_DEPTH", " 0_9 "), ("SLOPE_LOG_LEVEL", "loud")]

theorem variables_layer_over_table_sample :
    Readers.standard.Lawful ∧
    Toml.read layeredText = .ok [("interpreter", .table layeredSample.entries)] ∧
    (load .standard "slope.toml" (some layeredText) layeredVariables).result =
      .ok ⟨9, .info, ">>> ", "... "⟩ := by
  have read : Toml.read layeredText = .ok [("interpreter", .table layeredSample.entries)] := by rfl
  obtain ⟨-, files, loaded, layered⟩ := variables_layer_over_table Readers.standard_lawful
    "slope.toml" (some layeredText) layeredVariables
  have file : Section.ofFile (some layeredText) = .ok layeredSample := (files _ _ read).2 _ rfl
  have depth : givenDepth? layeredVariables = some 9 := by decide +kernel
  have level : givenLevel? layeredVariables = none := by decide +kernel
  have keys : overridden layeredVariables = [depthKey] := by decide +kernel
  refine ⟨Readers.standard_lawful, read, ?_⟩
  rw [loaded, file]
  refine ((layered layeredSample).used _).mpr ⟨⟨128, .info, ">>> ", "... "⟩, ?_, ?_, ?_⟩
  · rw [keys]
    rfl
  · rw [depth]
    rintro n ⟨⟩
    decide
  · rw [depth, level]
    rfl

end Settings

end PiecewiseLang
