import Mathlib.Data.List.TakeWhile
import PiecewiseLang.Proofs.Parsing.Supplies
import PiecewiseLang.Proofs.Repl.Completion
import PiecewiseLang.Proofs.Repl.Typing

/-! Comments among the lines of a session. A line that holds a comment only is one more line that
waits, and the words of the lines that wait are the same with it; so every later line has the same
effect, with one exception. Commands are obeyed while no line waits, and a comment does wait: after a
comment where none waited, a command that comes next is gathered instead of being obeyed. -/
namespace PiecewiseLang

/-! Texts with the same words. -/

/-- The texts spell the same words, or neither can be divided into tokens. -/
def SameWords (source source' : String) : Prop :=
  ∀ words, Spells source.toList words ↔ Spells source'.toList words

namespace SameWords

variable {source source' : String}

/-- Whether a text is complete is told by its words, and there is one fault in looking for them. -/
theorem isComplete_eq (same : SameWords source source') :
    isComplete source' = isComplete source := by
  have broken {s : String} (silent : ∀ words, ¬Spells s.toList words) :
      isComplete s = .error .overlongInteger := by
    cases scanned : tokenize s with
    | ok tokens =>
      obtain ⟨inner, -, -, -, spelled⟩ := tokenize_spells scanned
      exact absurd spelled (silent _)
    | error fault =>
      obtain ⟨rfl, -⟩ := Supply.take_fault scanned
      rw [isComplete, scanned]
      rfl
  by_cases spelled : ∃ words, Spells source.toList words
  · obtain ⟨words, spelled⟩ := spelled
    obtain ⟨answer, told, complete⟩ := isComplete_spells spelled
    obtain ⟨answer', told', complete'⟩ := isComplete_spells ((same words).mp spelled)
    rw [told, told', Bool.eq_iff_iff.mpr (complete'.trans complete.symm)]
  · have silent := not_exists.mp spelled
    rw [broken silent, broken fun words => mt (same words).mpr (silent words)]

theorem parseProgram_iff (same : SameWords source source') :
    parseProgram nesting source = .ok program ↔ parseProgram nesting source' = .ok program := by
  constructor
  · intro parsed
    obtain ⟨words, spelled, segments⟩ := parseProgram_segments parsed
    exact ((same words).mp spelled).segments_iff.mp segments
  · intro parsed
    obtain ⟨words, spelled, segments⟩ := parseProgram_segments parsed
    exact ((same words).mpr spelled).segments_iff.mp segments

end SameWords

/-! What a line leads to, apart from what is shown of it. -/

/-- What comes of a line: the session ends, the bindings are listed, a program is carried out with
some outcome, what was gathered is no program, the session breaks down, or nothing comes of it yet. -/
inductive Effect where
  | quits
  | lists (environment : Environment)
  | runs (program : List Statement) (outcome : Outcome)
  | refuses
  | breaks (fault : Fault)
  | rests

/-- A command was obeyed. -/
def Effect.obeys : Effect → Bool
  | .quits | .lists _ => true
  | _ => false

namespace Reaction

def effect : Reaction → Effect
  | .quit => .quits
  | .listed env => .lists env
  | .ignored | .waited => .rests
  | .ran source outcome => match parseProgram Limits.default.nesting source with
    | .ok program => .runs program outcome
    | .error (.error _) => .refuses
    | .error (.fault fault) => .breaks fault
  | .broke fault => .breaks fault

end Reaction

/-- A text that can be told to be complete or not is parsed without a fault. -/
theorem parseProgram_ne_fault {source : String} (told : isComplete source = .ok complete) :
    parseProgram nesting source ≠ .error (.fault fault) := by
  intro failed
  rw [isComplete, tokenize_of_parse_fault failed] at told
  cases told

/-- Complete texts with the same words are carried out alike. -/
theorem SameWords.execute {source source' : String} (same : SameWords source source')
    (complete : isComplete source = .ok true) (callDepth : Int) (env : Environment) :
    let limits := Limits.ofCallDepth callDepth
    (execute limits env source').environment = (execute limits env source).environment ∧
      (Reaction.ran source' (execute limits env source')).effect =
        (Reaction.ran source (execute limits env source)).effect := by
  have parsed_iff (program : List Statement) :
      parseProgram Limits.default.nesting source = .ok program ↔
        parseProgram Limits.default.nesting source' = .ok program := same.parseProgram_iff
  have complete' : isComplete source' = .ok true := same.isComplete_eq.trans complete
  simp only [Reaction.effect, PiecewiseLang.execute, Limits.ofCallDepth]
  cases parsed : parseProgram Limits.default.nesting source with
  | ok program =>
    rw [(parsed_iff program).mp parsed]
    exact ⟨rfl, rfl⟩
  | error failure =>
    cases parsed' : parseProgram Limits.default.nesting source' with
    | ok program =>
      rw [(parsed_iff program).mpr parsed'] at parsed
      cases parsed
    | error failure' =>
      cases failure with
      | fault fault => exact absurd parsed (parseProgram_ne_fault complete)
      | error e =>
        cases failure' with
        | fault fault => exact absurd parsed' (parseProgram_ne_fault complete')
        | error e' => exact ⟨rfl, rfl⟩

/-! Lines that wait. -/

/-- The lines spell the same words whatever lines come behind them, at least one. -/
def SameAhead (lines lines' : List String) : Prop :=
  ∀ more, more ≠ [] → SameWords (Text.joinLines (lines ++ more)) (Text.joinLines (lines' ++ more))

namespace SameAhead

variable {lines lines' : List String} {line : String}

theorem concat (same : SameAhead lines lines') (line : String) :
    SameAhead (lines ++ [line]) (lines' ++ [line]) := by
  intro more _
  simp only [List.append_assoc]
  exact same _ (by simp)

theorem trans (first : SameAhead lines lines') (second : SameAhead lines' lines'') :
    SameAhead lines lines'' :=
  fun more some words => (first more some words).trans (second more some words)

/-- A line of trivia adds nothing to the lines that wait. -/
theorem trivial (lines : List String) (trivial : code line.toList = []) :
    SameAhead lines (lines ++ [line]) := by
  intro more some words
  have skipped : code (Text.joinLines ([line] ++ more)).toList = code (Text.joinLines more).toList := by
    rw [Text.joinLines_append (List.cons_ne_nil _ _) some]
    refine code_lineFeed_trivia ?_
    rwa [Text.joinLines, String.intercalate_singleton]
  rw [List.append_assoc]
  by_cases first : lines = []
  · subst first
    exact ⟨fun spelled => spelled.of_code skipped.symm, fun spelled => spelled.of_code skipped⟩
  · rw [Text.joinLines_append first some, Text.joinLines_append first (by simp)]
    exact ⟨fun spelled => (spelled.across.of_code skipped.symm).spells,
      fun spelled => (spelled.across.of_code skipped).spells⟩

end SameAhead

namespace Repl

/-- Two sessions of which the second has some trivia waiting that the first has not. -/
structure Marked (repl repl' : Repl) : Prop where
  environment : repl'.environment = repl.environment
  settings : repl'.settings = repl.settings
  same : SameAhead repl.waiting repl'.waiting
  waits : repl'.waiting ≠ []

/-- The two sessions gather a line with the same effect. They are in one state after a program is
run, and as far apart as before otherwise. -/
theorem gather_marked (marked : Marked repl repl') (line : String) :
    (repl'.gather line).2.effect = (repl.gather line).2.effect ∧
    ((repl'.gather line).1 = (repl.gather line).1 ∨
      Marked (repl.gather line).1 (repl'.gather line).1 ∧ (repl.gather line).1.waiting ≠ []) := by
  obtain ⟨environment, settings, same, waits⟩ := marked
  have words := same [line] (List.cons_ne_nil _ _)
  have limits : repl'.limits = repl.limits := by rw [Repl.limits, settings, Repl.limits]
  have longer : Marked { repl with waiting := repl.waiting ++ [line] }
      { repl' with waiting := repl'.waiting ++ [line] } :=
    ⟨environment, settings, same.concat line, by simp⟩
  simp only [gather, words.isComplete_eq, environment, limits]
  rw [environment] at longer
  split
  case h_1 => exact ⟨rfl, .inr ⟨longer, by simp⟩⟩
  case h_2 => exact ⟨rfl, .inr ⟨longer, by simp⟩⟩
  case h_3 complete =>
    obtain ⟨next, effect⟩ := words.execute complete repl.settings.maxCallDepth repl.environment
    refine ⟨effect, .inl ?_⟩
    rw [settings]
    exact congrArg (Repl.mk · repl.settings []) next

/-! Commands and blank lines. -/

def isBlankLine (line : String) : Bool := (Text.trim line).isEmpty

/-- The lines that are commands while no line waits. -/
def isCommand (line : String) : Bool := Text.trim line ∈ [":quit", ":q", ":env"]

/-- The first line that is not blank is a command. -/
def commandAhead (lines : List String) : Bool :=
  (lines.find? fun line => !isBlankLine line).any isCommand

theorem commandAhead_cons (line : String) (lines : List String) :
    commandAhead (line :: lines) = if isBlankLine line then commandAhead lines else isCommand line := by
  rw [commandAhead, List.find?_cons]
  cases isBlankLine line <;> rfl

section

variable {repl repl' : Repl} {line : String} {lines : List String}

theorem feed_waiting (waits : repl.waiting ≠ []) : repl.feed line = repl.gather line := by
  rw [feed, List.isEmpty_eq_false_iff.mpr waits]
  rfl

theorem feed_command (idle : repl.waiting = []) (command : isCommand line = true) :
    (repl.feed line).2.effect.obeys = true := by
  simp only [isCommand, List.mem_cons, List.not_mem_nil, or_false, decide_eq_true_eq] at command
  rcases command with quit | quit | list
  · simp [feed, idle, quit, Reaction.effect, Effect.obeys]
  · simp [feed, idle, quit, Reaction.effect, Effect.obeys]
  · simp [feed, idle, list, Reaction.effect, Effect.obeys]

theorem feed_blank (idle : repl.waiting = []) (blank : isBlankLine line = true) :
    repl.feed line = (repl, .ignored) := by
  have nothing : Text.trim line = "" := String.isEmpty_iff.mp blank
  simp [feed, idle, nothing]

theorem feed_plain (idle : repl.waiting = []) (plain : isCommand line = false)
    (visible : isBlankLine line = false) : repl.feed line = repl.gather line := by
  simp only [isCommand, List.mem_cons, List.not_mem_nil, or_false, decide_eq_false_iff_not,
    not_or] at plain
  obtain ⟨quit, q, env⟩ := plain
  have some : (Text.trim line).isEmpty = false := visible
  simp [feed, idle, quit, q, env, some]

/-- What is gathered is no command. -/
theorem gather_obeys (repl : Repl) (line : String) : (repl.gather line).2.effect.obeys = false := by
  simp only [gather]
  split
  case h_1 => rfl
  case h_2 => rfl
  case h_3 =>
    simp only [Reaction.effect]
    split <;> rfl

theorem isComplete_trivial {source : String} (trivial : code source.toList = []) :
    isComplete source = .ok false := by
  obtain ⟨answer, told, complete⟩ := isComplete_spells (.done trivial)
  cases answer with
  | false => exact told
  | true =>
    obtain ⟨⟨front, text, none⟩, -⟩ := complete.mp rfl
    exact absurd none (by simp)

/-- A blank line is ignored by the first session and waits in the second. -/
theorem feed_marked_blank (marked : Marked repl repl') (idle : repl.waiting = [])
    (blank : isBlankLine line = true) : ∃ next, repl'.feed line = (next, .waited) ∧
      Marked repl next := by
  obtain ⟨environment, settings, same, waits⟩ := marked
  rw [idle] at same
  have trivial : code line.toList = [] := code_of_trim blank
  have told : isComplete (Text.joinLines (repl'.waiting ++ [line])) = .ok false := by
    rw [(same [line] (List.cons_ne_nil _ _)).isComplete_eq]
    refine isComplete_trivial ?_
    rwa [List.nil_append, Text.joinLines, String.intercalate_singleton]
  refine ⟨{ repl' with waiting := repl'.waiting ++ [line] }, ?_, environment, settings, ?_, by simp⟩
  · simp only [feed_waiting waits, gather, told]
  · rw [idle]
    exact (SameAhead.trivial [] trivial).trans (same.concat line)

/-- A line that is no command where none waits has the same effect in both sessions, and what may
still tell them apart is a command behind blank lines. -/
theorem feed_marked (marked : Marked repl repl')
    (covered : repl.waiting = [] → commandAhead (line :: lines) = false) :
    (repl'.feed line).2.effect = (repl.feed line).2.effect ∧
    ((repl'.feed line).1 = (repl.feed line).1 ∨ Marked (repl.feed line).1 (repl'.feed line).1 ∧
      ((repl.feed line).1.waiting = [] → commandAhead lines = false)) := by
  have gathered (gathers : repl.feed line = repl.gather line) :
      (repl'.feed line).2.effect = (repl.feed line).2.effect ∧
      ((repl'.feed line).1 = (repl.feed line).1 ∨ Marked (repl.feed line).1 (repl'.feed line).1 ∧
        ((repl.feed line).1.waiting = [] → commandAhead lines = false)) := by
    rw [gathers, feed_waiting marked.waits]
    refine (gather_marked marked line).imp_right (Or.imp_right fun ⟨longer, waits⟩ => ?_)
    exact ⟨longer, fun idle => absurd idle waits⟩
  by_cases idle : repl.waiting = []
  · have covered := covered idle
    rw [commandAhead_cons] at covered
    by_cases blank : isBlankLine line = true
    · rw [if_pos blank] at covered
      obtain ⟨next, fed, marked⟩ := feed_marked_blank marked idle blank
      rw [fed, feed_blank idle blank]
      exact ⟨rfl, .inr ⟨marked, fun _ => covered⟩⟩
    · rw [if_neg blank] at covered
      exact gathered (feed_plain idle covered (Bool.eq_false_iff.mpr blank))
  · exact gathered (feed_waiting idle)

/-- Lines have the same effects in both sessions if no command comes first that one of them
obeys. -/
theorem feedAll_marked (marked : Marked repl repl')
    (covered : repl.waiting = [] → commandAhead lines = false) :
    (repl'.feedAll lines).2.map Reaction.effect = (repl.feedAll lines).2.map Reaction.effect ∧
      (repl'.feedAll lines).1.environment = (repl.feedAll lines).1.environment := by
  induction lines generalizing repl repl' with
  | nil => exact ⟨rfl, marked.environment⟩
  | cons line lines ih =>
    obtain ⟨effect, next⟩ := feed_marked marked covered
    simp only [feedAll, List.map_cons, effect]
    rcases next with same | ⟨marked, covered⟩
    · rw [same]
      exact ⟨rfl, rfl⟩
    · obtain ⟨effects, environment⟩ := ih marked covered
      exact ⟨congrArg _ effects, environment⟩

/-- A command that only one of the sessions obeys has another effect in the other. -/
theorem feedAll_apart (marked : Marked repl repl') (idle : repl.waiting = [])
    (ahead : commandAhead lines = true) :
    (repl'.feedAll lines).2.map Reaction.effect ≠ (repl.feedAll lines).2.map Reaction.effect := by
  induction lines generalizing repl' with
  | nil => cases ahead
  | cons line lines ih =>
    rw [commandAhead_cons] at ahead
    simp only [feedAll, List.map_cons, ne_eq, List.cons.injEq, not_and]
    by_cases blank : isBlankLine line = true
    · rw [if_pos blank] at ahead
      obtain ⟨next, fed, marked⟩ := feed_marked_blank marked idle blank
      rw [fed, feed_blank idle blank]
      exact fun _ => ih marked ahead
    · rw [if_neg blank] at ahead
      intro same
      have obeyed := congrArg Effect.obeys same
      rw [feed_waiting marked.waits, gather_obeys, feed_command idle ahead] at obeyed
      cases obeyed

/-- The lines that wait are not complete, or they would have been run. -/
def Settled (repl : Repl) : Prop :=
  repl.waiting ≠ [] → isComplete (Text.joinLines repl.waiting) ≠ .ok true

theorem gather_settled (repl : Repl) (line : String) : Settled (repl.gather line).1 := by
  simp only [gather]
  split
  case h_1 broken =>
    intro _ complete
    cases broken.symm.trans complete
  case h_2 partly =>
    intro _ complete
    cases partly.symm.trans complete
  case h_3 => exact fun waits => absurd rfl waits

theorem feed_settled (settled : Settled repl) : Settled (repl.feed line).1 := by
  unfold feed
  extract_lets word
  split
  · exact repl.gather_settled line
  split
  · exact settled
  split
  · exact settled
  split
  · exact settled
  · exact repl.gather_settled line

theorem feedAll_settled (settled : Settled repl) : Settled (repl.feedAll lines).1 := by
  induction lines generalizing repl with
  | nil => exact settled
  | cons line lines ih => exact ih (feed_settled settled)

theorem feedAll_append (repl : Repl) (before after : List String) :
    repl.feedAll (before ++ after) =
      (((repl.feedAll before).1.feedAll after).1,
        (repl.feedAll before).2 ++ ((repl.feedAll before).1.feedAll after).2) := by
  induction before generalizing repl with
  | nil => rfl
  | cons line before ih => simp only [List.cons_append, feedAll, ih]

end

end Repl

/-! Comments. -/

/-- A line that holds a comment and nothing else but blanks in front of it. -/
def IsComment (line : String) : Prop :=
  ∃ blanks text, line.toList = blanks ++ '#' :: text ∧ (∀ c ∈ blanks, Text.isBlank c = true) ∧
    '\n' ∉ blanks ++ text

theorem code_append_blanks (blank : ∀ c ∈ blanks, Text.isBlank c = true) (chars : List Char) :
    code (blanks ++ chars) = code chars := by
  induction blanks with
  | nil => rfl
  | cons c blanks ih =>
    obtain ⟨first, others⟩ := List.forall_mem_cons.mp blank
    rw [List.cons_append, code_blank first, ih others]

theorem skipTrivia_comment (oneLine : '\n' ∉ text) (position : Nat) :
    (skipTrivia true position text).2 = [] := by
  induction text generalizing position with
  | nil => rfl
  | cons c text ih =>
    obtain ⟨other, oneLine⟩ := not_or.mp (mt List.mem_cons.mpr oneLine)
    rw [skipTrivia, decide_eq_true (Ne.symm other)]
    exact ih oneLine _

namespace IsComment

variable {line : String}

theorem code_eq_nil (comment : IsComment line) : code line.toList = [] := by
  obtain ⟨blanks, text, chars, blank, oneLine⟩ := comment
  rw [chars, code_append_blanks blank, code, skipTrivia, if_neg (by decide), if_pos rfl]
  exact skipTrivia_comment (fun feed => oneLine (List.mem_append_right _ feed)) _

theorem visible (comment : IsComment line) : Repl.isBlankLine line = false := by
  obtain ⟨blanks, text, chars, -, -⟩ := comment
  refine Bool.eq_false_iff.mpr fun nothing => ?_
  have trimmed : Text.trimmed Text.isBlank line.toList = [] := by
    simpa [Repl.isBlankLine, Text.trim] using nothing
  have blank := List.dropWhile_eq_nil_iff.mp (Text.dropWhile_of_trimmed_nil trimmed)
  exact absurd (blank '#' (by simp [chars])) (by decide)

theorem plain (comment : IsComment line) : Repl.isCommand line = false := by
  refine Bool.eq_false_iff.mpr fun command => ?_
  have spelled : Spells line.toList [] := .done comment.code_eq_nil
  simp only [Repl.isCommand, List.mem_cons, List.not_mem_nil, or_false, decide_eq_true_eq] at command
  have named : ∃ name, Text.trim line = String.ofList (':' :: name) := by
    rcases command with quit | quit | list
    · exact ⟨['q', 'u', 'i', 't'], quit⟩
    · exact ⟨['q'], quit⟩
    · exact ⟨['e', 'n', 'v'], list⟩
  obtain ⟨name, named⟩ := named
  obtain ⟨w, member, -⟩ := spelled.colon_of_trim named
  cases member

end IsComment

/-- Trivia in a line of its own do not complete what is not complete. -/
theorem isComplete_before {lines : List String} {line : String} (some : lines ≠ [])
    (trivial : code line.toList = [])
    (complete : isComplete (Text.joinLines (lines ++ [line])) = .ok true) :
    isComplete (Text.joinLines lines) = .ok true := by
  cases scanned : tokenize (Text.joinLines (lines ++ [line])) with
  | error fault =>
    rw [isComplete, scanned] at complete
    cases complete
  | ok tokens =>
    obtain ⟨inner, -, -, -, spelled⟩ := tokenize_spells scanned
    obtain ⟨answer, told, whole⟩ := isComplete_spells spelled
    cases told.symm.trans complete
    have whole := whole.mp rfl
    rw [Text.joinLines_append some (List.cons_ne_nil _ _)] at spelled
    have none : code (Text.joinLines [line]).toList = [] := by
      rwa [Text.joinLines, String.intercalate_singleton]
    rcases spelled.across.before none with spelled | ⟨front, text, illegal⟩
    · obtain ⟨answer, told, again⟩ := isComplete_spells spelled
      rw [told, again.mpr whole]
    · obtain ⟨⟨front', text', semicolon⟩, -⟩ := whole
      have last := (List.append_inj' (illegal.symm.trans semicolon) rfl).2
      cases last

/-- A comment waits, whatever waits before it. -/
theorem Repl.feed_comment {repl : Repl} {line : String} (settled : Settled repl)
    (comment : IsComment line) : ∃ reaction,
      repl.feed line = ({ repl with waiting := repl.waiting ++ [line] }, reaction) ∧
        (reaction = .waited ∨ ∃ fault, reaction = .broke fault) := by
  have gathers : repl.feed line = repl.gather line := by
    by_cases idle : repl.waiting = []
    · exact feed_plain idle comment.plain comment.visible
    · exact feed_waiting idle
  rw [gathers, gather]
  cases told : isComplete (Text.joinLines (repl.waiting ++ [line])) with
  | error fault => exact ⟨_, rfl, .inr ⟨fault, rfl⟩⟩
  | ok complete =>
    cases complete with
    | false => exact ⟨_, rfl, .inl rfl⟩
    | true =>
      by_cases idle : repl.waiting = []
      · rw [idle, List.nil_append, Text.joinLines, String.intercalate_singleton,
          isComplete_trivial comment.code_eq_nil] at told
        cases told
      · exact absurd (isComplete_before idle comment.code_eq_nil told) (settled idle)

/-- A line that holds a comment only is not carried out, and all lines behind it have the effects
that they have without it, up to the environment in the end; they run the same programs with the same
outcomes, and the same of them quit and list the bindings. There is exactly one exception. If no line
waits where the comment stands and the next line that is not blank is a command, the command would
have been obeyed without the comment; behind the comment it is gathered and has another effect. -/
theorem comments_hide_only_commands (repl : Repl) (idle : repl.waiting = []) (comment : IsComment line)
    (before after : List String) :
    ∃ (held last last' : Repl) (first : List Reaction) (reaction : Reaction) (rest rest' : List Reaction),
      repl.feedAll before = (held, first) ∧
      repl.feedAll (before ++ after) = (last, first ++ rest) ∧
      repl.feedAll (before ++ line :: after) = (last', first ++ reaction :: rest') ∧
      (reaction = .waited ∨ ∃ fault, reaction = .broke fault) ∧
      ((rest'.map Reaction.effect = rest.map Reaction.effect ∧ last'.environment = last.environment) ↔
        ¬(held.waiting = [] ∧ Repl.commandAhead after = true)) := by
  have settled : Repl.Settled (repl.feedAll before).1 :=
    Repl.feedAll_settled fun waits => absurd idle waits
  generalize fed : repl.feedAll before = state at settled
  obtain ⟨held, first⟩ := state
  dsimp only at settled
  obtain ⟨reaction, commented, waits⟩ := Repl.feed_comment settled comment
  let held' : Repl := { held with waiting := held.waiting ++ [line] }
  have marked : Repl.Marked held held' :=
    ⟨rfl, rfl, SameAhead.trivial _ comment.code_eq_nil, by simp [held']⟩
  change held.feed line = (held', reaction) at commented
  refine ⟨held, (held.feedAll after).1, (held'.feedAll after).1, first, reaction,
    (held.feedAll after).2, (held'.feedAll after).2, rfl, ?_, ?_, waits, ?_⟩
  · rw [Repl.feedAll_append, fed]
  · rw [Repl.feedAll_append, fed]
    simp only [Repl.feedAll, commented]
  constructor
  · rintro ⟨same, -⟩ ⟨none, ahead⟩
    exact Repl.feedAll_apart marked none ahead same
  · intro covered
    refine Repl.feedAll_marked marked fun none => Bool.eq_false_iff.mpr fun ahead => ?_
    exact covered ⟨none, ahead⟩

/-- A comment inside a statement is passed over; one in front of a command hides it. -/
theorem comments_hide_only_commands_sample :
    (Repl.start .initial .default).waiting = [] ∧ IsComment "  # note" ∧
    (∃ (held last last' : Repl) (first : List Reaction) (reaction : Reaction) (rest rest' : List Reaction),
      (Repl.start .initial .default).feedAll ["let a = (2"] = (held, first) ∧
      (Repl.start .initial .default).feedAll ["let a = (2", ":q", "+ 3);"] = (last, first ++ rest) ∧
      (Repl.start .initial .default).feedAll ["let a = (2", "  # note", ":q", "+ 3);"] =
        (last', first ++ reaction :: rest') ∧
      rest'.map Reaction.effect = rest.map Reaction.effect ∧
      last'.environment = last.environment) ∧
    ∃ (held last last' : Repl) (first : List Reaction) (reaction : Reaction) (rest rest' : List Reaction),
      (Repl.start .initial .default).feedAll ["1;"] = (held, first) ∧
      (Repl.start .initial .default).feedAll ["1;", "", ":quit"] = (last, first ++ rest) ∧
      (Repl.start .initial .default).feedAll ["1;", "  # note", "", ":quit"] =
        (last', first ++ reaction :: rest') ∧
      ¬(rest'.map Reaction.effect = rest.map Reaction.effect ∧
        last'.environment = last.environment) := by
  have idle : (Repl.start .initial .default).waiting = [] := rfl
  have comment : IsComment "  # note" :=
    ⟨[' ', ' '], " note".toList, by decide, List.all_eq_true.mp (by decide), by decide⟩
  refine ⟨idle, comment, ?_, ?_⟩
  · obtain ⟨held, last, last', first, reaction, rest, rest', fed, plain, commented, -, covered⟩ :=
      comments_hide_only_commands _ idle comment ["let a = (2"] [":q", "+ 3);"]
    have waits : held.waiting = ["let a = (2"] := by
      obtain rfl := congrArg Prod.fst fed
      decide +kernel
    obtain ⟨effects, environment⟩ := covered.mpr (by simp [waits])
    exact ⟨held, last, last', first, reaction, rest, rest', fed, plain, commented, effects, environment⟩
  · obtain ⟨held, last, last', first, reaction, rest, rest', fed, plain, commented, -, covered⟩ :=
      comments_hide_only_commands _ idle comment ["1;"] ["", ":quit"]
    have none : held.waiting = [] := by
      obtain rfl := congrArg Prod.fst fed
      decide +kernel
    have ahead : Repl.commandAhead ["", ":quit"] = true := by decide +kernel
    exact ⟨held, last, last', first, reaction, rest, rest', fed, plain, commented,
      fun same => covered.mp same ⟨none, ahead⟩⟩

end PiecewiseLang
