import Mathlib.Data.List.TakeWhile
import PiecewiseLang.Proofs.Repl.Balance

/-! Programs typed line by line. The lines of a text that is a program are gathered and run in
pieces that are whole statements, so a session runs the statements of the program in order and
nothing is left waiting but blanks and comments. -/
namespace PiecewiseLang

namespace Text

/-- What is left of a trimmed text stands behind the blanks in front. -/
theorem trimmed_isPrefix (isOuter : Char → Bool) (chars : List Char) :
    trimmed isOuter chars <+: chars.dropWhile isOuter := by
  have suffix := List.dropWhile_suffix isOuter (l := (chars.dropWhile isOuter).reverse)
  rwa [← List.reverse_prefix, List.reverse_reverse] at suffix

/-- A text of which nothing is left was blank throughout. -/
theorem dropWhile_of_trimmed_nil (nothing : trimmed isOuter chars = []) :
    chars.dropWhile isOuter = [] := by
  rw [trimmed, List.reverse_eq_nil_iff] at nothing
  cases rest : chars.dropWhile isOuter with
  | nil => rfl
  | cons c more =>
    have inner := List.head_dropWhile_not isOuter (l := chars) (by simp [rest])
    simp only [rest, List.head_cons] at inner
    rw [rest, List.reverse_cons, List.dropWhile_append] at nothing
    split at nothing <;> simp_all

end Text

theorem code_dropWhile_blank (chars : List Char) :
    code (chars.dropWhile Text.isBlank) = code chars := by
  induction chars with
  | nil => rfl
  | cons c chars ih =>
    by_cases blank : Text.isBlank c = true
    · rw [List.dropWhile_cons_of_pos blank, ih, code_blank blank]
    · rw [List.dropWhile_cons_of_neg blank]

theorem Lexeme.scan_colon (rest : List Char) : scan ':' rest = .ok (single ':') := by
  cases rest <;> rfl

/-- A line that is blank is all trivia. -/
theorem code_of_trim (nothing : (Text.trim line).isEmpty = true) : code line.toList = [] := by
  have blank : Text.trimmed Text.isBlank line.toList = [] := by
    simpa [Text.trim] using nothing
  rw [← code_dropWhile_blank, Text.dropWhile_of_trimmed_nil blank]
  rfl

theorem Spells.eq_nil_of_trim (spelled : Spells line.toList words)
    (nothing : (Text.trim line).isEmpty = true) : words = [] :=
  spelled.unique (.done (code_of_trim nothing))

/-- A line that begins with a colon, as commands do, has a word that no program has. -/
theorem Spells.colon_of_trim (spelled : Spells line.toList words)
    (command : Text.trim line = String.ofList (':' :: name)) :
    ∃ w ∈ words, w.kind = .colon := by
  have trimmed : Text.trimmed Text.isBlank line.toList = ':' :: name :=
    String.ofList_injective command
  obtain ⟨more, rest⟩ := Text.trimmed_isPrefix Text.isBlank line.toList
  have found : code line.toList = ':' :: (name ++ more) := by
    rw [← code_dropWhile_blank, ← rest, trimmed]
    exact code_cons (by decide) (by decide)
  cases spelled with
  | done ended =>
    rw [ended] at found
    cases found
  | more found' scanned _ =>
    cases found.symm.trans found'
    cases scanned.symm.trans (Lexeme.scan_colon _)
    exact ⟨_, List.mem_cons_self .., rfl⟩

namespace Reaction

/-- The text that was run in reaction to a line. -/
def source? : Reaction → Option String
  | .ran source _ => some source
  | _ => none

/-- The line was blank or gathered with others and perhaps run with them. -/
def isRoutine : Reaction → Bool
  | .ignored | .waited | .ran _ _ => true
  | .quit | .listed _ | .broke _ => false

theorem isRoutine_iff (reaction : Reaction) : reaction.isRoutine = true ↔
    reaction ≠ .quit ∧ (∀ env, reaction ≠ .listed env) ∧ ∀ f, reaction ≠ .broke f := by
  cases reaction <;> simp [isRoutine]

theorem shown_of_continues {reaction : Reaction} (goesOn : reaction.continues = true) :
    ∃ text, reaction.shown = .ok text := by
  cases shown : reaction.shown with
  | ok text => exact ⟨text, rfl⟩
  | error fault =>
    cases reaction with
    | quit => cases goesOn
    | listed | ignored | waited | ran | broke => simp [continues, fault?, shown] at goesOn

theorem fault_ran (source : String) (outcome : Outcome) :
    fault? (.ran source outcome) = some fault ↔ outcome.ending = .fault fault := by
  simp only [fault?, shown, Outcome.shown]
  cases outcome.ending <;> cases outcome.errorMessage? <;> simp

/-- A session that a routine line ends breaks down in a run. -/
theorem ran_of_stops {reaction : Reaction} (routine : reaction.isRoutine = true)
    (stops : reaction.continues = false) : ∃ source outcome fault,
      reaction = .ran source outcome ∧ outcome.ending = .fault fault := by
  cases reaction with
  | ignored | waited => cases stops
  | ran source outcome =>
    obtain ⟨fault, broken⟩ := Option.isSome_iff_exists.mp (Option.isNone_eq_false_iff.mp stops)
    exact ⟨source, outcome, fault, rfl, (fault_ran _ _).mp broken⟩
  | quit | listed | broke => cases routine

/-- A session goes on after all lines, or there is a first that it does not go on after. -/
theorem first_stop (reactions : List Reaction) :
    (∀ reaction ∈ reactions, reaction.continues = true) ∨ ∃ before reaction after,
      reactions = before ++ reaction :: after ∧
      (∀ reaction ∈ before, reaction.continues = true) ∧ reaction.continues = false := by
  cases found : reactions.find? fun reaction => !reaction.continues with
  | none => exact .inl (by simpa using List.find?_eq_none.mp found)
  | some reaction =>
    obtain ⟨stops, before, after, parts, goOn⟩ := List.find?_eq_some_iff_append.mp found
    exact .inr ⟨before, reaction, after, parts, by simpa using goOn, by simpa using stops⟩

end Reaction

namespace Repl

/-- Takes in lines one after the other, whatever they lead to. -/
def feedAll (repl : Repl) : List String → Repl × List Reaction
  | [] => (repl, [])
  | line :: rest =>
    let (next, reaction) := repl.feed line
    let (last, reactions) := next.feedAll rest
    (last, reaction :: reactions)

theorem length_feedAll (repl : Repl) (lines : List String) :
    (repl.feedAll lines).2.length = lines.length := by
  induction lines generalizing repl with
  | nil => rfl
  | cons line lines ih => exact congrArg (· + 1) (ih _)

/-- A session reads lines up to the first whose reaction it does not go on after, and breaks
down if that has a fault. -/
theorem loop_of_feedAll (repl : Repl) (lines : List String) :
    let cut := (repl.feedAll lines).2.dropWhile Reaction.continues
    let session := repl.loop (lines.map some)
    session.unread = cut.tail.length ∧ session.fault = cut.head?.bind Reaction.fault? := by
  induction lines generalizing repl with
  | nil => exact ⟨rfl, rfl⟩
  | cons line lines ih =>
    rcases fed : repl.feed line with ⟨next, reaction⟩
    simp only [feedAll, List.map_cons, loop, fed]
    cases goesOn : reaction.continues with
    | true =>
      obtain ⟨text, shown⟩ := Reaction.shown_of_continues goesOn
      rw [List.dropWhile_cons_of_pos goesOn, shown]
      exact ih next
    | false =>
      rw [List.dropWhile_cons_of_neg (ne_true_of_eq_false goesOn)]
      cases shown : reaction.shown <;>
        simp [Reaction.fault?, shown, next.length_feedAll lines]

/-- A session that goes on after all lines reads them all and does not break down. -/
theorem loop_of_continues {repl : Repl} {lines : List String}
    (goOn : ∀ reaction ∈ (repl.feedAll lines).2, reaction.continues = true) :
    (repl.loop (lines.map some)).unread = 0 ∧ (repl.loop (lines.map some)).fault = none := by
  have read := repl.loop_of_feedAll lines
  rwa [List.dropWhile_eq_nil_iff.mpr goOn] at read

/-- A session ends at the first line that it does not go on after. -/
theorem loop_of_stop {repl : Repl} {lines : List String}
    (fed : (repl.feedAll lines).2 = before ++ reaction :: after)
    (goOn : ∀ reaction ∈ before, reaction.continues = true)
    (stops : reaction.continues = false) :
    (repl.loop (lines.map some)).unread = after.length ∧
      (repl.loop (lines.map some)).fault = reaction.fault? := by
  have read := repl.loop_of_feedAll lines
  rwa [fed, List.dropWhile_append_of_pos goOn,
    List.dropWhile_cons_of_neg (ne_true_of_eq_false stops)] at read

/-- A session in which all lines are routine reads them all or breaks down in a run. -/
theorem loop_of_routine {repl : Repl} {lines : List String}
    (routine : ∀ reaction ∈ (repl.feedAll lines).2, reaction.isRoutine = true) :
    ((repl.loop (lines.map some)).fault = none →
      (repl.loop (lines.map some)).unread = 0 ∧
        ∀ reaction ∈ (repl.feedAll lines).2, reaction.continues = true) ∧
    ∀ fault, (repl.loop (lines.map some)).fault = some fault ↔ ∃ before text outcome after,
      (repl.feedAll lines).2 = before ++ .ran text outcome :: after ∧
      (∀ reaction ∈ before, reaction.continues = true) ∧
      outcome.ending = .fault fault ∧ (repl.loop (lines.map some)).unread = after.length := by
  have breaks {before text outcome after fault}
      (fed : (repl.feedAll lines).2 = before ++ .ran text outcome :: after)
      (goOn : ∀ reaction ∈ before, reaction.continues = true)
      (ending : outcome.ending = .fault fault) :
      (repl.loop (lines.map some)).unread = after.length ∧
        (repl.loop (lines.map some)).fault = some fault := by
    have broken := (Reaction.fault_ran text outcome).mpr ending
    rw [← broken]
    exact loop_of_stop fed goOn (by simp [Reaction.continues, broken])
  rcases Reaction.first_stop (repl.feedAll lines).2 with
    goOn | ⟨before, reaction, after, fed, goOn, stops⟩
  · obtain ⟨unread, sound⟩ := loop_of_continues goOn
    refine ⟨fun _ => ⟨unread, goOn⟩, fun fault => ⟨fun broken => ?_, ?_⟩⟩
    · cases sound.symm.trans broken
    · rintro ⟨before, text, outcome, after, fed, goOn, ending, -⟩
      exact (breaks fed goOn ending).2
  · have member : reaction ∈ (repl.feedAll lines).2 := by simp [fed]
    obtain ⟨text, outcome, fault, rfl, ending⟩ :=
      Reaction.ran_of_stops (routine reaction member) stops
    obtain ⟨unread, broken⟩ := breaks fed goOn ending
    refine ⟨fun sound => ?_, fun other => ⟨fun same => ?_, ?_⟩⟩
    · cases broken.symm.trans sound
    · cases broken.symm.trans same
      exact ⟨before, text, outcome, after, fed, goOn, ending, unread⟩
    · rintro ⟨before, text, outcome, after, fed, goOn, ending, -⟩
      exact (breaks fed goOn ending).2

/-- A line of a program is gathered unless it is blank and none is waiting. -/
theorem feed_cases (repl : Repl) (spelled : Spells line.toList words)
    (used : ∀ w ∈ words, w.kind.isUsed = true) :
    words = [] ∧ repl.feed line = (repl, .ignored) ∨ repl.feed line = repl.gather line := by
  have uncommanded : ∀ name, Text.trim line ≠ String.ofList (':' :: name) := by
    intro name command
    obtain ⟨w, member, colon⟩ := spelled.colon_of_trim command
    have := used w member
    rw [colon] at this
    cases this
  simp only [feed]
  split
  · exact .inr rfl
  split
  case isTrue quit =>
    rcases Bool.or_eq_true_iff.mp quit with quit | quit
    · exact absurd (of_decide_eq_true quit) (uncommanded ['q', 'u', 'i', 't'])
    · exact absurd (of_decide_eq_true quit) (uncommanded ['q'])
  split
  case isTrue listing => exact absurd listing (uncommanded ['e', 'n', 'v'])
  split
  case isTrue blank => exact .inl ⟨spelled.eq_nil_of_trim blank, rfl⟩
  case isFalse => exact .inr rfl

/-- The lines that wait are run with a new one as soon as their words are complete. -/
theorem gather_cases (repl : Repl) (waits : SpellsLines repl.waiting before)
    (spelled : Spells line.toList words) (used : ∀ w ∈ before ++ words, w.kind.isUsed = true) :
    ¬Complete (before ++ words) ∧
        repl.gather line = ({ repl with waiting := repl.waiting ++ [line] }, .waited) ∨
      Complete (before ++ words) ∧ ∃ next source outcome,
        repl.gather line = (next, .ran source outcome) ∧ next.waiting = [] ∧
          Spells source.toList (before ++ words) := by
  have joined := (waits.concat spelled).joined (TokenKind.legal_of_used used)
  obtain ⟨answer, answered, complete⟩ := isComplete_spells joined
  cases answer with
  | false =>
    refine .inl ⟨fun whole => Bool.false_ne_true (complete.mpr whole), ?_⟩
    simp only [gather, answered]
  | true =>
    let outcome := execute repl.limits repl.environment (Text.joinLines (repl.waiting ++ [line]))
    let next : Repl := ⟨outcome.environment, repl.settings, []⟩
    refine .inr ⟨complete.mp rfl, next, _, outcome, ?_, rfl, joined⟩
    simp only [gather, answered, next, outcome]

/-- What is known of a session that has taken in the rest of a program. -/
structure Typed (nesting : Nat) (program : List Statement) (last : Repl)
    (reactions : List Reaction) : Prop where
  routine : ∀ reaction ∈ reactions, reaction.isRoutine = true
  parsed : ∃ programs : List (List Statement),
    (reactions.filterMap Reaction.source?).map (parseProgram nesting) = programs.map .ok ∧
      programs.flatten = program
  left : ∀ line ∈ last.waiting, Spells line.toList []

namespace Typed

variable {nesting : Nat} {program : List Statement} {last : Repl} {reaction : Reaction}
  {reactions : List Reaction}

/-- A reaction that runs nothing. -/
theorem silently (typed : Typed nesting program last reactions)
    (routine : reaction.isRoutine = true) (nothing : reaction.source? = none) :
    Typed nesting program last (reaction :: reactions) := by
  refine ⟨List.forall_mem_cons.mpr ⟨routine, typed.routine⟩, ?_, typed.left⟩
  rw [List.filterMap_cons_none nothing]
  exact typed.parsed

theorem running (typed : Typed nesting program last reactions)
    (parsed : parseProgram nesting source = .ok before) :
    Typed nesting (before ++ program) last (.ran source outcome :: reactions) := by
  obtain ⟨programs, all, rfl⟩ := typed.parsed
  refine ⟨List.forall_mem_cons.mpr ⟨rfl, typed.routine⟩, ⟨before :: programs, ?_, rfl⟩, typed.left⟩
  have found : Reaction.source? (.ran source outcome) = some source := rfl
  rw [List.filterMap_cons_some found, List.map_cons, List.map_cons, parsed, all]

end Typed

/-- The words that wait are not complete, and with those still to come they are statements. -/
theorem feedAll_typed {repl : Repl} (waits : SpellsLines repl.waiting before)
    (pending : before = [] ∨ ¬Complete before) (spelled : SpellsLines lines words)
    (segments : Parser.Segments nesting (before ++ words) program) :
    Typed nesting program (repl.feedAll lines).1 (repl.feedAll lines).2 := by
  induction spelled generalizing repl before program with
  | nil =>
    rw [List.append_nil] at segments
    have nothing : before = [] := Decidable.byContradiction fun some =>
      pending.elim some fun partly => partly (segments.complete some)
    subst nothing
    obtain rfl := segments.nil_eq
    exact ⟨fun _ member => absurd member List.not_mem_nil, ⟨[], rfl, rfl⟩, waits.empty⟩
  | @cons line lines words more first spelled ih =>
    rw [← List.append_assoc] at segments
    have usedHere : ∀ w ∈ before ++ words, w.kind.isUsed = true := fun w member =>
      segments.used w (List.mem_append_left _ member)
    rcases repl.feed_cases first fun w member => usedHere w (List.mem_append_right _ member) with
      ⟨rfl, fed⟩ | fed
    · rw [List.append_nil] at segments
      have rest := ih waits pending segments
      simp only [feedAll, fed]
      exact rest.silently rfl rfl
    rcases repl.gather_cases waits first usedHere with
      ⟨partly, gathered⟩ | ⟨whole, next, source, outcome, gathered, empty, joined⟩
    · let next : Repl := { repl with waiting := repl.waiting ++ [line] }
      have waits' : SpellsLines next.waiting (before ++ words) := waits.concat first
      have rest := ih waits' (.inr partly) segments
      simp only [feedAll, fed, gathered]
      exact rest.silently rfl rfl
    · obtain ⟨ran, left, rfl, segments', segments''⟩ := segments.cut whole
      have none : SpellsLines next.waiting [] := empty ▸ .nil
      have rest := ih none (.inl rfl) segments''
      simp only [feedAll, fed, gathered]
      exact rest.running (segments'.parse joined)

end Repl

/-- A program that is typed line by line into a session in which no line waits is never taken for
a command, and all its lines have tokens. The texts that are run are parsed, and together they
are the program; and no line that is left waiting has any token but the end of input. The
session reads all lines, unless carrying out one of the texts ends with a fault: then it breaks
down there, and the lines behind are not read. -/
theorem typing_runs_program (repl : Repl) (idle : repl.waiting = [])
    (parsed : parseProgram nesting source = .ok program) :
    let lines := (Text.splitLines source.toList).map String.ofList
    let session := repl.loop (lines.map some)
    ∃ (last : Repl) (reactions : List Reaction) (programs : List (List Statement)),
      repl.feedAll lines = (last, reactions) ∧
      (∀ reaction ∈ reactions, reaction ≠ .quit ∧ (∀ env, reaction ≠ .listed env) ∧
        ∀ fault, reaction ≠ .broke fault) ∧
      (reactions.filterMap Reaction.source?).map (parseProgram nesting) = programs.map .ok ∧
      programs.flatten = program ∧
      (∀ line ∈ last.waiting, ∃ t, tokenize line = .ok [t] ∧ t.kind = .endOfInput) ∧
      (session.fault = none → session.unread = 0 ∧
        ∀ reaction ∈ reactions, reaction.continues = true) ∧
      ∀ fault, session.fault = some fault ↔ ∃ before text outcome after,
        reactions = before ++ .ran text outcome :: after ∧
        (∀ reaction ∈ before, reaction.continues = true) ∧
        outcome.ending = .fault fault ∧ session.unread = after.length := by
  intro lines session
  obtain ⟨words, spelled, segments⟩ := parseProgram_segments parsed
  have legal : ∀ w ∈ words, w.kind ≠ .illegal := TokenKind.legal_of_used segments.used
  have waits : SpellsLines repl.waiting [] := idle ▸ .nil
  obtain ⟨routine, ⟨programs, all, flat⟩, left⟩ :=
    Repl.feedAll_typed waits (.inl rfl) (spelled.lines legal) segments
  obtain ⟨reads, breaks⟩ := Repl.loop_of_routine routine
  refine ⟨_, _, programs, rfl, fun reaction member => ?_, all, flat, fun line member => ?_,
    reads, breaks⟩
  · exact reaction.isRoutine_iff.mp (routine reaction member)
  obtain ⟨inner, t, scanned, ended, none⟩ := tokenize_of_spells (left line member)
  rw [List.map_eq_nil_iff] at none
  exact ⟨t, by rw [scanned, none]; rfl, ended⟩

/-- A function over three lines, a call behind it and a comment. -/
def typedSample : String :=
  "fn f(x) = \x7b\n  1 if x;\n\x7d; f(true);\n# done"

theorem typing_runs_program_sample :
    let lines := ["fn f(x) = \x7b", "  1 if x;", "\x7d; f(true);", "# done"]
    let session := (Repl.start .initial .default).loop (lines.map some)
    ∃ (last : Repl) (reactions : List Reaction) (programs : List (List Statement)),
      (Repl.start .initial .default).feedAll lines = (last, reactions) ∧
      (∀ reaction ∈ reactions, reaction ≠ .quit ∧ (∀ env, reaction ≠ .listed env) ∧
        ∀ fault, reaction ≠ .broke fault) ∧
      (reactions.filterMap Reaction.source?).map (parseProgram 2) = programs.map .ok ∧
      programs.flatten = [.declaration "f" ["x"] (.piecewise [(.integer 1, .name "x")]),
        .expression (.call (.name "f") [.boolean true])] ∧
      (∀ line ∈ last.waiting, ∃ t, tokenize line = .ok [t] ∧ t.kind = .endOfInput) ∧
      (session.fault = none → session.unread = 0 ∧
        ∀ reaction ∈ reactions, reaction.continues = true) ∧
      ∀ fault, session.fault = some fault ↔ ∃ before text outcome after,
        reactions = before ++ .ran text outcome :: after ∧
        (∀ reaction ∈ before, reaction.continues = true) ∧
        outcome.ending = .fault fault ∧ session.unread = after.length := by
  intro lines session
  have split : (Text.splitLines typedSample.toList).map String.ofList = lines := by
    decide +kernel
  have parsed : parseProgram 2 typedSample =
      .ok [.declaration "f" ["x"] (.piecewise [(.integer 1, .name "x")]),
        .expression (.call (.name "f") [.boolean true])] := by decide +kernel
  have typed := typing_runs_program (Repl.start .initial .default) rfl parsed
  rw [split] at typed
  exact typed

/-- A session that breaks down in a factorial leaves the line behind it unread. -/
example :
    let session := (Repl.start .initial .default).loop [some "(9223372036854775807 + 1)!;", some "1;"]
    session.fault = some .oversizedFactorial ∧ session.unread = 1 := by
  decide +kernel

end PiecewiseLang
