import PiecewiseLang.Proofs.Parsing.WellFormed
import PiecewiseLang.Proofs.Text.Numeral
import PiecewiseLang.Proofs.Value.Failures
import PiecewiseLang.Value.Display

/-! Written forms of values. With a limit on the forms that are open inside one another a value has
the written form it has without the limit, or there is a first obstacle on the way to it. Written
forms take one line: neither the signs and words of the language nor names and numerals have a line
feed in them. So there is none in the written form of a tree, whatever the text it was parsed from
looked like, and none in that of a value. -/
namespace PiecewiseLang

namespace Text

/-- A text without line feeds. -/
def OneLine (s : String) : Prop := '\n' ∉ s.toList

instance (s : String) : Decidable (OneLine s) := inferInstanceAs (Decidable (¬_))

@[simp] theorem oneLine_append : OneLine (s ++ t) ↔ OneLine s ∧ OneLine t := by
  simp [OneLine]

theorem OneLine.intercalate (separator : OneLine sep) (texts : ∀ t ∈ ts, OneLine t) :
    OneLine (sep.intercalate ts) := by
  induction ts with
  | nil => exact (by decide : OneLine "")
  | cons t ts ih =>
    obtain ⟨first, texts⟩ := List.forall_mem_cons.mp texts
    cases ts with
    | nil => simpa using first
    | cons =>
      rw [String.intercalate_cons_cons, oneLine_append, oneLine_append]
      exact ⟨⟨first, separator⟩, ih texts⟩

theorem oneLine_ofList (chars : ∀ c ∈ cs, c ≠ '\n') : OneLine (String.ofList cs) := by
  rw [OneLine, String.toList_ofList]
  exact fun member => chars _ member rfl

theorem not_lineFeed_of_isDigit {c : Char} (digit : c.isDigit = true) : c ≠ '\n' := by
  rintro rfl
  cases digit

theorem oneLine_toString (n : Int) : OneLine (toString n) := by
  have digits (n : Nat) : OneLine (toString n) :=
    oneLine_ofList fun c member => not_lineFeed_of_isDigit (isDigit_toDigits n c member)
  cases n with
  | ofNat n => exact digits n
  | negSucc n => exact oneLine_append.mpr ⟨by decide, digits (n + 1)⟩

theorem toString_ne_empty (n : Int) : toString n ≠ "" := by
  cases n with
  | ofNat n =>
    have digits : (String.ofList (Nat.toDigits 10 n)).toList ≠ [] := by
      rw [String.toList_ofList]
      exact Nat.toDigits_ne_nil
    exact mt (congrArg String.toList) digits
  | negSucc n => exact mt (congrArg String.toList) (by simp [toString, Int.repr])

end Text

open Text (OneLine oneLine_append)

theorem Double.write_oneLine (x : Double) : OneLine x.write := by
  cases x with
  | finite x =>
    obtain ⟨whole, fraction, text, -, -, wholeDigits, fractionDigits, -⟩ :=
      x.shortest.positional_spec
    have digits : OneLine x.shortest.positional := by
      rw [text]
      apply Text.oneLine_ofList
      simp only [List.mem_append, List.mem_cons]
      rintro c (digit | rfl | digit)
      · exact Text.not_lineFeed_of_isDigit (wholeDigits c digit)
      · decide
      · exact Text.not_lineFeed_of_isDigit (fractionDigits c digit)
    rw [write, Binary64.write, oneLine_append]
    exact ⟨by split <;> decide, digits⟩
  | infinite negative => cases negative <;> decide
  | notANumber => decide

theorem Double.write_ne_empty (x : Double) : x.write ≠ "" := by
  cases x with
  | finite x =>
    obtain ⟨whole, fraction, text, -⟩ := x.shortest.positional_spec
    simp [write, Binary64.write, text, ← String.toList_inj]
  | infinite negative => cases negative <;> decide
  | notANumber => decide

theorem Lexeme.oneLine_name (name : Lexeme.isName n = true) : OneLine n := by
  rw [isName, Bool.and_eq_true] at name
  intro member
  cases chars : n.toList with
  | nil => simp [chars] at member
  | cons c rest =>
    simp only [chars, isWord, Bool.and_eq_true, List.all_eq_true] at name
    rw [chars] at member
    rcases List.mem_cons.mp member with rfl | member
    · exact absurd name.1.1 (by decide)
    · exact absurd (name.1.2 _ member) (by decide)

theorem Symbol.text_oneLine (symbol : Symbol) : OneLine symbol.text := by
  cases symbol <;> decide

namespace Expr

mutual

/-- The written form of a tree whose names are names takes one line. -/
theorem render_oneLine : (e : Expr) → e.isWellFormed = true → OneLine e.render
  | .name n, wellFormed => Lexeme.oneLine_name wellFormed
  | .integer n, _ => Text.oneLine_toString n
  | .real x, _ => x.write_oneLine
  | .boolean true, _ | .boolean false, _ | .undefined, _ => by decide
  | .combination operator left right, wellFormed => by
    simp only [isWellFormed, Bool.and_eq_true] at wellFormed
    have first := renderOperand_oneLine left wellFormed.1.2
    have second := renderOperand_oneLine right wellFormed.2
    have symbol := operator.symbol.text_oneLine
    rw [render]
    split
    · simp only [Operator.renderPrefixed, oneLine_append]
      exact ⟨⟨⟨⟨by decide, symbol⟩, by split <;> decide⟩, second⟩, by decide⟩
    · simp only [oneLine_append]
      exact ⟨⟨⟨by decide, first⟩, symbol⟩, by decide⟩
    · simp only [oneLine_append]
      exact ⟨⟨⟨⟨⟨⟨by decide, first⟩, by decide⟩, symbol⟩, by decide⟩, second⟩, by decide⟩
  | .call callee arguments, wellFormed => by
    simp only [isWellFormed, Bool.and_eq_true] at wellFormed
    simp only [render, oneLine_append]
    exact ⟨⟨⟨callee.render_oneLine wellFormed.1, by decide⟩,
      .intercalate (by decide) (renderEach_oneLine arguments wellFormed.2)⟩, by decide⟩
  | .piecewise arms, wellFormed => by
    simp only [isWellFormed, Bool.and_eq_true] at wellFormed
    simp only [render, oneLine_append]
    exact ⟨⟨by decide, .intercalate (by decide) (renderArms_oneLine arms wellFormed.2)⟩, by decide⟩
  | .magnitude operand, wellFormed => by
    simp only [render, oneLine_append]
    exact ⟨⟨by decide, operand.render_oneLine wellFormed⟩, by decide⟩
  | .set members, wellFormed => by
    simp only [render, oneLine_append]
    exact ⟨⟨by decide, .intercalate (by decide) (renderEach_oneLine members wellFormed)⟩,
      by decide⟩

theorem renderOperand_oneLine : (operand : Option Expr) → operandWellFormed operand = true →
    OneLine (renderOperand operand)
  | none, _ => by decide
  | some e, wellFormed => e.render_oneLine wellFormed

theorem renderEach_oneLine : (es : List Expr) → allWellFormed es = true →
    ∀ text ∈ renderEach es, OneLine text
  | [], _ => nofun
  | e :: es, wellFormed => by
    simp only [allWellFormed, Bool.and_eq_true] at wellFormed
    exact List.forall_mem_cons.mpr
      ⟨e.render_oneLine wellFormed.1, renderEach_oneLine es wellFormed.2⟩

theorem renderArms_oneLine : (arms : List (Expr × Expr)) → armsWellFormed arms = true →
    ∀ text ∈ renderArms arms, OneLine text
  | [], _ => nofun
  | (value, guard) :: arms, wellFormed => by
    simp only [armsWellFormed, Bool.and_eq_true] at wellFormed
    refine List.forall_mem_cons.mpr ⟨?_, renderArms_oneLine arms wellFormed.2⟩
    simp only [oneLine_append]
    exact ⟨⟨⟨value.render_oneLine wellFormed.1.1, by decide⟩,
      guard.render_oneLine wellFormed.1.2⟩, by decide⟩

end

end Expr

theorem renderParameters_oneLine (named : parameters.all Lexeme.isName = true) :
    OneLine (renderParameters parameters) := by
  simp only [renderParameters, oneLine_append]
  refine ⟨⟨by decide, .intercalate (by decide) fun p member => ?_⟩, by decide⟩
  exact Lexeme.oneLine_name (List.all_eq_true.mp named p member)

namespace Value

/-- What is known of the spelling of a declaration that was parsed. -/
def Spelled (parameters : List String) (body : Expr) : Prop :=
  parameters.all Lexeme.isName = true ∧ body.isWellFormed = true

theorem displayEach_forall {P : String → Prop}
    (each : ∀ v ∈ vs, ∀ text, v.display? = some text → P text) (shown : displayEach? vs = some texts) :
    ∀ text ∈ texts, P text := by
  induction vs generalizing texts with
  | nil =>
    cases shown
    nofun
  | cons v vs ih =>
    obtain ⟨first, each⟩ := List.forall_mem_cons.mp each
    simp only [displayEach?, Option.bind_eq_bind, Option.bind_eq_some_iff] at shown
    obtain ⟨text, display, rest, others, ⟨⟩⟩ := shown
    exact List.forall_mem_cons.mpr ⟨first text display, ih each others⟩

/-- The first obstacle on the way to the written form of a value, with at most as many forms open
inside one another as the number says. -/
inductive Obstructed : Nat → Value → Fault → Prop where
  | deep : Obstructed 0 v .overdeepValue
  | long : 10 ^ Text.digitLimit ≤ n.natAbs →
      Obstructed (rendering + 1) (.integer n) .overlongInteger
  | body : rendering < body.height →
      Obstructed (rendering + 1) (.function parameters body) .overdeepValue
  | member : (∀ m ∈ before, ∃ text, m.displayWithin rendering = .ok text) →
      Obstructed rendering m fault →
      Obstructed (rendering + 1) (.set elementKind (before ++ m :: after)) fault

theorem displayEachWithin_cons (rendering : Nat) (v : Value) (rest : List Value) :
    displayEachWithin rendering (v :: rest) = (v.displayWithin rendering >>= fun text =>
      displayEachWithin rendering rest >>= fun texts => .ok (text :: texts)) := by
  rw [displayEachWithin]
  rfl

theorem displayEachWithin_eq_error {members : List Value} :
    displayEachWithin rendering members = .error fault ↔
      ∃ before m after, members = before ++ m :: after ∧
        (∀ v ∈ before, ∃ text, v.displayWithin rendering = .ok text) ∧
        m.displayWithin rendering = .error fault := by
  apply first_of_cons (P := fun members => displayEachWithin rendering members = .error fault)
  · simp [displayEachWithin]
  · intro v rest
    simp [displayEachWithin_cons, bind_eq_error]

@[simp] theorem displayWithin_zero (v : Value) : v.displayWithin 0 = .error .overdeepValue := by
  cases v <;> rw [displayWithin]

theorem displayEach_of_within {members : List Value}
    (each : ∀ v : Value, ∀ text, v.displayWithin rendering = .ok text → v.display? = some text)
    (shown : displayEachWithin rendering members = .ok texts) :
    displayEach? members = some texts := by
  induction members generalizing texts with
  | nil =>
    cases shown
    rfl
  | cons v members ih =>
    rw [displayEachWithin_cons] at shown
    obtain ⟨text, first, shown⟩ := bind_eq_ok.mp shown
    obtain ⟨others, rest, whole⟩ := bind_eq_ok.mp shown
    cases whole
    rw [displayEach?, each v text first, ih rest]
    rfl

/-- A value that is written within a limit has this written form. -/
theorem display_of_within {v : Value} (shown : v.displayWithin rendering = .ok text) :
    v.display? = some text := by
  induction rendering generalizing v text with
  | zero =>
    rw [displayWithin_zero] at shown
    cases shown
  | succ rendering ih =>
    cases v with
    | integer n =>
      rw [displayWithin] at shown
      rw [display?]
      cases written : Text.writeInteger n with
      | none => rw [written] at shown; cases shown
      | some other => rw [written] at shown; cases shown; rfl
    | function parameters body =>
      rw [displayWithin] at shown
      split at shown
      · cases shown
        rfl
      · cases shown
    | set elementKind members =>
      rw [displayWithin] at shown
      cases each : displayEachWithin rendering members with
      | error fault => rw [each] at shown; cases shown
      | ok texts =>
        rw [each] at shown
        cases shown
        rw [display?, displayEach_of_within (fun _ _ => ih) each, Option.map_some]
    | _ =>
      cases shown
      rfl

/-- A value is not written within a limit exactly if there is an obstacle, the first one. -/
theorem displayWithin_eq_error {v : Value} :
    v.displayWithin rendering = .error fault ↔ Obstructed rendering v fault := by
  induction rendering generalizing v fault with
  | zero =>
    rw [displayWithin_zero]
    constructor
    · intro failed
      cases failed
      exact .deep
    · intro obstructed
      cases obstructed
      rfl
  | succ rendering ih =>
    cases v with
    | integer n =>
      rw [displayWithin]
      constructor
      · intro failed
        cases written : Text.writeInteger n with
        | none =>
          rw [written] at failed
          cases failed
          exact .long (Text.writeInteger_eq_none.mp written)
        | some text => rw [written] at failed; cases failed
      · rintro ⟨⟩
        case long long => rw [Text.writeInteger_eq_none.mpr long]; rfl
    | function parameters body =>
      rw [displayWithin]
      constructor
      · intro failed
        split at failed
        case isTrue => cases failed
        case isFalse high =>
          cases failed
          exact .body (Nat.lt_of_not_le high)
      · rintro ⟨⟩
        case body high => rw [if_neg (Nat.not_le.mpr high)]
    | set elementKind members =>
      have inside : displayWithin (rendering + 1) (.set elementKind members) = .error fault ↔
          displayEachWithin rendering members = .error fault := by
        rw [displayWithin]
        cases displayEachWithin rendering members <;> simp [Except.map]
      rw [inside, displayEachWithin_eq_error]
      constructor
      · rintro ⟨before, m, after, rfl, earlier, failed⟩
        exact .member earlier (ih.mp failed)
      · rintro ⟨⟩
        case member earlier obstructed => exact ⟨_, _, _, rfl, earlier, ih.mpr obstructed⟩
    | real | boolean | undefined | builtin =>
      rw [displayWithin]
      constructor
      · rintro ⟨⟩
      · rintro ⟨⟩

/-- A value that has a written form has one of one line, which is not empty. -/
theorem display_oneLine {v : Value} (spelled : v.Holds Spelled) :
    ∀ text, v.display? = some text → text ≠ "" ∧ OneLine text := by
  induction spelled with
  | @integer n =>
    intro text shown
    rw [display?, Text.writeInteger] at shown
    split at shown
    · cases shown
      exact ⟨Text.toString_ne_empty n, Text.oneLine_toString n⟩
    · cases shown
  | @real x =>
    rintro _ ⟨⟩
    exact ⟨x.write_ne_empty, x.write_oneLine⟩
  | @boolean b =>
    rintro _ ⟨⟩
    cases b <;> decide
  | undefined =>
    rintro _ ⟨⟩
    decide
  | @function parameters body spelled =>
    rintro _ ⟨⟩
    refine ⟨by simp, ?_⟩
    simp only [oneLine_append]
    exact ⟨⟨⟨⟨by decide, renderParameters_oneLine spelled.1⟩, by decide⟩,
      body.render_oneLine spelled.2⟩, by decide⟩
  | @builtin f =>
    rintro _ ⟨⟩
    cases f <;> decide
  | set _ ih =>
    intro text shown
    simp only [display?, Option.map_eq_some_iff] at shown
    obtain ⟨texts, each, rfl⟩ := shown
    have lines := displayEach_forall (P := OneLine)
      (fun m member text shown => (ih m member text shown).2) each
    refine ⟨by simp, ?_⟩
    simp only [oneLine_append]
    exact ⟨⟨by decide, .intercalate (by decide) lines⟩, by decide⟩

end Value

end PiecewiseLang
