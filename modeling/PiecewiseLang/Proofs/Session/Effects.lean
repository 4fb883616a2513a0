import PiecewiseLang.Proofs.Evaluation.Soundness

/-! What a program leaves behind. Its statements are carried out in order, up to the first that
fails. Each of those before it leaves one binding in the innermost scope or one line; the one
that fails leaves nothing, wherever in it the failure arose. -/
namespace PiecewiseLang

namespace Environment

/-- The environment with more bindings in its innermost scope. -/
def extend (env : Environment) (made : Bindings) : Environment :=
  { env with innermost := env.innermost ++ made }

@[simp] theorem extend_nil (env : Environment) : env.extend [] = env := by
  simp [extend]

@[simp] theorem extend_append (env : Environment) (made more : Bindings) :
    env.extend (made ++ more) = (env.extend made).extend more := by
  simp [extend]

@[simp] theorem extend_outer (env : Environment) (made : Bindings) :
    (env.extend made).outer = env.outer := rfl

theorem extend_lookup_eq_none {env : Environment} {made : Bindings} :
    (env.extend made).innermost.lookup name = none ↔
      env.innermost.lookup name = none ∧ made.lookup name = none := by
  simp [extend, List.lookup_append]

/-- What a scope binds it goes on to bind. -/
theorem extend_lookup_of_bound {env : Environment} (made : Bindings)
    (bound : env.innermost.lookup name = some value) :
    (env.extend made).innermost.lookup name = some value := by
  simp [extend, List.lookup_append, bound]

theorem declare_cases (env : Environment) (name : String) (value : Value) :
    (env.innermost.lookup name = none ∧
        env.declare name value = .ok (env.extend [(name, value)])) ∨
      ∃ other, env.innermost.lookup name = some other ∧
        env.declare name value = .error (.boundAlready name) := by
  unfold declare
  cases found : env.innermost.lookup name with
  | none => exact .inl ⟨rfl, rfl⟩
  | some other => exact .inr ⟨other, rfl, rfl⟩

end Environment

namespace Statement

/-- The name a statement binds, if it binds one. -/
def bound? : Statement → Option String
  | .assignment name _ | .declaration name _ _ => some name
  | .expression _ => none

/-- A statement that is carried out: the bindings it makes, which is one or none, and the lines
it shows, which are none or one. -/
inductive Does (limits : Limits) (env : Environment) :
    Statement → Bindings → List String → Prop where
  | assigns : (e.evaluate limits env).result = .ok value → env.innermost.lookup name = none →
      Does limits env (.assignment name e) [(name, value)] []
  | declares : env.innermost.lookup name = none →
      Does limits env (.declaration name parameters body) [(name, .function parameters body)] []
  | shows : (e.evaluate limits env).result = .ok value →
      value.displayWithin limits.rendering = .ok line → Does limits env (.expression e) [] [line]

/-- A statement that fails, and with what: its expression fails at any depth, its name is bound
in the scope already, or the value it should show cannot be written. -/
inductive Stops (limits : Limits) (env : Environment) : Statement → EvalFailure → Prop where
  | evaluating : s.evaluated? = some e → (e.evaluate limits env).result = .error f →
      Stops limits env s f
  | rebinding : s.bound? = some name → env.innermost.lookup name = some other →
      (∀ e, s.evaluated? = some e → ∃ value, (e.evaluate limits env).result = .ok value) →
      Stops limits env s (.error (.boundAlready name))
  | showing : (e.evaluate limits env).result = .ok value →
      value.displayWithin limits.rendering = .error fault →
      Stops limits env (.expression e) (.fault fault)

/-- A statement is carried out or it fails, and then the environment is what it was. -/
theorem execute_cases (limits : Limits) (env : Environment) (s : Statement) :
    (∃ value made shown, (s.execute limits env).result = .ok (value, env.extend made) ∧
      s.display limits.rendering value = .ok shown ∧ s.Does limits env made shown) ∨
    (∃ value fault, (s.execute limits env).result = .ok (value, env) ∧
      s.display limits.rendering value = .error fault ∧ s.Stops limits env (.fault fault)) ∨
    ∃ f, (s.execute limits env).result = .error f ∧ s.Stops limits env f := by
  cases s with
  | assignment name e =>
    simp only [execute, Traced.result_bind, Traced.result_ofExcept]
    cases evaluated : (e.evaluate limits env).result with
    | error f => exact .inr (.inr ⟨f, rfl, .evaluating rfl evaluated⟩)
    | ok value =>
      rcases env.declare_cases name value with ⟨fresh, declared⟩ | ⟨other, found, declared⟩
      · refine .inl ⟨.undefined, _, _, ?_, rfl, .assigns evaluated fresh⟩
        simp only [bind, Except.bind, declared]
        rfl
      · refine .inr (.inr ⟨.error (.boundAlready name), ?_, .rebinding rfl found ?_⟩)
        · simp only [bind, Except.bind, declared]
          rfl
        · rintro e' ⟨⟩
          exact ⟨value, evaluated⟩
  | declaration name parameters body =>
    simp only [execute, Traced.result_bind, Traced.result_ofExcept]
    rcases env.declare_cases name (.function parameters body) with
      ⟨fresh, declared⟩ | ⟨other, found, declared⟩
    · exact .inl ⟨_, _, _, by rw [declared]; rfl, rfl, .declares fresh⟩
    · refine .inr (.inr ⟨_, by rw [declared]; rfl, .rebinding rfl found ?_⟩)
      rintro e' ⟨⟩
  | expression e =>
    simp only [execute, Traced.result_bind]
    cases evaluated : (e.evaluate limits env).result with
    | error f => exact .inr (.inr ⟨f, rfl, .evaluating rfl evaluated⟩)
    | ok value =>
      cases text : value.displayWithin limits.rendering with
      | error fault =>
        exact .inr (.inl ⟨value, fault, rfl, by rw [display, text]; rfl, .showing evaluated text⟩)
      | ok line =>
        refine .inl ⟨value, [], [line], ?_, by rw [display, text]; rfl, .shows evaluated text⟩
        rw [Environment.extend_nil]
        rfl

/-- One statement of a program, whatever follows it: either its effects come before those of
the rest, or it ends the program and has none. -/
theorem executeAll_step (limits : Limits) (env : Environment) (s : Statement) :
    (∃ made shown log, s.Does limits env made shown ∧ ∀ rest, executeAll limits env (s :: rest) =
      (executeAll limits (env.extend made) rest).after shown log) ∨
    ∃ f log, s.Stops limits env f ∧
      ∀ rest, executeAll limits env (s :: rest) = ⟨[], env, log, some f⟩ := by
  rcases s.execute_cases limits env with
    ⟨value, made, shown, ran, lines, does⟩ | ⟨value, fault, ran, lines, stops⟩ | ⟨f, ran, stops⟩
  · exact .inl ⟨made, shown, _, does, fun rest => by simp only [executeAll, ran, lines]; rfl⟩
  · exact .inr ⟨_, _, stops, fun rest => by simp only [executeAll, ran, lines]; rfl⟩
  · exact .inr ⟨f, _, stops, fun rest => by simp only [executeAll, ran]; rfl⟩

/-- Statements that are carried out one after the other: all bindings they make and all lines
they show, in order. -/
inductive Carries (limits : Limits) :
    Environment → List Statement → Bindings → List String → Prop where
  | nil : Carries limits env [] [] []
  | cons {env : Environment} {s : Statement} {rest : List Statement} {made more : Bindings}
      {shown lines : List String} : s.Does limits env made shown →
      Carries limits (env.extend made) rest more lines →
      Carries limits env (s :: rest) (made ++ more) (shown ++ lines)

section
variable {limits : Limits} {env : Environment}

theorem Does.names {s : Statement} (does : s.Does limits env made shown) :
    made.map Prod.fst = s.bound?.toList := by
  cases does <;> rfl

theorem Does.fresh {s : Statement} (does : s.Does limits env made shown) :
    ∀ binding ∈ made, env.innermost.lookup binding.1 = none := by
  cases does with
  | assigns _ fresh => simpa using fresh
  | declares fresh => simpa using fresh
  | shows => exact nofun

/-- Every statement that binds a name made one binding, in order, and there are no others. -/
theorem Carries.names (carries : Carries limits env program made lines) :
    made.map Prod.fst = program.filterMap bound? := by
  induction carries with
  | nil => rfl
  | @cons env s rest made more shown lines does _ ih =>
    rw [List.map_append, does.names, ih]
    cases bound : s.bound? <;> simp [bound]

/-- No name was bound in the scope before, and none is bound twice. -/
theorem Carries.fresh (carries : Carries limits env program made lines) :
    (made.map Prod.fst).Nodup ∧ ∀ binding ∈ made, env.innermost.lookup binding.1 = none := by
  induction carries with
  | nil => exact ⟨List.nodup_nil, nofun⟩
  | @cons env s rest made more shown lines does _ ih =>
    obtain ⟨distinct, unbound⟩ := ih
    simp only [Environment.extend_lookup_eq_none] at unbound
    constructor
    · have single : (made.map Prod.fst).Nodup := by
        rw [does.names]
        cases s.bound? <;> simp
      rw [List.map_append, List.nodup_append]
      refine ⟨single, distinct, ?_⟩
      -- A later statement runs where the name is bound already, so it cannot bind it again.
      rintro name member _ later rfl
      obtain ⟨binding, inside, rfl⟩ := List.mem_map.mp later
      obtain ⟨first, inside', same⟩ := List.mem_map.mp member
      have absent := List.lookup_eq_none_iff.mp (unbound binding inside).2 first inside'
      simp [same] at absent
    · intro binding member
      rcases List.mem_append.mp member with member | member
      · exact does.fresh binding member
      · exact (unbound binding member).1

end

/-- How far statements get: those in front are carried out, and the next, if there is one, stops
the rest where they left off. -/
theorem executeAll_carries (limits : Limits) (env : Environment) (program : List Statement) :
    ∃ done made, Carries limits env done made (executeAll limits env program).lines ∧
      (executeAll limits env program).environment = env.extend made ∧
      ((executeAll limits env program).failure = none ∧ program = done ∨
        ∃ s rest f, (executeAll limits env program).failure = some f ∧
          program = done ++ s :: rest ∧ s.Stops limits (env.extend made) f) := by
  induction program generalizing env with
  | nil =>
    refine ⟨[], [], .nil, ?_, .inl ⟨rfl, rfl⟩⟩
    rw [Environment.extend_nil]
    rfl
  | cons s program ih =>
    rcases executeAll_step limits env s with ⟨made, shown, log, does, runs⟩ | ⟨f, log, stops, ends⟩
    · obtain ⟨done, more, carries, extended, ended⟩ := ih (env.extend made)
      rw [runs]
      refine ⟨s :: done, made ++ more, .cons does carries, ?_, ?_⟩
      · rw [Environment.extend_append]
        exact extended
      · rw [Environment.extend_append]
        rcases ended with ⟨finished, rfl⟩ | ⟨t, rest, f, failed, rfl, stops⟩
        · exact .inl ⟨finished, rfl⟩
        · exact .inr ⟨t, rest, f, failed, rfl, stops⟩
    · rw [ends]
      refine ⟨[], [], .nil, ?_, .inr ⟨s, program, f, rfl, rfl, ?_⟩⟩
      · rw [Environment.extend_nil]
      · rwa [Environment.extend_nil]

end Statement

/-- The innermost scope of an environment of a forest is the one with its number. -/
theorem Forest.node_of_environment {forest : Forest}
    (seen : forest.environment? number = some env) :
    ∃ node, forest[number]? = some node ∧ node.bindings = env.innermost := by
  unfold environment? at seen
  split at seen
  · cases seen
  case h_2 innermost outer scopes =>
    cases seen
    unfold chain at scopes
    split at scopes
    · cases scopes
    · split at scopes
      · cases scopes
      case h_2 node found =>
        cases scopes
        exact ⟨node, found, rfl⟩

/-- Running a text in one scope of a forest gives that scope the bindings it then has and
leaves every other scope as it is, those around it and those inside it. -/
theorem Forest.execute_frame {forest : Forest} (seen : forest.environment? number = some env)
    (limits : Limits) (source : String) : ∃ node after,
      forest[number]? = some node ∧ node.bindings = env.innermost ∧
      forest.execute limits number source =
        some (after, PiecewiseLang.execute limits env source) ∧
      after[number]? = some { node with
        bindings := (PiecewiseLang.execute limits env source).environment.innermost } ∧
      ∀ other ≠ number, after[other]? = forest[other]? := by
  obtain ⟨node, found, same⟩ := node_of_environment seen
  refine ⟨node, _, found, same, by rw [execute, seen]; rfl, ?_, ?_⟩
  · simp [update, found]
  · intro other different
    simp [update, different.symm]

/-- How a program ends of which a statement fails. -/
def Ending.ofFailure : EvalFailure → Ending
  | .error e => .evalError e
  | .fault f => .fault f

/-- A program that was parsed goes as its statements go. -/
theorem execute_of_parsed (parsed : parseProgram limits.nesting source = .ok program)
    (env : Environment) :
    (execute limits env source).lines = (Statement.executeAll limits env program).lines ∧
      (execute limits env source).environment =
        (Statement.executeAll limits env program).environment ∧
      (execute limits env source).ending =
        ((Statement.executeAll limits env program).failure.map .ofFailure).getD .finished := by
  simp only [execute, parsed]
  generalize Statement.executeAll limits env program = p
  obtain ⟨lines, last, log, failure⟩ := p
  cases failure with
  | none => exact ⟨rfl, rfl, rfl⟩
  | some f => cases f <;> exact ⟨rfl, rfl, rfl⟩

/-- A program that was parsed, seen from the statements that were carried out. -/
theorem execute_carries (parsed : parseProgram limits.nesting source = .ok program)
    (env : Environment) : ∃ done made,
      Statement.Carries limits env done made (execute limits env source).lines ∧
      (execute limits env source).environment = env.extend made ∧
      ((execute limits env source).ending = .finished ∧ program = done ∨
        ∃ s rest f, program = done ++ s :: rest ∧ s.Stops limits (env.extend made) f ∧
          (execute limits env source).ending = .ofFailure f) := by
  obtain ⟨lines, environment, ending⟩ := execute_of_parsed parsed env
  obtain ⟨done, made, carries, extended, ended⟩ := Statement.executeAll_carries limits env program
  rw [lines, environment, ending]
  refine ⟨done, made, carries, extended, ?_⟩
  rcases ended with ⟨finished, whole⟩ | ⟨s, rest, f, failed, split, stops⟩
  · exact .inl ⟨by rw [finished]; rfl, whole⟩
  · exact .inr ⟨s, rest, f, split, stops, by rw [failed]; rfl⟩

/-- However a program goes, it only adds bindings to the innermost scope. -/
theorem execute_extends (limits : Limits) (env : Environment) (source : String) :
    ∃ made, (execute limits env source).environment = env.extend made := by
  cases parsed : parseProgram limits.nesting source with
  | error failure =>
    refine ⟨[], ?_⟩
    rw [execute, parsed, Environment.extend_nil]
    cases failure <;> rfl
  | ok program =>
    obtain ⟨_, made, -, extended, -⟩ := execute_carries parsed env
    exact ⟨made, extended⟩

/-- Failure leaves exactly the effects of the statements that were carried out. A text that is
not parsed changes nothing and shows nothing. Otherwise the statements before the first that
fails, or all of them, are carried out: the innermost scope is extended by one binding for each
of them that binds a name, in order, and the lines are those of the expressions among them.
Whatever was bound before, there or further out, stays bound to the same value, also in a forest
of scopes, where no scope but the innermost one is touched. -/
theorem failure_keeps_completed_effects (limits : Limits) (env : Environment) (source : String) :
    (∀ failure, parseProgram limits.nesting source = .error failure →
      (execute limits env source).environment = env ∧ (execute limits env source).lines = []) ∧
    (∀ program, parseProgram limits.nesting source = .ok program → ∃ done made,
      Statement.Carries limits env done made (execute limits env source).lines ∧
      (execute limits env source).environment = env.extend made ∧
      made.map Prod.fst = done.filterMap Statement.bound? ∧ (made.map Prod.fst).Nodup ∧
      (∀ binding ∈ made, env.innermost.lookup binding.1 = none) ∧
      ((execute limits env source).ending = .finished ∧ program = done ∨
        ∃ s rest f, program = done ++ s :: rest ∧ s.Stops limits (env.extend made) f ∧
          (execute limits env source).ending = .ofFailure f)) ∧
    (execute limits env source).environment.outer = env.outer ∧
    (∀ name value, env.innermost.lookup name = some value →
      (execute limits env source).environment.innermost.lookup name = some value) ∧
    ∀ forest number, Forest.environment? forest number = some env → ∃ node after,
      forest[number]? = some node ∧ node.bindings = env.innermost ∧
      forest.execute limits number source = some (after, execute limits env source) ∧
      after[number]? = some { node with
        bindings := (execute limits env source).environment.innermost } ∧
      ∀ other ≠ number, after[other]? = forest[other]? := by
  obtain ⟨added, extended⟩ := execute_extends limits env source
  refine ⟨?_, ?_, ?_, ?_, fun forest number seen => Forest.execute_frame seen limits source⟩
  · intro failure failed
    rw [execute, failed]
    cases failure <;> exact ⟨rfl, rfl⟩
  · intro program parsed
    obtain ⟨done, made, carries, extended, ended⟩ := execute_carries parsed env
    obtain ⟨distinct, fresh⟩ := carries.fresh
    exact ⟨done, made, carries, extended, carries.names, distinct, fresh, ended⟩
  · rw [extended, Environment.extend_outer]
  · intro name value bound
    rw [extended]
    exact Environment.extend_lookup_of_bound added bound

/-- A scope inside one that binds `b`. -/
def innerSample : Forest := [⟨none, [("b", .integer 0)]⟩, ⟨some 0, []⟩]

/-- Binds `b` once more, shows it, and fails in the call inside the third binding. -/
def brokenSample : List Statement :=
  [.assignment "b" (.integer 1), .expression (.name "b"),
    .declaration "f" ["x"] (.combination ⟨.add, .infixed⟩ (some (.name "x")) (some (.name "c"))),
    .assignment "d" (.set [.call (.name "f") [.name "b"]]), .expression (.integer 7)]

def brokenSampleText : String := "let b = 1; b; fn f(x) = x + c; let d = \x7bf(b)\x7d; 7;"

theorem failure_keeps_completed_effects_sample :
    innerSample.environment? 1 = some ⟨[], [[("b", .integer 0)]]⟩ ∧
    (∃ done made s rest, brokenSample = done ++ s :: rest ∧
      Statement.Carries ⟨4, 20, 20⟩ ⟨[], [[("b", .integer 0)]]⟩ done made ["1"] ∧
      made.map Prod.fst = done.filterMap Statement.bound? ∧
      s.Stops ⟨4, 20, 20⟩ ⟨made, [[("b", .integer 0)]]⟩ (.error (.unboundName "c"))) ∧
    ∃ after outcome, innerSample.execute ⟨4, 20, 20⟩ 1 brokenSampleText = some (after, outcome) ∧
      after[1]? = some ⟨some 0, outcome.environment.innermost⟩ ∧
      ∀ other ≠ 1, after[other]? = innerSample[other]? := by
  have seen : innerSample.environment? 1 = some ⟨[], [[("b", .integer 0)]]⟩ := rfl
  have parsed : parseProgram (Limits.nesting ⟨4, 20, 20⟩) brokenSampleText = .ok brokenSample := by
    decide +kernel
  have shown : (execute ⟨4, 20, 20⟩ ⟨[], [[("b", .integer 0)]]⟩ brokenSampleText).lines = ["1"] := by
    decide +kernel
  have ended : (execute ⟨4, 20, 20⟩ ⟨[], [[("b", .integer 0)]]⟩ brokenSampleText).ending =
      .evalError (.unboundName "c") := by decide +kernel
  obtain ⟨-, programs, -, -, forests⟩ :=
    failure_keeps_completed_effects ⟨4, 20, 20⟩ ⟨[], [[("b", .integer 0)]]⟩ brokenSampleText
  refine ⟨seen, ?_, ?_⟩
  · obtain ⟨done, made, carries, -, names, -, -, finished⟩ := programs _ parsed
    rw [ended] at finished
    rw [shown] at carries
    rcases finished with ⟨finished, -⟩ | ⟨s, rest, f, split, stops, failed⟩
    · cases finished
    · obtain rfl : f = .error (.unboundName "c") := by
        cases f <;> cases failed
        rfl
      exact ⟨done, made, s, rest, split, carries, names, stops⟩
  · obtain ⟨node, after, found, -, ran, here, others⟩ := forests innerSample 1 seen
    cases found
    exact ⟨after, _, ran, here, others⟩

end PiecewiseLang
