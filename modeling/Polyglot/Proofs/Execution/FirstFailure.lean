import Polyglot.Proofs.Execution.Course
import Polyglot.Proofs.Execution.Dispatch

/-!
# Where toolchains stop

A toolchain's recipe begins with the source file (`exists_source`) and ends with one program that it
launches (`exists_launch`). **`run_stops_at_first_failure`** says what that makes of the course of
the recipe: what is printed is what that program printed, the source file is there before anything
is started, and the first failure is the end and is told by its own words. Java code without a
public class is refused before all that.
-/

namespace Polyglot

variable {σ : Type}

/-! ## Workshops -/

namespace Workshop

/-- What is saved can be loaded. -/
def Keeps (workshop : Workshop σ) : Prop :=
  ∀ name content state later, workshop.save name content state = (.ok (), later) →
    workshop.load name later = .ok content

/-- A workshop with the files that were saved, the latest first, whose programs end as a script says
and change nothing. -/
def scripted (script : Command → ProcessOutcome) : Workshop (List (String × List UInt8)) where
  directory := "/scratch"
  save name content files := (.ok (), (name, content) :: files)
  load name files :=
    match files.lookup name with
    | some bytes => .ok bytes
    | none => .error .noSuchFile
  start command files := (script command, files)
  clock _ := .zero

theorem scripted_keeps (script : Command → ProcessOutcome) : (scripted script).Keeps := by
  rintro name content state later ⟨⟩
  simp only [scripted, List.lookup_cons_self]

end Workshop

/-! ## Recipes -/

namespace Toolchain

variable {toolchain : Toolchain} {path : String → String} {code : String} {steps : Recipe}

/-- The code has no public class, and the toolchain needs one to name its files. -/
def Refuses (toolchain : Toolchain) (code : String) : Prop :=
  ∃ compiler runtime, toolchain = .java compiler runtime ∧ javaClassName? code = none

theorem recipe_of_refuses (refused : toolchain.Refuses code) :
    toolchain.recipe path code = .error .missingClassName := by
  obtain ⟨compiler, runtime, rfl, nameless⟩ := refused
  simp only [recipe, nameless]

theorem exists_recipe (accepted : ¬ toolchain.Refuses code) :
    ∃ steps, toolchain.recipe path code = .ok steps := by
  cases toolchain with
  | interpreter program fileExtension => exact ⟨_, rfl⟩
  | cpp compiler => exact ⟨_, rfl⟩
  | java compiler runtime =>
    cases named : javaClassName? code with
    | none => exact absurd ⟨compiler, runtime, rfl, named⟩ accepted
    | some className => exact ⟨_, by simp only [recipe, named]; rfl⟩
  | go program => exact ⟨_, rfl⟩

/-- The recipe for Java code. -/
theorem recipe_java {compiler runtime : String}
    (planned : (java compiler runtime).recipe path code = .ok steps) :
    ∃ className, javaClassName? code = some className ∧
      steps = [
        .save (className ++ ".java") (Text.Utf8.encode code.toList),
        .build ⟨compiler, [path (className ++ ".java")]⟩,
        .collect (className ++ ".class"),
        .launch ⟨runtime, [className]⟩] := by
  cases named : javaClassName? code with
  | none =>
    rw [recipe_of_refuses ⟨compiler, runtime, rfl, named⟩] at planned
    cases planned
  | some className =>
    simp only [recipe, named] at planned
    exact ⟨className, rfl, (Except.ok.inj planned).symm⟩

/-- A recipe launches one program, and that is its last command. -/
theorem exists_launch (planned : toolchain.recipe path code = .ok steps) :
    ∃ front program back, steps = front ++ .launch program :: back ∧
      (∀ command, .launch command ∉ front) ∧ Recipe.commands back = [] := by
  cases toolchain with
  | interpreter program fileExtension =>
    cases planned
    exact ⟨[_], _, [], rfl, by simp, rfl⟩
  | cpp compiler =>
    cases planned
    exact ⟨[_, _], _, [_], rfl, by simp, rfl⟩
  | java compiler runtime =>
    obtain ⟨className, -, rfl⟩ := recipe_java planned
    exact ⟨[_, _, _], _, [], rfl, by simp, rfl⟩
  | go program =>
    cases planned
    exact ⟨[_, _, _], _, [], rfl, by simp, rfl⟩

/-- A recipe begins with the source file, and its first command is told where that is. -/
theorem exists_source (planned : toolchain.recipe path code = .ok steps) :
    ∃ source first rest command,
      steps = .save source (Text.Utf8.encode code.toList) :: first :: rest ∧
      first.command? = some command ∧ path source ∈ command.arguments := by
  cases toolchain with
  | interpreter program fileExtension =>
    cases planned
    exact ⟨_, _, _, _, rfl, rfl, List.mem_singleton_self _⟩
  | cpp compiler =>
    cases planned
    exact ⟨_, _, _, _, rfl, rfl, List.mem_cons_self⟩
  | java compiler runtime =>
    obtain ⟨className, -, rfl⟩ := recipe_java planned
    exact ⟨_, _, _, _, rfl, rfl, List.mem_singleton_self _⟩
  | go program =>
    cases planned
    exact ⟨_, _, _, _, rfl, rfl, by simp⟩

/-- What a run prints is what the program has printed that is the last command of the recipe; the
commands before it print nothing. -/
def PrintsProgram (workshop : Workshop σ) (limit deadline : Duration) (state : σ) (steps : Recipe)
    (run : RecipeRun σ) : Prop :=
  ∃ front program back, steps = front ++ .launch program :: back ∧
    (∀ command, .launch command ∉ front) ∧ Recipe.commands back = [] ∧
    ∀ product, run.result = .ok product →
      ∃ ready made after stdout stderr,
        Recipe.Course workshop limit deadline {} state front ready made ∧
        workshop.start program made = (.ended (.exited 0) stdout stderr, after) ∧
        product.stdout = String.ofList (Text.Utf8.decodeLossy stdout)

/-- When the first command is given, the source file has been saved with the code and nothing else
has been done; the command is told where the file is. -/
def SourceFirst (workshop : Workshop σ) (limit deadline : Duration) (code : String) (state : σ)
    (steps : Recipe) (run : RecipeRun σ) : Prop :=
  ∃ source first rest command,
    steps = .save source (Text.Utf8.encode code.toList) :: first :: rest ∧
    first.command? = some command ∧ workshop.path source ∈ command.arguments ∧
    (run.started ≠ [] → ∃ saved,
      workshop.save source (Text.Utf8.encode code.toList) state = (.ok (), saved) ∧
      (workshop.Keeps → workshop.load source saved = .ok (Text.Utf8.encode code.toList)) ∧
      run = Recipe.carryOut workshop limit deadline {} saved (first :: rest))

/-- A process that failed was the last that was started, and it is told by what it wrote to the
error stream or, if that is blank, by its program and how it ended. -/
def TellsFailure (workshop : Workshop σ) (run : RecipeRun σ) : Prop :=
  ∀ program text, run.result = .error (.failed program text) →
    (ExecutionError.failed program text).message = text ∧ Text.trim text ≠ "" ∧
    ∃ command made status stdout stderr after,
      run.started.getLast? = some command ∧ command.program = program ∧
      workshop.start command made = (.ended status stdout stderr, after) ∧ status ≠ .exited 0 ∧
      Complains program status stderr text ∧
      ∀ said, Text.trim said ≠ "" → stderr = Text.Utf8.encode said.toList → text = said

variable {workshop : Workshop σ} {limit deadline : Duration} {state : σ}

theorem printsProgram_of_recipe (planned : toolchain.recipe workshop.path code = .ok steps) :
    PrintsProgram workshop limit deadline state steps
      (Recipe.carryOut workshop limit deadline {} state steps) := by
  obtain ⟨front, program, back, rfl, apart, quiet⟩ := exists_launch planned
  refine ⟨front, program, back, rfl, apart, quiet, fun product succeeded => ?_⟩
  have stops := Recipe.carryOut_stopsAtFirstFailure workshop limit deadline {} state
    (front ++ .launch program :: back)
  obtain ⟨final, course⟩ := (stops.succeeds_iff product).mp succeeded
  refine course.printed fun command listed => ?_
  have given : command ∈ Recipe.commands back := List.mem_filterMap.mpr ⟨_, listed, rfl⟩
  rw [quiet] at given
  cases given

theorem sourceFirst_of_recipe (planned : toolchain.recipe workshop.path code = .ok steps) :
    SourceFirst workshop limit deadline code state steps
      (Recipe.carryOut workshop limit deadline {} state steps) := by
  obtain ⟨source, first, rest, command, rfl, starts, told⟩ := exists_source planned
  refine ⟨source, first, rest, command, rfl, starts, told, fun started => ?_⟩
  obtain ⟨next, saved, taken, early⟩ | ⟨error, later, ended⟩ :=
    Recipe.carryOut_cons_cases workshop limit deadline {} state
      (.save source (Text.Utf8.encode code.toList))
  · have outcome := RecipeStep.outcome_iff.mpr taken
    cases outcome with
    | saved answer =>
      exact ⟨saved, answer, fun keeps => keeps _ _ _ _ answer,
        Recipe.carryOut_cons_of_take (first :: rest) taken early⟩
  · rw [ended] at started
    exact absurd rfl started

theorem tellsFailure_carryOut (steps : Recipe) :
    TellsFailure workshop (Recipe.carryOut workshop limit deadline {} state steps) := by
  intro program text failed
  have stops := Recipe.carryOut_stopsAtFirstFailure workshop limit deadline {} state steps
  obtain ⟨before, step, after, final, same, failure⟩ := (stops.fails_iff _).mp failed
  obtain ⟨-, started⟩ := stops.stopped _ _ _ _ _ same failure
  cases failure with
  | failed course outcome early =>
    obtain ⟨command, status, stdout, stderr, starts, named, answer, bad, told⟩ :=
      outcome.process_failed
    refine ⟨rfl, told.trim_ne_empty, command, _, status, stdout, stderr, final, ?_, named, answer,
      bad, told, ?_⟩
    · rw [started, Recipe.commands_append, Recipe.commands_cons, starts]
      exact List.getLast?_concat
    · rintro said written rfl
      exact told.eq_of_encode written

/-- Running code stops at the first failure. It succeeds exactly if every step of the recipe goes
well, and prints what the program printed; otherwise it ends with the error of the first step that
does not go well, and starts nothing after it. Java code without a public class is refused before
anything is done, and other code is in its file before anything is started. -/
theorem run_stops_at_first_failure (toolchain : Toolchain) (workshop : Workshop σ)
    (limit : Duration) (code : String) (state : σ) :
    (toolchain.Refuses code →
      toolchain.run workshop limit code state = { result := .error .missingClassName, state }) ∧
    (¬ toolchain.Refuses code → ∃ steps, toolchain.recipe workshop.path code = .ok steps ∧
      Recipe.StopsAtFirstFailure workshop limit (workshop.clock state + limit) {} state steps
        (toolchain.run workshop limit code state) ∧
      PrintsProgram workshop limit (workshop.clock state + limit) state steps
        (toolchain.run workshop limit code state) ∧
      SourceFirst workshop limit (workshop.clock state + limit) code state steps
        (toolchain.run workshop limit code state)) ∧
    TellsFailure workshop (toolchain.run workshop limit code state) ∧
    ∀ log, toolchain.run workshop.logged limit code (state, log) =
      { result := (toolchain.run workshop limit code state).result
        state := ((toolchain.run workshop limit code state).state,
          log ++ (toolchain.run workshop limit code state).started)
        started := (toolchain.run workshop limit code state).started } := by
  have logged := toolchain.run_logged workshop limit code state
  -- code that is refused has no recipe, and all other code is run by carrying its recipe out
  by_cases refused : toolchain.Refuses code
  · have ran : toolchain.run workshop limit code state =
        { result := .error .missingClassName, state } := by
      rw [run, recipe_of_refuses refused]
    refine ⟨fun _ => ran, fun accepted => absurd refused accepted, ?_, logged⟩
    rw [ran]
    intro program text failed
    cases failed
  · obtain ⟨steps, planned⟩ : ∃ steps, toolchain.recipe workshop.path code = .ok steps :=
      exists_recipe refused
    have ran : toolchain.run workshop limit code state =
        Recipe.carryOut workshop limit (workshop.clock state + limit) {} state steps := by
      rw [run, planned]
      rfl
    refine ⟨fun refused' => absurd refused' refused, fun _ => ⟨steps, planned, ?_, ?_, ?_⟩, ?_,
      logged⟩
    · rw [ran]
      exact Recipe.carryOut_stopsAtFirstFailure ..
    · rw [ran]
      exact printsProgram_of_recipe planned
    · rw [ran]
      exact sourceFirst_of_recipe planned
    · rw [ran]
      exact tellsFailure_carryOut steps

/-- A C++ compiler that fails without a word, and Java code without a public class. -/
theorem run_stops_at_first_failure_unsaid :
    ¬ (cpp "g++").Refuses "int main() {}" ∧
    ((cpp "g++").run (.scripted fun _ => .ended (.exited 1) [] [10]) (.ofSeconds 30)
        "int main() {}" []).result = .error (.failed "g++" "g++ exited with exit status: 1") ∧
    Text.trim "g++ exited with exit status: 1" ≠ "" ∧
    ((cpp "g++").run (.scripted fun _ => .ended (.exited 1) [] [10]) (.ofSeconds 30)
        "int main() {}" []).started = [⟨"g++", ["/scratch/main.cpp", "-o", "/scratch/main"]⟩] ∧
    (∃ saved, (Workshop.scripted fun _ => .ended (.exited 1) [] [10]).load "main.cpp" saved =
      .ok (Text.Utf8.encode "int main() {}".toList)) ∧
    (java "javac" "java").Refuses "class Hidden {}" ∧
    (java "javac" "java").run (.scripted fun _ => .endless) (.ofSeconds 30) "class Hidden {}" [] =
      { result := .error .missingClassName, state := [] } := by
  have accepted : ¬ (cpp "g++").Refuses "int main() {}" := by
    rintro ⟨compiler, runtime, ⟨⟩, -⟩
  have refused : (java "javac" "java").Refuses "class Hidden {}" :=
    ⟨"javac", "java", rfl, by decide⟩
  obtain ⟨-, planned, tells, -⟩ := run_stops_at_first_failure (cpp "g++")
    (.scripted fun _ => .ended (.exited 1) [] [10]) (.ofSeconds 30) "int main() {}" []
  obtain ⟨steps, made, stops, -, source, first, rest, command, same, -, -, sourced⟩ :=
    planned accepted
  cases made
  cases same
  -- the source file is saved, and the compiler fails in time
  have failure : Recipe.FirstFailure (.scripted fun _ => .ended (.exited 1) [] [10])
      (.ofSeconds 30) (.ofSeconds 30) {} []
      [.save "main.cpp" (Text.Utf8.encode "int main() {}".toList)]
      (.build ⟨"g++", ["/scratch/main.cpp", "-o", "/scratch/main"]⟩)
      (.failed "g++" "g++ exited with exit status: 1") _ :=
    .failed (.cons (.saved rfl) (by decide) (.nil _ _))
      (.broken rfl rfl (.failed [] (by decide) (.silent (by decide)))) (by decide)
  have failed := (stops.fails_iff _).mpr ⟨_, _, _, _, rfl, failure⟩
  have started := (stops.stopped _ _ _ _ _ rfl failure).2
  obtain ⟨saved, -, held, -⟩ := sourced (by rw [started]; nofun)
  refine ⟨accepted, failed, (tells _ _ failed).2.1, started,
    ⟨saved, held (Workshop.scripted_keeps _)⟩, refused, ?_⟩
  exact (run_stops_at_first_failure (java "javac" "java") (.scripted fun _ => .endless)
    (.ofSeconds 30) "class Hidden {}" []).1 refused

end Toolchain

end Polyglot
