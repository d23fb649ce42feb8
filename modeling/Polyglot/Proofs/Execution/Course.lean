import Polyglot.Proofs.Execution.Recipe
import Polyglot.Proofs.Text.Lowercase
import Polyglot.Proofs.Text.Utf8

/-!
# The course of a recipe

What a process comes to is told from how it ended (`ProcessOutcome.Reading`), and what a step comes
to from what the workshop answers (`RecipeStep.Outcome`). Steps that all go well and in time are a
course (`Recipe.Course`); a step that a course leads to, and that goes wrong itself, is the first
failure (`Recipe.FirstFailure`). Every recipe has the one or the other (`course_or_firstFailure`),
and carrying it out follows (`carryOut_stopsAtFirstFailure`).
-/

namespace Polyglot

variable {σ : Type}

/-! ## Processes -/

/-- What is said of a process that failed: what it wrote to the error stream, or else its program
and how it ended. -/
inductive Complains (program : String) (status : ExitStatus) (stderr : List UInt8) : String → Prop
  | own {text : String} (decoded : String.ofList (Text.Utf8.decodeLossy stderr) = text)
      (written : Text.trim text ≠ "") : Complains program status stderr text
  | silent (blank : Text.trim (String.ofList (Text.Utf8.decodeLossy stderr)) = "") :
      Complains program status stderr (program ++ " exited with " ++ status.text)

theorem complains_iff {program : String} {status : ExitStatus} {stderr : List UInt8}
    {text : String} :
    Complains program status stderr text ↔ complaint program status stderr = text := by
  unfold complaint
  dsimp only
  constructor
  · rintro (⟨rfl, written⟩ | blank)
    · exact if_neg fun blank => written (Text.allBlank_iff.mp blank)
    · exact if_pos (Text.allBlank_iff.mpr blank)
  · rintro rfl
    split
    · next blank => exact .silent (Text.allBlank_iff.mp blank)
    · next written => exact .own rfl fun blank => written (Text.allBlank_iff.mpr blank)

/-- What a process wrote to the error stream is said word for word. -/
theorem Complains.eq_of_encode {program : String} {status : ExitStatus} {said text : String}
    (told : Complains program status (Text.Utf8.encode said.toList) text)
    (written : Text.trim said ≠ "") : text = said := by
  have decoded : String.ofList (Text.Utf8.decodeLossy (Text.Utf8.encode said.toList)) = said := by
    rw [Text.Utf8.decodeLossy_encode, String.ofList_toList]
  cases told with
  | own same _ => exact same.symm.trans decoded
  | silent blank =>
    rw [decoded] at blank
    exact absurd blank written

/-- Something is said of every process that failed. -/
theorem Complains.trim_ne_empty {program : String} {status : ExitStatus} {stderr : List UInt8}
    {text : String} (said : Complains program status stderr text) : Text.trim text ≠ "" := by
  cases said with
  | own decoded written => exact written
  | silent blank =>
    intro nothing
    -- the words between the program and the status are not blank, whatever these are
    have blanks := Text.allBlank_iff.mpr nothing
    rw [Text.allBlank, String.toList_append, String.toList_append, List.all_append, List.all_append,
      Bool.and_eq_true, Bool.and_eq_true] at blanks
    exact absurd blanks.1.2 (by decide)

/-- What a process comes to for a recipe. -/
inductive ProcessOutcome.Reading (program : String) (limit : Duration) :
    ProcessOutcome → Except ExecutionError String → Prop
  | printed (stdout stderr : List UInt8) :
      Reading program limit (.ended (.exited 0) stdout stderr)
        (.ok (String.ofList (Text.Utf8.decodeLossy stdout)))
  | failed {status : ExitStatus} {stderr : List UInt8} {text : String} (stdout : List UInt8)
      (bad : status ≠ .exited 0) (said : Complains program status stderr text) :
      Reading program limit (.ended status stdout stderr) (.error (.failed program text))
  | notStarted (cause : SystemError) :
      Reading program limit (.refused cause) (.error (.notStarted program cause))
  | endless : Reading program limit .endless (.error (.timeout limit))

theorem ProcessOutcome.reading_iff {program : String} {limit : Duration} {outcome : ProcessOutcome}
    {result : Except ExecutionError String} :
    outcome.Reading program limit result ↔ outcome.output program limit = result := by
  constructor
  · intro reading
    cases reading with
    | printed stdout stderr => rfl
    | @failed status stderr text stdout bad said =>
      -- only a process that ends with another status than zero complains
      have unsuccessful : ¬ status.isSuccess = true := fun success => bad (beq_iff_eq.mp success)
      rw [output, if_neg unsuccessful, complains_iff.mp said]
    | notStarted cause => rfl
    | endless => rfl
  · rintro rfl
    cases outcome with
    | refused cause => exact .notStarted cause
    | endless => exact .endless
    | ended status stdout stderr =>
      unfold output
      dsimp only
      split
      · next success =>
        obtain rfl : status = .exited 0 := beq_iff_eq.mp success
        exact .printed stdout stderr
      · next unsuccessful =>
        exact .failed stdout (fun same => unsuccessful (beq_iff_eq.mpr same))
          (complains_iff.mpr rfl)

theorem ProcessOutcome.exists_reading (program : String) (limit : Duration)
    (outcome : ProcessOutcome) : ∃ result, outcome.Reading program limit result :=
  ⟨outcome.output program limit, reading_iff.mpr rfl⟩

/-! ## Steps -/

/-- What a step comes to in a state of the workshop, with a product so far. -/
inductive RecipeStep.Outcome (workshop : Workshop σ) (limit : Duration) (product : Product)
    (state : σ) : RecipeStep → Except ExecutionError Product → σ → Prop
  | saved {name : String} {content : List UInt8} {later : σ}
      (answer : workshop.save name content state = (.ok (), later)) :
      Outcome workshop limit product state (.save name content) (.ok product) later
  | unsaved {name : String} {content : List UInt8} {cause : SystemError} {later : σ}
      (answer : workshop.save name content state = (.error cause, later)) :
      Outcome workshop limit product state (.save name content) (.error (.io cause)) later
  | built {command : Command} {process : ProcessOutcome} {stdout : String} {later : σ}
      (answer : workshop.start command state = (process, later))
      (reading : process.Reading command.program limit (.ok stdout)) :
      Outcome workshop limit product state (.build command) (.ok product) later
  | launched {command : Command} {process : ProcessOutcome} {stdout : String} {later : σ}
      (answer : workshop.start command state = (process, later))
      (reading : process.Reading command.program limit (.ok stdout)) :
      Outcome workshop limit product state (.launch command) (.ok { product with stdout }) later
  | broken {step : RecipeStep} {command : Command} {process : ProcessOutcome}
      {error : ExecutionError} {later : σ} (starts : step.command? = some command)
      (answer : workshop.start command state = (process, later))
      (reading : process.Reading command.program limit (.error error)) :
      Outcome workshop limit product state step (.error error) later
  | collected {name : String} {bytes : List UInt8}
      (answer : workshop.load name state = .ok bytes) :
      Outcome workshop limit product state (.collect name)
        (.ok { product with artifact := some bytes }) state
  | missing {name : String} (answer : workshop.load name state = .error .noSuchFile) :
      Outcome workshop limit product state (.collect name)
        (.error (.missingArtifact (workshop.path name))) state
  | unreadable {name : String} {cause : SystemError}
      (answer : workshop.load name state = .error cause) (other : cause ≠ .noSuchFile) :
      Outcome workshop limit product state (.collect name) (.error (.io cause)) state

namespace RecipeStep

variable {workshop : Workshop σ} {limit : Duration} {product next : Product} {state later : σ}
  {step : RecipeStep} {result : Except ExecutionError Product}

theorem Outcome.take (outcome : step.Outcome workshop limit product state result later) :
    step.take workshop limit product state = (result, later) := by
  cases outcome with
  | saved answer => simp only [RecipeStep.take, answer]
  | unsaved answer => simp only [RecipeStep.take, answer]
  | built answer reading =>
    simp only [RecipeStep.take, answer, ProcessOutcome.reading_iff.mp reading]
    rfl
  | launched answer reading =>
    simp only [RecipeStep.take, answer, ProcessOutcome.reading_iff.mp reading]
    rfl
  | broken starts answer reading =>
    -- only the steps that start a command can break in this way
    have failed := ProcessOutcome.reading_iff.mp reading
    cases step with
    | save name content => cases starts
    | collect name => cases starts
    | build command =>
      cases starts
      simp only [RecipeStep.take, answer, failed]
      rfl
    | launch command =>
      cases starts
      simp only [RecipeStep.take, answer, failed]
      rfl
  | collected answer => simp only [RecipeStep.take, answer]
  | missing answer =>
    simp only [RecipeStep.take, answer]
    rfl
  | unreadable answer other =>
    simp only [RecipeStep.take, answer]
    rw [if_neg other]

/-- Every step comes to something. -/
theorem exists_outcome (workshop : Workshop σ) (limit : Duration) (product : Product) (state : σ)
    (step : RecipeStep) :
    ∃ result later, step.Outcome workshop limit product state result later := by
  cases step with
  | save name content =>
    cases answer : workshop.save name content state with
    | mk written later =>
      cases written with
      | ok => exact ⟨_, later, .saved answer⟩
      | error cause => exact ⟨_, later, .unsaved answer⟩
  | build command =>
    obtain ⟨result, reading⟩ :=
      (workshop.start command state).1.exists_reading command.program limit
    cases result with
    | ok stdout => exact ⟨_, _, .built rfl reading⟩
    | error error => exact ⟨_, _, .broken rfl rfl reading⟩
  | launch command =>
    obtain ⟨result, reading⟩ :=
      (workshop.start command state).1.exists_reading command.program limit
    cases result with
    | ok stdout => exact ⟨_, _, .launched rfl reading⟩
    | error error => exact ⟨_, _, .broken rfl rfl reading⟩
  | collect name =>
    cases answer : workshop.load name state with
    | ok bytes => exact ⟨_, state, .collected answer⟩
    | error cause =>
      by_cases missing : cause = .noSuchFile
      · subst missing
        exact ⟨_, state, .missing answer⟩
      · exact ⟨_, state, .unreadable answer missing⟩

/-- Taking a step is what it comes to. -/
theorem outcome_iff :
    step.Outcome workshop limit product state result later ↔
      step.take workshop limit product state = (result, later) := by
  refine ⟨Outcome.take, fun taken => ?_⟩
  -- what the step comes to is also what taking it gives, and it gives one thing
  obtain ⟨result', later', outcome⟩ := exists_outcome workshop limit product state step
  obtain ⟨rfl, rfl⟩ := Prod.mk.inj (outcome.take.symm.trans taken)
  exact outcome

/-- Only the program that is launched prints. -/
theorem Outcome.stdout_eq (outcome : step.Outcome workshop limit product state (.ok next) later)
    (other : ∀ command, step ≠ .launch command) : next.stdout = product.stdout := by
  cases outcome with
  | launched answer reading => exact absurd rfl (other _)
  | saved answer => rfl
  | built answer reading => rfl
  | collected answer => rfl

/-- A program that is launched and ends well has printed what its process wrote. -/
theorem Outcome.printed {command : Command}
    (outcome : (launch command).Outcome workshop limit product state (.ok next) later) :
    ∃ stdout stderr, workshop.start command state = (.ended (.exited 0) stdout stderr, later) ∧
      next.stdout = String.ofList (Text.Utf8.decodeLossy stdout) := by
  cases outcome with
  | launched answer reading =>
    cases reading with
    | printed stdout stderr => exact ⟨stdout, stderr, answer, rfl⟩

/-- A step that tells of a failed process has started it. -/
theorem Outcome.process_failed {program text : String}
    (outcome : step.Outcome workshop limit product state (.error (.failed program text)) later) :
    ∃ command status stdout stderr, step.command? = some command ∧ command.program = program ∧
      workshop.start command state = (.ended status stdout stderr, later) ∧ status ≠ .exited 0 ∧
      Complains program status stderr text := by
  cases outcome with
  | broken starts answer reading =>
    cases reading with
    | failed stdout bad said => exact ⟨_, _, stdout, _, starts, rfl, answer, bad, said⟩

end RecipeStep

/-! ## Recipes -/

namespace Recipe

/-- Steps that are taken one after another, all of them well and in time. -/
inductive Course (workshop : Workshop σ) (limit deadline : Duration) :
    Product → σ → Recipe → Product → σ → Prop
  | nil (product : Product) (state : σ) :
      Course workshop limit deadline product state [] product state
  | cons {product next last : Product} {state later final : σ} {step : RecipeStep} {steps : Recipe}
      (outcome : step.Outcome workshop limit product state (.ok next) later)
      (early : (workshop.clock later).nanoseconds ≤ deadline.nanoseconds)
      (rest : Course workshop limit deadline next later steps last final) :
      Course workshop limit deadline product state (step :: steps) last final

/-- A course leads to a step that goes wrong: it fails, or time is up after it. -/
inductive FirstFailure (workshop : Workshop σ) (limit deadline : Duration) (product : Product)
    (state : σ) (before : Recipe) (step : RecipeStep) : ExecutionError → σ → Prop
  | failed {next : Product} {later final : σ} {error : ExecutionError}
      (course : Course workshop limit deadline product state before next later)
      (outcome : step.Outcome workshop limit next later (.error error) final)
      (early : (workshop.clock final).nanoseconds ≤ deadline.nanoseconds) :
      FirstFailure workshop limit deadline product state before step error final
  | late {next : Product} {later final : σ} {result : Except ExecutionError Product}
      (course : Course workshop limit deadline product state before next later)
      (outcome : step.Outcome workshop limit next later result final)
      (late : deadline.nanoseconds < (workshop.clock final).nanoseconds) :
      FirstFailure workshop limit deadline product state before step (.timeout limit) final

variable {workshop : Workshop σ} {limit deadline : Duration} {product next last : Product}
  {state later final : σ} {before steps : Recipe} {step : RecipeStep} {error : ExecutionError}

/-- A course starts all its commands and leads to what is after it. -/
theorem Course.carryOut_append
    (course : Course workshop limit deadline product state steps last final) (others : Recipe) :
    carryOut workshop limit deadline product state (steps ++ others) =
      let rest := carryOut workshop limit deadline last final others
      { rest with started := commands steps ++ rest.started } := by
  induction course with
  | nil product state => rfl
  | cons outcome early rest ih =>
    rw [List.cons_append, carryOut_cons_of_take _ outcome.take (Nat.not_lt.mpr early), ih,
      commands_cons]
    simp only [List.append_assoc]

/-- A recipe is carried out along its course. -/
theorem Course.carryOut_eq
    (course : Course workshop limit deadline product state steps last final) :
    carryOut workshop limit deadline product state steps =
      { result := .ok last, state := final, started := commands steps } := by
  have whole := course.carryOut_append []
  rw [List.append_nil] at whole
  rw [whole]
  simp only [carryOut, List.append_nil]

/-- The first failure is the end, whatever would come after it. -/
theorem FirstFailure.carryOut_eq
    (failure : FirstFailure workshop limit deadline product state before step error final)
    (after : Recipe) :
    carryOut workshop limit deadline product state (before ++ step :: after) =
      { result := .error error, state := final, started := commands (before ++ [step]) } := by
  have last : commands (before ++ [step]) = commands before ++ step.command?.toList := by
    rw [commands_append, commands_cons]
    simp only [commands, List.filterMap_nil, List.append_nil]
  rw [last]
  cases failure with
  | failed course outcome early =>
    rw [course.carryOut_append, carryOut_cons_of_error _ outcome.take (Nat.not_lt.mpr early)]
  | late course outcome late =>
    rw [course.carryOut_append, carryOut_cons_of_late _ outcome.take late]

/-- A failure after a first step that goes well. -/
theorem FirstFailure.cons {first : RecipeStep}
    (outcome : first.Outcome workshop limit product state (.ok next) later)
    (early : (workshop.clock later).nanoseconds ≤ deadline.nanoseconds)
    (failure : FirstFailure workshop limit deadline next later before step error final) :
    FirstFailure workshop limit deadline product state (first :: before) step error final := by
  cases failure with
  | failed course outcome' early' => exact .failed (.cons outcome early course) outcome' early'
  | late course outcome' late => exact .late (.cons outcome early course) outcome' late

/-- All steps go well, or there is a first that does not. -/
theorem course_or_firstFailure (workshop : Workshop σ) (limit deadline : Duration)
    (product : Product) (state : σ) (steps : Recipe) :
    (∃ last final, Course workshop limit deadline product state steps last final) ∨
    ∃ before step after error final, steps = before ++ step :: after ∧
      FirstFailure workshop limit deadline product state before step error final := by
  induction steps generalizing product state with
  | nil => exact .inl ⟨product, state, .nil product state⟩
  | cons step steps ih =>
    obtain ⟨result, later, outcome⟩ := step.exists_outcome workshop limit product state
    -- the first step is itself the failure, or it goes well and the failure is that of the others
    by_cases late : deadline.nanoseconds < (workshop.clock later).nanoseconds
    · exact .inr ⟨[], step, steps, _, later, rfl, .late (.nil product state) outcome late⟩
    have early := Nat.not_lt.mp late
    cases result with
    | error error =>
      exact .inr ⟨[], step, steps, error, later, rfl, .failed (.nil product state) outcome early⟩
    | ok next =>
      obtain ⟨last, final, course⟩ | ⟨before, failing, after, error, final, rfl, failure⟩ :=
        ih next later
      · exact .inl ⟨last, final, .cons outcome early course⟩
      · exact .inr ⟨step :: before, failing, after, error, final, rfl, failure.cons outcome early⟩

/-- A run follows its recipe up to the first failure: it succeeds exactly if all steps go well, and
otherwise ends with the error of the first that does not; the commands that were given are those
up to there. -/
structure StopsAtFirstFailure (workshop : Workshop σ) (limit deadline : Duration)
    (product : Product) (state : σ) (steps : Recipe) (run : RecipeRun σ) : Prop where
  succeeds_iff : ∀ last, run.result = .ok last ↔
    ∃ final, Course workshop limit deadline product state steps last final
  fails_iff : ∀ error, run.result = .error error ↔
    ∃ before step after final, steps = before ++ step :: after ∧
      FirstFailure workshop limit deadline product state before step error final
  completed : ∀ last final, Course workshop limit deadline product state steps last final →
    run.state = final ∧ run.started = commands steps
  stopped : ∀ before step after error final, steps = before ++ step :: after →
    FirstFailure workshop limit deadline product state before step error final →
      run.state = final ∧ run.started = commands (before ++ [step])

/-- Carrying out a recipe stops at the first failure. -/
theorem carryOut_stopsAtFirstFailure (workshop : Workshop σ) (limit deadline : Duration)
    (product : Product) (state : σ) (steps : Recipe) :
    StopsAtFirstFailure workshop limit deadline product state steps
      (carryOut workshop limit deadline product state steps) := by
  -- the result tells a course from a failure, so that each direction back is a case that is refuted
  have either := course_or_firstFailure workshop limit deadline product state steps
  constructor
  · intro last
    constructor
    · intro succeeded
      obtain ⟨last', final, course⟩ | ⟨before, step, after, error, final, rfl, failure⟩ := either
      · rw [course.carryOut_eq] at succeeded
        cases succeeded
        exact ⟨final, course⟩
      · rw [failure.carryOut_eq] at succeeded
        cases succeeded
    · rintro ⟨final, course⟩
      rw [course.carryOut_eq]
  · intro error
    constructor
    · intro failed
      obtain ⟨last, final, course⟩ | ⟨before, step, after, error', final, rfl, failure⟩ := either
      · rw [course.carryOut_eq] at failed
        cases failed
      · rw [failure.carryOut_eq] at failed
        cases failed
        exact ⟨before, step, after, final, rfl, failure⟩
    · rintro ⟨before, step, after, final, rfl, failure⟩
      rw [failure.carryOut_eq]
  · intro last final course
    rw [course.carryOut_eq]
    exact ⟨rfl, rfl⟩
  · rintro before step after error final rfl failure
    rw [failure.carryOut_eq]
    exact ⟨rfl, rfl⟩

/-- A course through two parts of a recipe is a course through the one and then the other. -/
theorem Course.split {first second : Recipe}
    (course : Course workshop limit deadline product state (first ++ second) last final) :
    ∃ next later, Course workshop limit deadline product state first next later ∧
      Course workshop limit deadline next later second last final := by
  induction first generalizing product state with
  | nil => exact ⟨product, state, .nil product state, course⟩
  | cons step steps ih =>
    cases course with
    | cons outcome early rest =>
      obtain ⟨next, later, front, back⟩ := ih rest
      exact ⟨next, later, .cons outcome early front, back⟩

/-- Nothing is printed on a course without a program that is launched. -/
theorem Course.stdout_eq (course : Course workshop limit deadline product state steps last final)
    (apart : ∀ command, .launch command ∉ steps) : last.stdout = product.stdout := by
  induction course with
  | nil product state => rfl
  | cons outcome early rest ih =>
    rw [ih fun command listed => apart command (List.mem_cons_of_mem _ listed)]
    exact outcome.stdout_eq fun command same => apart command (same ▸ List.mem_cons_self)

/-- On a course with one program that is launched, what is printed in the end is what that program
has printed. -/
theorem Course.printed {front back : Recipe} {program : Command}
    (course : Course workshop limit deadline product state (front ++ .launch program :: back)
      last final)
    (apart : ∀ command, .launch command ∉ back) :
    ∃ ready made after stdout stderr,
      Course workshop limit deadline product state front ready made ∧
      workshop.start program made = (.ended (.exited 0) stdout stderr, after) ∧
      last.stdout = String.ofList (Text.Utf8.decodeLossy stdout) := by
  obtain ⟨ready, made, prepared, onwards⟩ := course.split
  cases onwards with
  | cons outcome early rest =>
    obtain ⟨stdout, stderr, answer, printed⟩ := outcome.printed
    exact ⟨ready, made, _, stdout, stderr, prepared, answer, (rest.stdout_eq apart).trans printed⟩

end Recipe

end Polyglot
