import Polyglot.Execution.Recipe

/-!
# Carrying out recipes

A recipe that falls into two parts is carried out part by part (`carryOut_append`), and one step
that succeeds in time hands its product on to the others (`carryOut_cons_of_take`). What is started
are the first commands of the recipe, one after the other (`started_isPrefix`), and that is all that
the workshop is asked to start: a workshop that keeps a log of its commands (`Workshop.logged`) logs
those and no others (`carryOut_logged`).
-/

namespace Polyglot

variable {σ : Type}

/-! ## Workshops -/

/-- A workshop with one file, the binary. Every program but the binary leaves `made` in its place,
and the binary, which can be started if it is there, leaves `left`. -/
def Workshop.ofBinary (made left : Option (List UInt8)) : Workshop (Option (List UInt8)) where
  directory := "/scratch"
  save _ _ file := (.ok (), file)
  load _ file :=
    match file with
    | some bytes => .ok bytes
    | none => .error .noSuchFile
  start command file :=
    if command.program = "/scratch/main" then
      match file with
      | some _ => (.ended (.exited 0) [] [], left)
      | none => (.refused .noSuchFile, none)
    else (.ended (.exited 0) [] [], made)
  clock _ := .zero

/-- The workshop with a log of the commands that it is given. -/
def Workshop.logged (workshop : Workshop σ) : Workshop (σ × List Command) where
  directory := workshop.directory
  save name content state :=
    let (result, later) := workshop.save name content state.1
    (result, later, state.2)
  load name state := workshop.load name state.1
  start command state :=
    let (outcome, later) := workshop.start command state.1
    (outcome, later, state.2 ++ [command])
  clock state := workshop.clock state.1

/-- A step is logged if it is a command. -/
theorem RecipeStep.take_logged (workshop : Workshop σ) (limit : Duration) (product : Product)
    (state : σ) (log : List Command) (step : RecipeStep) :
    step.take workshop.logged limit product (state, log) =
      ((step.take workshop limit product state).1, (step.take workshop limit product state).2,
        log ++ step.command?.toList) := by
  cases step with
  | save name content =>
    simp only [take, Workshop.logged, command?, Option.toList_none, List.append_nil]
    split <;> rfl
  | build command => rfl
  | launch command => rfl
  | collect name =>
    simp only [take, Workshop.logged, command?, Option.toList_none, List.append_nil]
    split
    · rfl
    · split <;> rfl

namespace Recipe

variable {workshop : Workshop σ} {limit deadline : Duration} {product : Product} {state : σ}

/-- The commands of a recipe, in order. -/
def commands (recipe : Recipe) : List Command :=
  recipe.filterMap (·.command?)

theorem commands_cons (step : RecipeStep) (steps : Recipe) :
    commands (step :: steps) = step.command?.toList ++ commands steps := by
  rw [commands, List.filterMap_cons]
  cases step.command? <;> rfl

theorem commands_append (first second : Recipe) :
    commands (first ++ second) = commands first ++ commands second :=
  List.filterMap_append

/-! ## Steps -/

/-- A step that succeeds in time hands over to the others. -/
theorem carryOut_cons_of_take {step : RecipeStep} {next : Product} {later : σ} (steps : Recipe)
    (taken : step.take workshop limit product state = (.ok next, later))
    (early : ¬ deadline.nanoseconds < (workshop.clock later).nanoseconds) :
    carryOut workshop limit deadline product state (step :: steps) =
      let rest := carryOut workshop limit deadline next later steps
      { rest with started := step.command?.toList ++ rest.started } := by
  simp only [carryOut, taken]
  rw [if_neg early]

/-- A step that fails in time is the last. -/
theorem carryOut_cons_of_error {step : RecipeStep} {error : ExecutionError} {later : σ}
    (steps : Recipe) (taken : step.take workshop limit product state = (.error error, later))
    (early : ¬ deadline.nanoseconds < (workshop.clock later).nanoseconds) :
    carryOut workshop limit deadline product state (step :: steps) =
      { result := .error error, state := later, started := step.command?.toList } := by
  simp only [carryOut, taken]
  rw [if_neg early]

/-- A step after which time is up is the last. -/
theorem carryOut_cons_of_late {step : RecipeStep} {result : Except ExecutionError Product}
    {later : σ} (steps : Recipe)
    (taken : step.take workshop limit product state = (result, later))
    (late : deadline.nanoseconds < (workshop.clock later).nanoseconds) :
    carryOut workshop limit deadline product state (step :: steps) =
      { result := .error (.timeout limit), state := later, started := step.command?.toList } := by
  simp only [carryOut, taken]
  rw [if_pos late]

/-- What became of the first step of a recipe. -/
theorem carryOut_cons_cases (workshop : Workshop σ) (limit deadline : Duration) (product : Product)
    (state : σ) (step : RecipeStep) :
    (∃ next later, step.take workshop limit product state = (.ok next, later) ∧
      ¬ deadline.nanoseconds < (workshop.clock later).nanoseconds) ∨
    ∃ error later, ∀ steps, carryOut workshop limit deadline product state (step :: steps) =
      { result := .error error, state := later, started := step.command?.toList } := by
  cases taken : step.take workshop limit product state with
  | mk result later =>
    by_cases late : deadline.nanoseconds < (workshop.clock later).nanoseconds
    · exact .inr ⟨_, later, fun steps => carryOut_cons_of_late steps taken late⟩
    · cases result with
      | error error =>
        exact .inr ⟨error, later, fun steps => carryOut_cons_of_error steps taken late⟩
      | ok next => exact .inl ⟨next, later, rfl, late⟩

/-! ## Recipes -/

/-- The second part of a recipe is carried out if the first succeeds, from where that ended. -/
theorem carryOut_append (first second : Recipe) :
    carryOut workshop limit deadline product state (first ++ second) =
      let run := carryOut workshop limit deadline product state first
      match run.result with
      | .error _ => run
      | .ok product =>
        let rest := carryOut workshop limit deadline product run.state second
        { rest with started := run.started ++ rest.started } := by
  induction first generalizing product state with
  | nil => rfl
  | cons step steps ih =>
    rw [List.cons_append]
    -- a step that ends the first part ends the whole
    rcases carryOut_cons_cases workshop limit deadline product state step with
      ⟨next, later, taken, early⟩ | ⟨error, later, ended⟩
    · rw [carryOut_cons_of_take _ taken early, carryOut_cons_of_take _ taken early, ih]
      obtain ⟨result, later, started⟩ := carryOut workshop limit deadline next later steps
      cases result with
      | error error => rfl
      | ok product => simp only [List.append_assoc]
    · rw [ended, ended]

/-- The commands that are given are the first ones of the recipe. -/
theorem started_isPrefix (recipe : Recipe) :
    (carryOut workshop limit deadline product state recipe).started <+: recipe.commands := by
  induction recipe generalizing product state with
  | nil => exact List.prefix_rfl
  | cons step steps ih =>
    rw [commands_cons]
    rcases carryOut_cons_cases workshop limit deadline product state step with
      ⟨next, later, taken, early⟩ | ⟨error, later, ended⟩
    · rw [carryOut_cons_of_take _ taken early]
      exact (List.prefix_append_right_inj _).mpr ih
    · rw [ended]
      exact List.prefix_append _ _

/-- A recipe is carried out in a workshop with a log as in one without, and the commands that were
given are added to the log. -/
theorem carryOut_logged (log : List Command) (recipe : Recipe) :
    carryOut workshop.logged limit deadline product (state, log) recipe =
      let run := carryOut workshop limit deadline product state recipe
      { result := run.result
        state := (run.state, log ++ run.started)
        started := run.started } := by
  induction recipe generalizing product state log with
  | nil => simp only [carryOut, List.append_nil]
  | cons step steps ih =>
    have logged := step.take_logged workshop limit product state log
    cases taken : step.take workshop limit product state with
    | mk result later =>
      rw [taken] at logged
      by_cases late : deadline.nanoseconds < (workshop.clock later).nanoseconds
      · rw [carryOut_cons_of_late steps taken late, carryOut_cons_of_late steps logged late]
      · cases result with
        | error error =>
          rw [carryOut_cons_of_error steps taken late, carryOut_cons_of_error steps logged late]
        | ok next =>
          rw [carryOut_cons_of_take steps taken late, carryOut_cons_of_take steps logged late, ih]
          simp only [List.append_assoc]

end Recipe

end Polyglot
