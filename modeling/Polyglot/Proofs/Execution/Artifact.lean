import Polyglot.Execution.Toolchain
import Polyglot.Proofs.Execution.Recipe

/-!
# What a compiler leaves

Toolchains that compile have one way of building (`Toolchain.build?`) and two orders in which to go
on: those for Java and Go collect what the compiler left and then start the program, that for C++
starts the program first. `OutputKept` is what collecting first is for: without an output nothing is
started, and what is handed over is the output as the compiler left it, whatever the program does.
**`artifact_of_compiled`** says that this holds of the first order, and what holds of the other one;
`cpp_output_not_kept` has a missing output and an output that the program writes over.
-/

namespace Polyglot

variable {σ : Type}

/-- How code is built: the source file, the compiler's command, the file that the compiler is to
leave, and the command that runs it. -/
structure Build where
  source : String
  compiler : Command
  output : String
  program : Command
deriving DecidableEq, Repr

/-! ## Recipes that collect -/

/-- What is mapped to a success was one. -/
theorem exists_of_map_eq_ok {ε α β : Type} {f : α → β} {outcome : Except ε α} {b : β}
    (mapped : outcome.map f = .ok b) : ∃ a, outcome = .ok a ∧ f a = b := by
  cases outcome with
  | error error => cases mapped
  | ok a => exact ⟨a, rfl, Except.ok.inj mapped⟩

/-- No step but collecting changes the artifact. -/
theorem RecipeStep.artifact_of_take {workshop : Workshop σ} {limit : Duration}
    {product next : Product} {state later : σ} {step : RecipeStep}
    (taken : step.take workshop limit product state = (.ok next, later))
    (other : ∀ name, step ≠ .collect name) : next.artifact = product.artifact := by
  cases step with
  | save name content =>
    simp only [take] at taken
    cases saved : (workshop.save name content state).1 with
    | error cause =>
      rw [saved] at taken
      cases taken
    | ok written =>
      rw [saved] at taken
      cases taken
      rfl
  | build command =>
    obtain ⟨stdout, -, rfl⟩ := exists_of_map_eq_ok (congrArg Prod.fst taken)
    rfl
  | launch command =>
    obtain ⟨stdout, -, rfl⟩ := exists_of_map_eq_ok (congrArg Prod.fst taken)
    rfl
  | collect name => exact absurd rfl (other name)

namespace Recipe

variable {workshop : Workshop σ} {limit deadline : Duration} {product last : Product} {state : σ}
  {name : String}

/-- Only collecting changes the artifact. -/
theorem artifact_of_carryOut (steps : Recipe) (apart : ∀ name, .collect name ∉ steps)
    (succeeded : (carryOut workshop limit deadline product state steps).result = .ok last) :
    last.artifact = product.artifact := by
  induction steps generalizing product state with
  | nil =>
    cases succeeded
    rfl
  | cons step steps ih =>
    obtain ⟨next, later, taken, early⟩ | ⟨error, later, ended⟩ :=
      carryOut_cons_cases workshop limit deadline product state step
    · rw [carryOut_cons_of_take steps taken early] at succeeded
      rw [ih (fun name listed => apart name (List.mem_cons_of_mem _ listed)) succeeded]
      exact RecipeStep.artifact_of_take taken fun name same =>
        apart name (same ▸ List.mem_cons_self)
    · rw [ended] at succeeded
      cases succeeded

/-- A collected file is the artifact in the end, if no other is collected. -/
theorem artifact_of_collect (steps : Recipe) (apart : ∀ name, .collect name ∉ steps)
    (succeeded :
      (carryOut workshop limit deadline product state (.collect name :: steps)).result = .ok last) :
    ∃ bytes, workshop.load name state = .ok bytes ∧ last.artifact = some bytes := by
  obtain ⟨next, later, taken, early⟩ | ⟨error, later, ended⟩ :=
    carryOut_cons_cases workshop limit deadline product state (.collect name)
  · rw [carryOut_cons_of_take steps taken early] at succeeded
    -- no step behind this one collects anything
    have kept := artifact_of_carryOut steps apart succeeded
    simp only [RecipeStep.take] at taken
    cases loaded : workshop.load name state with
    | error cause =>
      rw [loaded] at taken
      simp only at taken
      split at taken
      · cases taken
      · cases taken
    | ok bytes =>
      rw [loaded] at taken
      cases taken
      exact ⟨bytes, rfl, kept⟩
  · rw [ended] at succeeded
    cases succeeded

/-- A file that is not there ends the recipe. -/
theorem carryOut_collect_of_missing (steps : Recipe)
    (early : ¬ deadline.nanoseconds < (workshop.clock state).nanoseconds)
    (missing : workshop.load name state = .error .noSuchFile) :
    carryOut workshop limit deadline product state (.collect name :: steps) =
      { result := .error (.missingArtifact (workshop.path name)), state } := by
  have taken : (RecipeStep.collect name).take workshop limit product state =
      (.error (.missingArtifact (workshop.path name)), state) := by
    simp only [RecipeStep.take, missing]
    rfl
  exact carryOut_cons_of_error steps taken early

end Recipe

/-! ## Builds -/

namespace Toolchain

/-- How code is built by a toolchain, if it builds it. -/
def build? (toolchain : Toolchain) (path : String → String) (code : String) : Option Build :=
  match toolchain with
  | interpreter _ _ => none
  | cpp compiler => some {
      source := "main.cpp"
      compiler := ⟨compiler, [path "main.cpp", "-o", path binaryName]⟩
      output := binaryName
      program := ⟨path binaryName, []⟩ }
  | java compiler runtime => (javaClassName? code).map fun className => {
      source := className ++ ".java"
      compiler := ⟨compiler, [path (className ++ ".java")]⟩
      output := className ++ ".class"
      program := ⟨runtime, [className]⟩ }
  | go program => some {
      source := "main.go"
      compiler := ⟨program, ["build", "-o", path binaryName, path "main.go"]⟩
      output := binaryName
      program := ⟨path binaryName, []⟩ }

/-- Whether the output is collected before the program is started. -/
def collectsFirst : Toolchain → Bool
  | cpp _ => false
  | _ => true

/-- What is done after compiling. -/
def ending (toolchain : Toolchain) (build : Build) : Recipe :=
  if toolchain.collectsFirst then [.collect build.output, .launch build.program]
  else [.launch build.program, .collect build.output]

variable {toolchain : Toolchain} {path : String → String} {code : String} {build : Build}

/-- Building is compiling, and then collecting and running in the toolchain's order. -/
theorem recipe_of_build? (planned : toolchain.build? path code = some build) :
    toolchain.recipe path code =
      .ok ([.save build.source (Text.Utf8.encode code.toList), .build build.compiler] ++
        toolchain.ending build) := by
  cases toolchain with
  | interpreter program fileExtension => cases planned
  | cpp compiler =>
    cases planned
    rfl
  | java compiler runtime =>
    obtain ⟨className, named, rfl⟩ := Option.map_eq_some_iff.mp planned
    simp only [recipe, named]
    rfl
  | go program =>
    cases planned
    rfl

/-- The compiler has ended well and in time, and the workshop is in the state `made` then. -/
structure Compiled (toolchain : Toolchain) (workshop : Workshop σ) (limit : Duration)
    (code : String) (state : σ) (build : Build) (made : σ) : Prop where
  planned : toolchain.build? workshop.path code = some build
  compiled : ∃ saved stdout stderr,
    workshop.save build.source (Text.Utf8.encode code.toList) state = (.ok (), saved) ∧
    (workshop.clock saved).nanoseconds ≤ (workshop.clock state + limit).nanoseconds ∧
    workshop.start build.compiler saved = (.ended (.exited 0) stdout stderr, made)
  early : (workshop.clock made).nanoseconds ≤ (workshop.clock state + limit).nanoseconds

variable {workshop : Workshop σ} {limit : Duration} {state made : σ}

/-- After the compiler the recipe goes on with the workshop as the compiler left it. -/
theorem run_of_compiled (compiled : toolchain.Compiled workshop limit code state build made) :
    toolchain.run workshop limit code state =
      let rest := Recipe.carryOut workshop limit (workshop.clock state + limit) {} made
        (toolchain.ending build)
      { rest with started := build.compiler :: rest.started } := by
  obtain ⟨saved, stdout, stderr, wrote, soon, ended⟩ := compiled.compiled
  -- the recipe begins with saving the source and compiling it
  have first : (RecipeStep.save build.source (Text.Utf8.encode code.toList)).take workshop limit {}
      state = (.ok {}, saved) := by
    simp only [RecipeStep.take, wrote]
  have second : (RecipeStep.build build.compiler).take workshop limit {} saved =
      (.ok {}, made) := by
    simp only [RecipeStep.take, ended]
    rfl
  have prepared : Recipe.carryOut workshop limit (workshop.clock state + limit) {} state
      [.save build.source (Text.Utf8.encode code.toList), .build build.compiler] =
        { result := .ok {}, state := made, started := [build.compiler] } := by
    rw [Recipe.carryOut_cons_of_take _ first (Nat.not_lt.mpr soon),
      Recipe.carryOut_cons_of_take _ second (Nat.not_lt.mpr compiled.early)]
    rfl
  rw [run, recipe_of_build? compiled.planned]
  dsimp only
  rw [Recipe.run, Recipe.carryOut_append, prepared]
  rfl

/-- Without an output the program is not started, and what a run that succeeds hands over is the
output that the compiler left. -/
structure OutputKept (workshop : Workshop σ) (build : Build) (made : σ) (run : RecipeRun σ) :
    Prop where
  missing : workshop.load build.output made = .error .noSuchFile →
    run.result = .error (.missingArtifact (workshop.path build.output)) ∧
      run.started = [build.compiler]
  kept : ∀ product, run.result = .ok product →
    ∃ bytes, workshop.load build.output made = .ok bytes ∧ product.artifact = some bytes

/-- A toolchain that collects first keeps the output from the program. -/
theorem outputKept_of_collectsFirst
    (compiled : toolchain.Compiled workshop limit code state build made)
    (collects : toolchain.collectsFirst = true) :
    OutputKept workshop build made (toolchain.run workshop limit code state) := by
  rw [run_of_compiled compiled, ending, if_pos collects]
  constructor
  · intro missing
    rw [Recipe.carryOut_collect_of_missing _ (Nat.not_lt.mpr compiled.early) missing]
    exact ⟨rfl, rfl⟩
  · intro product succeeded
    exact Recipe.artifact_of_collect _ (by simp) succeeded

/-- A toolchain that runs first starts the program whether it is there or not, and hands over what
the program leaves of the output. -/
theorem output_of_runsFirst
    (compiled : toolchain.Compiled workshop limit code state build made)
    (runs : toolchain.collectsFirst = false) :
    (toolchain.run workshop limit code state).started = [build.compiler, build.program] ∧
      ∀ product, (toolchain.run workshop limit code state).result = .ok product →
        ∃ bytes, workshop.load build.output (workshop.start build.program made).2 = .ok bytes ∧
          product.artifact = some bytes := by
  rw [run_of_compiled compiled, ending, runs, if_neg Bool.false_ne_true]
  obtain ⟨next, later, taken, early⟩ | ⟨error, later, ended⟩ :=
    Recipe.carryOut_cons_cases workshop limit (workshop.clock state + limit) {} made
      (.launch build.program)
  · rw [Recipe.carryOut_cons_of_take _ taken early]
    obtain rfl : (workshop.start build.program made).2 = later := congrArg Prod.snd taken
    refine ⟨?_, fun product succeeded => Recipe.artifact_of_collect [] (by simp) succeeded⟩
    -- collecting gives no command
    have quiet : (Recipe.carryOut workshop limit (workshop.clock state + limit) next
        (workshop.start build.program made).2 [.collect build.output]).started = [] :=
      List.prefix_nil.mp (Recipe.started_isPrefix [.collect build.output])
    dsimp only
    rw [quiet]
    rfl
  · rw [ended]
    exact ⟨rfl, nofun⟩

/-- Of a compiler that ends well, the toolchains for Java and Go keep the output from the program;
that for C++ starts the program in any case and hands over what the program leaves. -/
theorem artifact_of_compiled
    (compiled : toolchain.Compiled workshop limit code state build made) :
    ((∀ compiler, toolchain ≠ .cpp compiler) →
      OutputKept workshop build made (toolchain.run workshop limit code state)) ∧
    ∀ compiler, toolchain = .cpp compiler →
      (toolchain.run workshop limit code state).started = [build.compiler, build.program] ∧
      ∀ product, (toolchain.run workshop limit code state).result = .ok product →
        ∃ bytes, workshop.load build.output (workshop.start build.program made).2 = .ok bytes ∧
          product.artifact = some bytes := by
  constructor
  · intro other
    refine outputKept_of_collectsFirst compiled ?_
    cases toolchain with
    | cpp compiler => exact absurd rfl (other compiler)
    | interpreter program fileExtension => rfl
    | java compiler runtime => rfl
    | go program => rfl
  · rintro compiler rfl
    exact output_of_runsFirst compiled rfl

/-! ## Missing and overwritten outputs -/

/-- How Go code is built in the scratch directory. -/
def goBuild : Build where
  source := "main.go"
  compiler := ⟨"go", ["build", "-o", "/scratch/main", "/scratch/main.go"]⟩
  output := "main"
  program := ⟨"/scratch/main", []⟩

/-- A Go compiler that leaves nothing, and one whose binary writes over itself. -/
theorem artifact_of_compiled_go :
    (go "go").Compiled (.ofBinary none none) (.ofSeconds 30) "package main" none goBuild none ∧
    ((go "go").run (.ofBinary none none) (.ofSeconds 30) "package main" none).result =
      .error (.missingArtifact "/scratch/main") ∧
    (go "go").Compiled (.ofBinary (some [1]) (some [2])) (.ofSeconds 30) "package main" none
      goBuild (some [1]) ∧
    ((go "go").run (.ofBinary (some [1]) (some [2])) (.ofSeconds 30) "package main" none).result =
      .ok { artifact := some [1] } := by
  have nothing : (go "go").Compiled (.ofBinary none none) (.ofSeconds 30) "package main" none
      goBuild none :=
    ⟨rfl, ⟨none, [], [], rfl, by decide, rfl⟩, by decide⟩
  have overwriting : (go "go").Compiled (.ofBinary (some [1]) (some [2])) (.ofSeconds 30)
      "package main" none goBuild (some [1]) :=
    ⟨rfl, ⟨none, [], [], rfl, by decide, rfl⟩, by decide⟩
  obtain ⟨kept, -⟩ := artifact_of_compiled nothing
  exact ⟨nothing, ((kept (by simp)).missing rfl).1, overwriting, rfl⟩

/-- How C++ code is built in the scratch directory. -/
def cppBuild : Build where
  source := "main.cpp"
  compiler := ⟨"g++", ["/scratch/main.cpp", "-o", "/scratch/main"]⟩
  output := "main"
  program := ⟨"/scratch/main", []⟩

/-- The toolchain for C++ starts a binary that is not there, and hands over what a binary has
written over itself. -/
theorem cpp_output_not_kept :
    ((cpp "g++").Compiled (.ofBinary none none) (.ofSeconds 30) "int main() {}" none cppBuild none ∧
      ¬ OutputKept (.ofBinary none none) cppBuild none
        ((cpp "g++").run (.ofBinary none none) (.ofSeconds 30) "int main() {}" none)) ∧
    ((cpp "g++").Compiled (.ofBinary (some [1]) (some [2])) (.ofSeconds 30) "int main() {}" none
        cppBuild (some [1]) ∧
      ¬ OutputKept (.ofBinary (some [1]) (some [2])) cppBuild (some [1])
        ((cpp "g++").run (.ofBinary (some [1]) (some [2])) (.ofSeconds 30) "int main() {}"
          none)) := by
  refine ⟨⟨⟨rfl, ⟨none, [], [], rfl, by decide, rfl⟩, by decide⟩, ?_⟩,
    ⟨⟨rfl, ⟨none, [], [], rfl, by decide, rfl⟩, by decide⟩, ?_⟩⟩
  · intro contract
    have refused : ((cpp "g++").run (.ofBinary none none) (.ofSeconds 30) "int main() {}"
        none).result = .error (.notStarted "/scratch/main" .noSuchFile) := rfl
    cases refused.symm.trans (contract.missing rfl).1
  · intro contract
    have succeeded : ((cpp "g++").run (.ofBinary (some [1]) (some [2])) (.ofSeconds 30)
        "int main() {}" none).result = .ok { artifact := some [2] } := rfl
    obtain ⟨bytes, left, same⟩ := contract.kept _ succeeded
    cases left
    cases same

end Toolchain

end Polyglot
