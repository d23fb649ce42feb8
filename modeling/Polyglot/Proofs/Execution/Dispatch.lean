import Polyglot.Proofs.Execution.Recipe
import Polyglot.Proofs.Execution.Registration
import Polyglot.Proofs.Language.Validity

/-!
# What is started for a snippet

A snippet is cleared for a toolchain (`Cleared`) if it is not blank, its language is known, a
profile of the language accepts it, and the toolchain is the one that was registered last for the
language. Every other snippet is refused with a message (`Refused`). **`run_guarded`** says that a
dispatcher over the built-in languages starts nothing and changes nothing for a snippet that is
refused, and for one that is cleared it starts the programs of the toolchain and what these were
told to build (`Toolchain.Owns`), and nothing else.
-/

namespace Polyglot

variable {σ : Type}

/-! ## A toolchain's own commands -/

/-- What stands in a list behind something is its first element, behind nothing, or stands behind
that in the others. -/
theorem concat_prefix_cons {α : Type} {earlier rest : List α} {a first : α}
    (given : earlier ++ [a] <+: first :: rest) :
    (earlier = [] ∧ a = first) ∨ ∃ others, earlier = first :: others ∧ others ++ [a] <+: rest := by
  cases earlier with
  | nil => exact .inl ⟨rfl, (List.cons_prefix_cons.mp given).1⟩
  | cons other others =>
    obtain ⟨rfl, left⟩ := List.cons_prefix_cons.mp given
    exact .inr ⟨others, rfl, left⟩

theorem concat_prefix_singleton {α : Type} {earlier : List α} {a first : α}
    (given : earlier ++ [a] <+: [first]) : earlier = [] ∧ a = first := by
  obtain same | ⟨others, -, left⟩ := concat_prefix_cons given
  · exact same
  · exact absurd (List.prefix_nil.mp left) (List.concat_ne_nil _ _)

namespace Toolchain

variable {toolchain : Toolchain} {path : String → String} {earlier : List Command}
  {command : Command} {code : String}

/-- The programs that a toolchain consists of. -/
def programs : Toolchain → List String
  | interpreter program _ => [program]
  | cpp compiler => [compiler]
  | java compiler runtime => [compiler, runtime]
  | go program => [program]

/-- After the commands `earlier`, the command starts a program of the toolchain, or a binary that
such a program was told to write. -/
inductive Owns (toolchain : Toolchain) (earlier : List Command) (command : Command) : Prop
  | program (own : command.program ∈ toolchain.programs)
  | binary (maker : Command) (before : maker ∈ earlier) (own : maker.program ∈ toolchain.programs)
      (told : ["-o", command.program] <:+: maker.arguments)

/-- A recipe has commands of its toolchain only. -/
theorem owns_of_recipe {steps : Recipe} (made : toolchain.recipe path code = .ok steps)
    (given : earlier ++ [command] <+: steps.commands) : toolchain.Owns earlier command := by
  cases toolchain with
  | interpreter program fileExtension =>
    cases made
    obtain ⟨-, rfl⟩ := concat_prefix_singleton given
    exact .program (List.mem_singleton_self _)
  | cpp compiler =>
    cases made
    obtain ⟨-, rfl⟩ | ⟨others, rfl, left⟩ := concat_prefix_cons given
    · exact .program (List.mem_singleton_self _)
    · -- the second command starts what the first was told to write
      obtain ⟨rfl, rfl⟩ := concat_prefix_singleton left
      exact .binary _ (List.mem_singleton_self _) (List.mem_singleton_self _)
        ⟨[path "main.cpp"], [], rfl⟩
  | java compiler runtime =>
    unfold recipe at made
    simp only at made
    split at made
    · cases made
    · cases made
      obtain ⟨-, rfl⟩ | ⟨others, -, left⟩ := concat_prefix_cons given
      · exact .program List.mem_cons_self
      · obtain ⟨-, rfl⟩ := concat_prefix_singleton left
        exact .program (List.mem_cons_of_mem _ (List.mem_singleton_self _))
  | go program =>
    cases made
    obtain ⟨-, rfl⟩ | ⟨others, rfl, left⟩ := concat_prefix_cons given
    · exact .program (List.mem_singleton_self _)
    · obtain ⟨rfl, rfl⟩ := concat_prefix_singleton left
      exact .binary _ (List.mem_singleton_self _) (List.mem_singleton_self _)
        ⟨["build"], [path "main.go"], rfl⟩

variable {workshop : Workshop σ} {limit : Duration} {state : σ}

/-- A toolchain starts its own commands only. -/
theorem owns_of_started
    (given : earlier ++ [command] <+: (toolchain.run workshop limit code state).started) :
    toolchain.Owns earlier command := by
  unfold run at given
  split at given
  · exact absurd (List.prefix_nil.mp given) (List.concat_ne_nil _ _)
  · next steps made => exact owns_of_recipe made (given.trans (Recipe.started_isPrefix steps))

/-- What a toolchain is said to have started is what it asked the workshop to start. -/
theorem run_logged (toolchain : Toolchain) (workshop : Workshop σ) (limit : Duration)
    (code : String) (state : σ) (log : List Command) :
    toolchain.run workshop.logged limit code (state, log) =
      let run := toolchain.run workshop limit code state
      { result := run.result
        state := (run.state, log ++ run.started)
        started := run.started } := by
  -- a log has no part in where files are, so the recipe is the same
  have same : workshop.logged.path = workshop.path := rfl
  unfold run
  rw [same]
  cases toolchain.recipe workshop.path code with
  | error error => simp only [List.append_nil]
  | ok steps => exact Recipe.carryOut_logged log steps

end Toolchain

namespace Dispatcher

variable {registry : Registry} {dispatcher : Dispatcher} {calls : List (String × Toolchain)}
  {code name : String} {language : Language} {toolchain : Toolchain} {report : ExecutionReport}

/-! ## Verdicts -/

/-- The snippet may be run, and this is how. -/
structure Cleared (registry : Registry) (calls : List (String × Toolchain)) (code name : String)
    (language : Language) (toolchain : Toolchain) : Prop where
  given : Text.trim code ≠ ""
  resolved : registry.resolve name = some language
  accepted : ∃ profile ∈ registry.profiles, profile.language = language ∧
    profile.accepts (.ofString code) = true
  registered : registered? registry calls language = some toolchain

/-- There is one way to run a snippet at most. -/
theorem Cleared.toolchain_unique {other : Language} {another : Toolchain}
    (cleared : Cleared registry calls code name language toolchain)
    (again : Cleared registry calls code name other another) : toolchain = another := by
  obtain rfl : language = other :=
    Option.some.inj (cleared.resolved.symm.trans again.resolved)
  exact Option.some.inj (cleared.registered.symm.trans again.registered)

/-- The report on a snippet that is not run. -/
inductive Refused (registry : Registry) (calls : List (String × Toolchain)) (code name : String) :
    ExecutionReport → Prop
  | blank (nothing : Text.trim code = "") :
      Refused registry calls code name { text := "No code to execute." }
  | mislabeled (given : Text.trim code ≠ "")
      (invalid : (registry.validate code name).isValid = false) :
      Refused registry calls code name
        { text := "⚠️ Error: Cannot execute code.\n" ++ (registry.validate code name).explanation }
  | unimplemented (given : Text.trim code ≠ "")
      (without : ∀ language, registry.resolve name = some language →
        registered? registry calls language = none) :
      Refused registry calls code name { text := "Execution not implemented for " ++ name }

/-- A refusal is a message and nothing else. -/
theorem Refused.artifact_eq_none (refused : Refused registry calls code name report) :
    report.artifact = none := by
  cases refused <;> rfl

/-- A mislabeled snippet is one that no profile of its language accepts. -/
theorem Refused.not_cleared (refused : Refused .builtin calls code name report) :
    ¬ Cleared .builtin calls code name language toolchain := by
  intro cleared
  cases refused with
  | blank nothing => exact cleared.given nothing
  | mislabeled given invalid =>
    have valid := (Registry.builtin_validate_isValid_iff (Text.ne_empty_of_trim given)
      cleared.resolved).mpr cleared.accepted
    rw [invalid] at valid
    cases valid
  | unimplemented _ without => cases (without _ cleared.resolved).symm.trans cleared.registered

/-! ## Runs -/

/-- Only a run that succeeded has an artifact to hand over. -/
theorem exists_product_of_reported {workshop : Workshop σ} {limit : Duration} {state : σ}
    {bytes : List UInt8}
    (handed :
      (reported (execution toolchain workshop limit code state)).report.artifact = some bytes) :
    ∃ product, (toolchain.run workshop limit code state).result = .ok product ∧
      product.artifact = some bytes := by
  simp only [reported, execution] at handed
  cases outcome : (toolchain.run workshop limit code state).result with
  | error error =>
    rw [outcome] at handed
    cases handed
  | ok product =>
    rw [outcome] at handed
    exact ⟨product, rfl, handed⟩

/-- A snippet that is cleared is run by its toolchain, and one that is refused is not run. -/
theorem run_cases (equipped : Equipped .builtin dispatcher calls) (workshop : Workshop σ)
    (code name : String) (state : σ) :
    (∃ language toolchain, Cleared .builtin calls code name language toolchain ∧
      dispatcher.run workshop code name state =
        reported (execution toolchain workshop dispatcher.timeout code state)) ∨
    ∃ report, Refused .builtin calls code name report ∧
      dispatcher.run workshop code name state = { report, state } := by
  unfold run
  rw [equipped.holds.registry_eq]
  -- each check either refuses the run, without touching the workshop, or leaves it to the next
  by_cases nothing : Text.allBlank code = true
  · rw [if_pos nothing]
    exact .inr ⟨_, .blank (Text.allBlank_iff.mp nothing), rfl⟩
  · rw [if_neg nothing]
    have given : Text.trim code ≠ "" := fun blank => nothing (Text.allBlank_iff.mpr blank)
    dsimp only
    cases valid : (Registry.builtin.validate code name).isValid with
    | false => exact .inr ⟨_, .mislabeled given valid, rfl⟩
    | true =>
      rw [Bool.not_true, if_neg Bool.false_ne_true]
      cases resolved : Registry.builtin.resolve name with
      | none =>
        refine .inr ⟨_, .unimplemented given ?_, rfl⟩
        rw [resolved]
        nofun
      | some language =>
        have registered := toolchain?_of_equipped equipped language
        simp only [execute?]
        cases held : dispatcher.toolchain? language with
        | none =>
          refine .inr ⟨_, .unimplemented given ?_, rfl⟩
          intro other same
          cases resolved.symm.trans same
          exact registered.symm.trans held
        | some toolchain =>
          refine .inl ⟨language, toolchain, ⟨given, resolved, ?_, registered.symm.trans held⟩, rfl⟩
          exact (Registry.builtin_validate_isValid_iff (Text.ne_empty_of_trim given)
            resolved).mp valid

/-- A snippet that is cleared is run by its toolchain. -/
theorem run_of_cleared (equipped : Equipped .builtin dispatcher calls)
    (cleared : Cleared .builtin calls code name language toolchain) (workshop : Workshop σ)
    (state : σ) :
    dispatcher.run workshop code name state =
      reported (execution toolchain workshop dispatcher.timeout code state) := by
  obtain ⟨language', toolchain', cleared', ran⟩ | ⟨report, refused, -⟩ :=
    run_cases equipped workshop code name state
  · obtain rfl := cleared.toolchain_unique cleared'
    exact ran
  · exact absurd cleared refused.not_cleared

/-- A snippet that is not cleared is refused. -/
theorem run_of_not_cleared (equipped : Equipped .builtin dispatcher calls)
    (held : ¬ ∃ language toolchain, Cleared .builtin calls code name language toolchain)
    (workshop : Workshop σ) (state : σ) :
    ∃ report, Refused .builtin calls code name report ∧
      dispatcher.run workshop code name state = { report, state } := by
  obtain ⟨language, toolchain, cleared, -⟩ | refused :=
    run_cases equipped workshop code name state
  · exact absurd ⟨language, toolchain, cleared⟩ held
  · exact refused

/-- What a dispatcher is said to have started is what it asked the workshop to start. -/
theorem run_logged (equipped : Equipped .builtin dispatcher calls) (workshop : Workshop σ)
    (code name : String) (state : σ) (log : List Command) :
    (dispatcher.run workshop.logged code name (state, log)).state =
      ((dispatcher.run workshop code name state).state,
        log ++ (dispatcher.run workshop code name state).started) := by
  by_cases cleared : ∃ language toolchain, Cleared .builtin calls code name language toolchain
  · obtain ⟨language, toolchain, cleared⟩ := cleared
    rw [run_of_cleared equipped cleared, run_of_cleared equipped cleared, reported, reported,
      execution, execution, toolchain.run_logged]
  · obtain ⟨report, -, ran⟩ := run_of_not_cleared equipped cleared workshop state
    obtain ⟨report', -, ran'⟩ := run_of_not_cleared equipped cleared workshop.logged (state, log)
    rw [ran, ran', List.append_nil]

/-- Nothing is started or changed for a snippet unless it is not blank, its language is known, a
profile of the language accepts it and a toolchain is registered for the language; what is started
then is the toolchain's own, and what is handed over is the artifact of a run that succeeded. -/
theorem run_guarded (equipped : Equipped .builtin dispatcher calls) (workshop : Workshop σ)
    (code name : String) (state : σ) :
    ((dispatcher.run workshop code name state).started ≠ [] →
      ∃ language toolchain, Cleared .builtin calls code name language toolchain) ∧
    (∀ language toolchain, Cleared .builtin calls code name language toolchain →
      dispatcher.run workshop code name state =
        reported (execution toolchain workshop dispatcher.timeout code state) ∧
      ∀ earlier command,
        earlier ++ [command] <+: (dispatcher.run workshop code name state).started →
          toolchain.Owns earlier command) ∧
    ((¬ ∃ language toolchain, Cleared .builtin calls code name language toolchain) →
      ∃ report, Refused .builtin calls code name report ∧ report.artifact = none ∧
        dispatcher.run workshop code name state = { report, state }) ∧
    (∀ bytes, (dispatcher.run workshop code name state).report.artifact = some bytes →
      ∃ language toolchain product, Cleared .builtin calls code name language toolchain ∧
        (toolchain.run workshop dispatcher.timeout code state).result = .ok product ∧
        product.artifact = some bytes) ∧
    ∀ log, (dispatcher.run workshop.logged code name (state, log)).state =
      ((dispatcher.run workshop code name state).state,
        log ++ (dispatcher.run workshop code name state).started) := by
  have logged := run_logged equipped workshop code name state
  -- a run that is not cleared has no commands and no artifact
  by_cases cleared : ∃ language toolchain, Cleared .builtin calls code name language toolchain
  · obtain ⟨language, toolchain, cleared⟩ := cleared
    have ran := run_of_cleared equipped cleared workshop state
    refine ⟨fun _ => ⟨language, toolchain, cleared⟩, ?_, ?_, ?_, logged⟩
    · intro language' toolchain' cleared'
      -- no other toolchain can have cleared it
      obtain rfl := cleared.toolchain_unique cleared'
      refine ⟨ran, fun earlier command given => ?_⟩
      rw [ran] at given
      exact toolchain.owns_of_started given
    · exact fun held => absurd ⟨language, toolchain, cleared⟩ held
    · intro bytes handed
      rw [ran] at handed
      obtain ⟨product, succeeded, kept⟩ := exists_product_of_reported handed
      exact ⟨language, toolchain, product, cleared, succeeded, kept⟩
  · obtain ⟨report, refused, ran⟩ := run_of_not_cleared equipped cleared workshop state
    refine ⟨?_, ?_, fun _ => ⟨report, refused, refused.artifact_eq_none, ran⟩, ?_, logged⟩
    · rw [ran]
      exact fun started => absurd rfl started
    · exact fun language toolchain cleared' => absurd ⟨language, toolchain, cleared'⟩ cleared
    · rw [ran]
      intro bytes handed
      cases refused.artifact_eq_none.symm.trans handed

/-- A snippet without a language passes validation, and still nothing is started for it. -/
theorem run_guarded_nameless :
    Equipped .builtin (stock.withToolchain "cpp" (.cpp "clang++")) [("cpp", .cpp "clang++")] ∧
      (Registry.builtin.validate "int main() {}" " ").isValid = true ∧
      (stock.withToolchain "cpp" (.cpp "clang++")).run (.ofBinary none none) "int main() {}" " "
          none =
        { report := { text := "Execution not implemented for  " }, state := none } := by
  have equipped : Equipped .builtin (stock.withToolchain "cpp" (.cpp "clang++"))
      [("cpp", .cpp "clang++")] :=
    .registered (.stock stockTimeout) "cpp" (.cpp "clang++")
  have nameless : Registry.builtin.resolve " " = none :=
    Registry.builtin_resolve_of_blank (by decide)
  have valid : (Registry.builtin.validate "int main() {}" " ").isValid = true := by
    have blank : ("int main() {}".isEmpty || Text.allBlank " ") = true := by decide
    rw [Registry.validate, if_pos blank]
    rfl
  have held : ¬ ∃ language toolchain, Cleared .builtin [("cpp", .cpp "clang++")] "int main() {}" " "
      language toolchain := by
    rintro ⟨language, toolchain, cleared⟩
    cases nameless.symm.trans cleared.resolved
  obtain ⟨-, -, refusal, -⟩ := run_guarded equipped (.ofBinary none none) "int main() {}" " " none
  obtain ⟨report, refused, -, ran⟩ := refusal held
  refine ⟨equipped, valid, ?_⟩
  rw [ran]
  cases refused with
  | blank nothing => exact absurd nothing (by decide)
  | mislabeled given invalid => cases valid.symm.trans invalid
  | unimplemented given without => rfl

end Dispatcher

end Polyglot
