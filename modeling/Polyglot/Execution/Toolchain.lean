import Polyglot.Execution.Recipe
import Polyglot.Json.Writer
import Polyglot.Language.Definition
import Polyglot.Pattern.Search

/-!
# Toolchains

How snippets of a language are run: by an interpreter, or by a compiler and then on their own. A
toolchain turns code into a recipe.
-/

namespace Polyglot

inductive Toolchain where
  /-- Run the source file. -/
  | interpreter (program fileExtension : String)
  /-- Build a binary and run it. -/
  | cpp (compiler : String)
  /-- Build a class file and run it. -/
  | java (compiler runtime : String)
  /-- Build a binary with a subcommand and run it. -/
  | go (program : String)
deriving DecidableEq, Repr

/-! ## The name of a Java class -/

namespace JavaClass

/-- The declaration of a public class; its name is the first group. -/
def declaration : Pattern :=
  .sequence [.literal "public".toList, .oneOrMore true (.char .blank),
    .literal "class".toList, .oneOrMore true (.char .blank),
    .group 1 (.oneOrMore true (.char .word))]

end JavaClass

/-- The public class of Java code, after which its file must be named. -/
def javaClassName? (code : String) : Option String :=
  (JavaClass.declaration.firstGroup? 1 code.toList).map String.ofList

/-! ## Recipes -/

namespace Toolchain

/-- The toolchain that a language has from the start, if it has one. -/
def stock? (language : Language) (fileExtension : String) : Option Toolchain :=
  match language.name with
  | "Python" => some (interpreter "python3" fileExtension)
  | "JavaScript" => some (interpreter "node" fileExtension)
  | "Julia" => some (interpreter "julia" fileExtension)
  | "C++" => some (cpp "g++")
  | "Java" => some (java "javac" "java")
  | "Go" => some (go "go")
  | _ => none

/-- The stock toolchain of a language on record. -/
def ofProfile? (profile : LanguageProfile) : Option Toolchain :=
  stock? profile.language profile.fileExtension

/-- The name of the binary that a compiler makes. -/
def binaryName : String := "main"

/-- How to run code, where `path` gives the paths of files. Only Java code can be refused: its
file must be named after its class. -/
def recipe (toolchain : Toolchain) (path : String → String) (code : String) :
    Except ExecutionError Recipe :=
  let content := Text.Utf8.encode code.toList
  match toolchain with
  | interpreter program fileExtension =>
    let source := "main." ++ fileExtension
    .ok [.save source content, .launch ⟨program, [path source]⟩]
  | cpp compiler =>
    let source := "main.cpp"
    .ok [
      .save source content,
      .build ⟨compiler, [path source, "-o", path binaryName]⟩,
      .launch ⟨path binaryName, []⟩,
      .collect binaryName]
  | java compiler runtime =>
    match javaClassName? code with
    | none => .error .missingClassName
    | some className =>
      let source := className ++ ".java"
      .ok [
        .save source content,
        .build ⟨compiler, [path source]⟩,
        .collect (className ++ ".class"),
        .launch ⟨runtime, [className]⟩]
  | go program =>
    let source := "main.go"
    .ok [
      .save source content,
      .build ⟨program, ["build", "-o", path binaryName, path source]⟩,
      .collect binaryName,
      .launch ⟨path binaryName, []⟩]

/-- Run code. -/
def run {σ : Type} (toolchain : Toolchain) (workshop : Workshop σ) (limit : Duration)
    (code : String) (state : σ) : RecipeRun σ :=
  match toolchain.recipe workshop.path code with
  | .error error => { result := .error error, state }
  | .ok recipe => recipe.run workshop limit state

end Toolchain

/-! ## Output -/

/-- The output of a run and how long it took. -/
structure ExecutionOutput where
  stdout : String
  artifact : Option (List UInt8)
  elapsed : Duration
deriving DecidableEq, Repr

namespace ExecutionOutput

/-- The artifact is left out. -/
def toJson (output : ExecutionOutput) : Json :=
  .object [
    ("stdout", .string output.stdout),
    ("elapsed", .object [
      ("secs", .integer output.elapsed.seconds),
      ("nanos", .integer output.elapsed.subsecond)])]

end ExecutionOutput

end Polyglot
