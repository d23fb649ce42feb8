import Polyglot.CommandLine.Invocation

/-!
# Help texts

What the program says about itself: its tasks, the options of each, and its version.
-/

namespace Polyglot.CommandLine

def programName : String := "codexchange"

def versionText : String :=
  programName ++ " 0.10.12\n"

/-- What stands for an option's value. -/
def OptionSpec.placeholder (option : OptionSpec) : String :=
  match option.kind with
  | .valued .path => " <FILE>"
  | .valued _ => " <" ++ String.ofList (option.name.toList.map Char.toUpper) ++ ">"
  | _ => ""

/-- An option with everything that it takes. -/
def OptionSpec.form (option : OptionSpec) : String :=
  let letter := match option.letter with
    | some c => "-" ++ String.singleton c ++ ", "
    | none => "    "
  letter ++ "--" ++ option.name ++ option.placeholder

/-- A summary with the value that counts where none is given. -/
def summaryWith (summary : String) (stock : Option String) : String :=
  match stock with
  | some value => (if summary.isEmpty then "" else summary ++ " ") ++ "[default: " ++ value ++ "]"
  | none => summary

/-- Rows of two columns. -/
def table (rows : List (String × String)) : String :=
  let width := (rows.map (·.1.length)).foldl max 0
  String.join (rows.map fun (form, summary) =>
    "  " ++ form ++ String.ofList (List.replicate (width - form.length + 2) ' ') ++ summary ++ "\n")

def optionTable (options : List OptionSpec) : String :=
  "\nOptions:\n" ++ table (options.map fun option =>
    (option.form, summaryWith option.summary option.stock))

def usageLine : String :=
  "Usage: " ++ programName ++ " [OPTIONS] <COMMAND>\n"

/-- What the word for help is good for. -/
def helpSummary : String :=
  "Print this message or the help of the given subcommand(s)"

/-- Help about the whole program. -/
def programHelp : String :=
  "Convert code between languages with LLMs\n\n" ++ usageLine ++ "\nCommands:\n" ++
    table ((TaskSpec.all.map fun spec => (spec.name, spec.summary)) ++
      [(helpWord, helpSummary)]) ++
    optionTable Grammar.leading.options

/-- Help about one task. -/
def TaskSpec.help (spec : TaskSpec) : String :=
  let required := String.join ((spec.options.filter (·.isRequired)).map fun option =>
    " --" ++ option.name ++ option.placeholder)
  spec.summary ++ "\n\nUsage: " ++ programName ++ " " ++ spec.name ++ " [OPTIONS]" ++ required ++
    (if spec.takesInput then
      " [INPUT]\n\nArguments:\n" ++ table [("[INPUT]", summaryWith spec.inputSummary (some "-"))]
    else "\n") ++
    optionTable spec.grammar.options

/-- Help about the word for help itself. -/
def helpOnHelp : String :=
  helpSummary ++ "\n\nUsage: " ++ programName ++ " " ++ helpWord ++
    " [COMMAND]...\n\nArguments:\n" ++
    table [("[COMMAND]...", "Print help for the subcommand(s)")]

def helpText : Option String → String
  | none => programHelp
  | some topic =>
    if topic == helpWord then helpOnHelp
    else match TaskSpec.named? topic with
      | some spec => spec.help
      | none => programHelp

end Polyglot.CommandLine
