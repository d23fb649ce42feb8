import Polyglot.CommandLine.Arguments

/-!
# Invocations

What the program can be asked to do, and how arguments ask for it.
-/

namespace Polyglot.CommandLine

/-- Where a snippet comes from. -/
inductive Source where
  | standardInput
  | file (path : String)
deriving DecidableEq, Repr

/-- A lone dash, like no word at all, stands for standard input. -/
def Source.ofWord : Option String → Source
  | none => standardInput
  | some "-" => standardInput
  | some path => file path

inductive Task where
  | detect (input : Source) (explain : Bool)
  | validate (input : Source) (language : String)
  | convert (input : Source) (source target model : String) (temperature : Option Single)
      (thenRun : Bool)
  | run (input : Source) (language : String) (artifact : Option String)
  | languages
deriving DecidableEq

/-- The snippet that a task works on. -/
def Task.input? : Task → Option Source
  | detect input _ => some input
  | validate input _ => some input
  | convert input .. => some input
  | run input .. => some input
  | languages => none

structure Invocation where
  /-- The path of the configuration. -/
  config : Option String
  task : Task
deriving DecidableEq

/-- The paths of the files that are read. -/
def Invocation.paths (invocation : Invocation) : List String :=
  let input := match invocation.task.input? with
    | some (.file path) => [path]
    | _ => []
  invocation.config.toList ++ input

/-! ## Options -/

namespace OptionSpec

def config : OptionSpec where
  name := "config"
  kind := .valued .path
  summary := "JSON config file (defaults are used when omitted)"

def help : OptionSpec where
  name := "help"
  letter := some 'h'
  kind := .help
  summary := "Print help"

def version : OptionSpec where
  name := "version"
  letter := some 'V'
  kind := .version
  summary := "Print version"

def language : OptionSpec where
  name := "language"
  letter := some 'l'
  kind := .valued .text
  isRequired := true

def explain : OptionSpec where
  name := "explain"
  kind := .flag
  summary := "Print every candidate with its score as JSON"

def source : OptionSpec where
  name := "from"
  letter := some 'f'
  kind := .valued .text
  isRequired := true

def target : OptionSpec where
  name := "to"
  letter := some 't'
  kind := .valued .text
  isRequired := true

def model : OptionSpec where
  name := "model"
  letter := some 'm'
  kind := .valued .text
  summary := "Model selector (GPT, Claude, DeepSeek, Gemini, GROQ)"
  stock := some "GPT"

def temperature : OptionSpec where
  name := "temperature"
  kind := .valued .number

def thenRun : OptionSpec where
  name := "run"
  kind := .flag
  summary := "Run the converted code afterwards"

def artifact : OptionSpec where
  name := "artifact"
  kind := .valued .path
  summary := "Write the compiled artifact here, if the language produces one"

end OptionSpec

/-- The value of an option, or the one that counts where none is given. -/
def Found.text (found : Found) (option : OptionSpec) : String :=
  ((found.value? option.name).or option.stock).getD ""

def Found.source (found : Found) : Source :=
  .ofWord found.words.head?

/-! ## Tasks -/

/-- How a task is asked for. -/
structure TaskSpec where
  name : String
  summary : String
  options : List OptionSpec := []
  /-- The task works on a snippet. -/
  takesInput : Bool := true
  inputSummary : String := ""
  build : Found → Task

namespace TaskSpec

def detect : TaskSpec where
  name := "detect"
  summary := "Detect the language of a snippet"
  options := [.explain]
  inputSummary := "Source file, or \x60-\x60 for stdin"
  build found := .detect found.source (found.has OptionSpec.explain.name)

def validate : TaskSpec where
  name := "validate"
  summary := "Check that a snippet is written in the given language"
  options := [.language]
  build found := .validate found.source (found.text .language)

def convert : TaskSpec where
  name := "convert"
  summary := "Convert a snippet with a language model"
  options := [.source, .target, .model, .temperature, .thenRun]
  build found := .convert found.source (found.text .source) (found.text .target)
    (found.text .model) ((found.value? OptionSpec.temperature.name).bind Single.read?)
    (found.has OptionSpec.thenRun.name)

def run : TaskSpec where
  name := "run"
  summary := "Execute a snippet with the local toolchain"
  options := [.language, .artifact]
  build found := .run found.source (found.text .language) (found.value? OptionSpec.artifact.name)

def languages : TaskSpec where
  name := "languages"
  summary := "List detectable, convertible and executable languages"
  takesInput := false
  build _ := .languages

def all : List TaskSpec :=
  [detect, validate, convert, run, languages]

def named? (name : String) : Option TaskSpec :=
  all.find? (·.name == name)

/-- The grammar of what follows a task's name. -/
def grammar (spec : TaskSpec) : Grammar where
  topic := some spec.name
  options := .config :: spec.options ++ [.help]
  wordLimit := if spec.takesInput then 1 else 0

end TaskSpec

/-- The grammar of what stands before a task's name. -/
def Grammar.leading : Grammar where
  options := [.config, .help, .version]
  wordLimit := 1
  endsAtWord := true

/-! ## Reading -/

/-- The word that asks for help about the task that follows. -/
def helpWord : String := "help"

/-- What words after the word for help ask for. -/
def helpWanted : List String → Refusal
  | [] => .help none
  | [topic] =>
    if topic == helpWord || (TaskSpec.named? topic).isSome then .help (some topic) else .usage
  | _ => .usage

/-- What arguments ask for. The configuration may be named before the task and after it; the
latter counts. -/
def Invocation.ofArguments (arguments : List String) : Except Refusal Invocation := do
  let (before, rest) ← Grammar.leading.read {} arguments
  match before.words with
  | [] => throw .usage
  | name :: _ =>
    if name == helpWord then throw (helpWanted rest)
    match TaskSpec.named? name with
    | none => throw .usage
    | some spec =>
      let (found, _) ← spec.grammar.read {} rest
      let config := (found.value? OptionSpec.config.name).or (before.value? OptionSpec.config.name)
      return { config, task := spec.build found }

end Polyglot.CommandLine
