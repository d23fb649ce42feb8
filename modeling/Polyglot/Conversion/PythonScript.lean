import Polyglot.Text.Blank
import Polyglot.Text.Lines
import Polyglot.Text.Word

/-!
# Python scripts that show their results

A script prints nothing by itself, so bare expressions at the left margin are wrapped in `print`.
Indented lines, blank lines, statements and whatever holds an equals sign stay as they are.
-/

namespace Polyglot.PythonScript

/-- Words that begin a statement, and `print` itself. -/
def statementWords : List String :=
  ["def", "async", "class", "if", "elif", "else", "for", "while", "with", "try", "except",
    "finally", "return", "raise", "pass", "break", "continue", "assert", "global", "nonlocal",
    "del", "yield", "import", "from", "print"]

def isWordPart (c : Char) : Bool :=
  Text.isAlphanumeric c || c == '_'

/-- Does a trimmed line begin a decorator, a comment or a statement? -/
def isStatement (line : List Char) : Bool :=
  match line with
  | '@' :: _ => true
  | '#' :: _ => true
  | _ => statementWords.contains (String.ofList (line.takeWhile isWordPart))

/-- Does the line begin with a blank? -/
def isIndented : List Char → Bool
  | [] => false
  | c :: _ => Text.isBlank c

/-- Lines that stay as they are. -/
def isKept (line : List Char) : Bool :=
  let stripped := Text.trimmed line
  stripped.isEmpty || isIndented line || isStatement stripped || stripped.contains '='

def prepareLine (line : List Char) : List Char :=
  if isKept line then line else "print(".toList ++ Text.trimmed line ++ [')']

/-- The script with every bare expression printed; it ends with one line feed. -/
def prepare (code : List Char) : List Char :=
  List.intercalate ['\n'] ((Text.lines (Text.trimmed code)).map prepareLine) ++ ['\n']

end Polyglot.PythonScript

namespace Polyglot

def preparePython (code : String) : String :=
  String.ofList (PythonScript.prepare code.toList)

end Polyglot
