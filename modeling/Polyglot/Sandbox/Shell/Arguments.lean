import Polyglot.Sandbox.Shell.Session

/-!
# Arguments of commands inside the shell

Reading options, and writing texts so that the shell can read them back.
-/

namespace Polyglot.Shell

/-! ## Options of commands -/

/-- The options of a command: letters, of which those before a colon take a value. -/
def takeOptions (letters : String) :
    (fuel : Nat) → List String → Act (List (Char × String) × List String)
  | 0, arguments => return ([], arguments)
  | _, [] => return ([], [])
  | fuel + 1, argument :: rest => do
    match argument.toList with
    | ['-', '-'] => return ([], rest)
    | '-' :: c :: cs => bundle fuel (c :: cs) rest
    | _ => return ([], argument :: rest)
where
  bundle (fuel : Nat) (cs : List Char) (rest : List String) :
      Act (List (Char × String) × List String) := do
    match cs with
    | [] => takeOptions letters fuel rest
    | c :: more =>
      match (letters.toList.dropWhile (· != c)), c == ':' with
      | [], _ => giveUp ("Illegal option -" ++ String.singleton c)
      | _, true => giveUp ("Illegal option -" ++ String.singleton c)
      | _ :: ':' :: _, _ =>
        match more, rest with
        | [], [] => giveUp ("No arg for -" ++ String.singleton c ++ " option")
        | [], value :: rest => do
          let (options, rest) ← takeOptions letters fuel rest
          return ((c, value) :: options, rest)
        | _, _ => do
          let (options, rest) ← takeOptions letters fuel rest
          return ((c, String.ofList more) :: options, rest)
      | _, _ => do
        let (options, rest) ← bundle fuel more rest
        return ((c, "") :: options, rest)

def options (letters : String) (arguments : List String) :
    Act (List (Char × String) × List String) :=
  takeOptions letters (arguments.length + 1) arguments

/-- The arguments of a command without options. -/
def operands (arguments : List String) : Act (List String) := do
  return (← options "" arguments).2

/-! ## Quotes -/

/-- Runs of characters between single quotes, with single quotes between double ones. -/
def singleQuotedFrom : (fuel : Nat) → List Char → List Char
  | 0, _ => []
  | fuel + 1, cs =>
    let text := cs.takeWhile (· != '\'')
    let rest := cs.drop text.length
    let marks := rest.takeWhile (· == '\'')
    let after := rest.drop marks.length
    '\'' :: text ++ '\'' ::
      (if marks.isEmpty then [] else '"' :: marks ++ '"' ::
        (if after.isEmpty then [] else singleQuotedFrom fuel after))

/-- A text as it can be read back by the shell. -/
def singleQuoted (text : String) : String :=
  String.ofList (singleQuotedFrom (text.length + 1) text.toList)

end Polyglot.Shell
