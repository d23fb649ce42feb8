import Polyglot.Sandbox.Script.Arithmetic
import Polyglot.Sandbox.Shell.Session

/-!
# Variables of the shell

Setting and forgetting variables, the variables of functions, and the environment of processes.
-/

namespace Polyglot.Shell

/-- Where programs are searched if the environment does not say. -/
def stockPath : String :=
  "/usr/local/sbin:/usr/local/bin:/usr/sbin:/usr/bin:/sbin:/bin"

/-- The variables that every shell knows, be they set or not. -/
def knownVariables : List (String × Variable) := [
  ("OPTIND", { value? := some "1", isFixed := true }),
  ("PS4", { value? := some "+ ", isFixed := true }),
  ("PS2", { value? := some "> ", isFixed := true }),
  ("PS1", { value? := some "# ", isFixed := true }),
  ("PATH", { value? := some stockPath, isFixed := true }),
  ("MAILPATH", { value? := none, isFixed := true }),
  ("MAIL", { value? := none, isFixed := true }),
  ("IFS", { value? := some " \t\n", isFixed := true })]

/-- Replace the entry of a name, or add one at the end. -/
def putBinding (name : String) (v : Variable) : List (String × Variable) → List (String × Variable)
  | [] => [(name, v)]
  | (n, w) :: rest => if n == name then (n, v) :: rest else (n, w) :: putBinding name v rest

namespace ShellState

def valueOf? (shell : ShellState) (name : String) : Option String :=
  (shell.bindings.lookup name).bind (·.value?)

def put (shell : ShellState) (name : String) (v : Variable) : ShellState :=
  { shell with bindings := putBinding name v shell.bindings }

/-- The place of a name among others: names are kept in 39 lists. -/
def bucket (name : String) : Nat :=
  let cs := name.toList.map Char.toNat
  (cs.foldl (· + ·) (16 * cs.headD 0)) % 39

/-- What processes started from the shell find in their environment. -/
def environment (shell : ShellState) : List (String × String) :=
  let exported := shell.bindings.filterMap fun (name, v) =>
    if v.exported then v.value?.map (name, ·) else none
  exported.mergeSort fun a b => bucket a.1 ≤ bucket b.1

/-- The characters between fields. -/
def separators (shell : ShellState) : List Char :=
  ((shell.valueOf? "IFS").getD " \t\n").toList

/-- What stands between parameters that are joined. -/
def joint (shell : ShellState) : List Char :=
  match shell.valueOf? "IFS" with
  | some text => text.toList.take 1
  | none => [' ']

/-- Where programs are searched. -/
def searchPath (shell : ShellState) : String :=
  (shell.valueOf? "PATH").getD ""

end ShellState

/-- A number given to a command. It must not be negative. -/
def count (text : String) : Act Nat := do
  match Arithmetic.integer? text true false with
  | some n =>
    if n < 0 || 2147483647 < n then giveUp ("Illegal number: " ++ text) else return n.toNat
  | none => giveUp ("Illegal number: " ++ text)

/-- What the value of a variable means to the shell itself. -/
def heed (name : String) (value? : Option String) : Act Unit := do
  if name == "OPTIND" then
    let n ← count (value?.getD "")
    modifyShell fun shell => { shell with optionIndex := max 1 n, optionOffset? := none }
  if name == "PATH" then modifyShell fun shell => { shell with hashed := [] }

/-- What is asked of a variable besides its value. -/
structure Marks where
  exported : Bool := false
  readOnly : Bool := false
  isFixed : Bool := false
  /-- The shell takes no notice of the value. -/
  isQuiet : Bool := false

/-- Values of so many octets in all are taken to grow forever. -/
def greatestEffort : Nat := 4194304

/-- Set a variable, or forget its value, if it may be set. -/
def setVariable (name : String) (value? : Option String) (marks : Marks := {}) : Act Unit := do
  let effort := (← getMachine).effort + (value?.elim 0 (·.utf8ByteSize))
  if greatestEffort < effort then throw .endless
  modifyMachine fun machine => { machine with effort }
  let shell ← getShell
  let exported := marks.exported || shell.has 'a'
  let keeps := exported || marks.readOnly || marks.isFixed
  match shell.bindings.lookup name with
  | none =>
    if value?.isSome || keeps then
      let v : Variable :=
        { value?, exported, readOnly := marks.readOnly, isFixed := marks.isFixed }
      modifyShell (·.put name v)
  | some v => do
    if v.readOnly then giveUp (name ++ ": is read only")
    if !marks.isQuiet && v.isFixed then heed name value?
    if value?.isNone && !keeps && !v.isFixed then
      modifyShell fun shell =>
        { shell with bindings := shell.bindings.filter (·.1 != name) }
    else
      modifyShell (·.put name {
        value?
        exported := exported || v.exported
        readOnly := marks.readOnly || v.readOnly
        isFixed := marks.isFixed || v.isFixed })

/-- Set a variable whose name may be no name at all. -/
def setNamed (name : String) (value? : Option String) (marks : Marks := {}) : Act Unit := do
  if !isName name then
    giveUp (String.ofList (name.toList.takeWhile (· != '=')) ++ ": bad variable name")
  setVariable name value? marks

/-- `name=value`, or a name alone. -/
def splitAssignment (text : String) : String × Option String :=
  let cs := text.toList
  match cs.dropWhile (· != '=') with
  | [] => (text, none)
  | _ :: value => (String.ofList (cs.takeWhile (· != '=')), some (String.ofList value))

def assign (text : String) (marks : Marks := {}) : Act Unit := do
  let (name, value?) := splitAssignment text
  setVariable name (some (value?.getD "")) marks

/-- The code of a command whose error goes no further. -/
def unsetVariable (name : String) : Act Unit :=
  setNamed name none

/-! ## Variables of functions -/

/-- Remember something that is to be as before when the command under way is over. -/
def remember (saved : Saved) : Act Unit :=
  modifyShell fun shell =>
    { shell with saved := match shell.saved with
      | frame :: frames => (saved :: frame) :: frames
      | [] => [] }

/-- Make a variable one of the function under way: `name`, `name=value`, or a hyphen for the
options. -/
def makeLocal (text : String) (exported : Bool) : Act Unit := do
  if text == "-" then remember (.options (← getShell).options)
  else do
    let (name, value?) := splitAssignment text
    match (← getShell).bindings.lookup name with
    | none => do
      setNamed name value? { exported, isFixed := true }
      remember (.variable name none)
    | some v => do
      remember (.variable name (some v))
      modifyShell (·.put name { v with isFixed := true })
      if value?.isSome then setVariable name value? { exported }

/-- Make something as it was before. -/
def restore : Saved → Act Unit
  | .options letters => modifyShell fun shell => { shell with options := letters }
  | .variable name none =>
    modifyShell fun shell => { shell with bindings := shell.bindings.filter (·.1 != name) }
  | .variable name (some v) => do
    if v.isFixed then
      let outcome ← attempt (heed name v.value?)
      match outcome with
      | .ok () => pure ()
      | .error _ => pure ()
    modifyShell (·.put name v)

/-- Do something, after which variables that it made its own are as before. -/
def withLocals (isFrame : Bool) (body : Act Unit) : Act Unit := do
  if isFrame then
    modifyShell fun shell => { shell with saved := [] :: shell.saved }
    let outcome ← attempt body
    let frame := (← getShell).saved.headD []
    modifyShell fun shell => { shell with saved := shell.saved.tail }
    frame.forM restore
    conclude outcome
  else body

/-! ## Parameters -/

/-- The value of a parameter other than all of them at once, if it is set. -/
def ShellState.parameter? (shell : ShellState) (name : String) : Option String :=
  match name with
  | "?" => some (toString shell.status)
  | "$" => some (toString shell.process)
  | "#" => some (toString shell.parameters.length)
  | "-" => some shell.optionLetters
  | "!" => shell.background?.map toString
  | _ =>
    if name.toList.all Char.isDigit then
      match name.toNat? with
      | some 0 => some shell.name
      | some n => shell.parameters[n - 1]?
      | none => none
    else shell.valueOf? name

end Polyglot.Shell
