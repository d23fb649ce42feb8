import Polyglot.Sandbox.FileTree.Mode
import Polyglot.Sandbox.Shell.Arguments
import Polyglot.Sandbox.Shell.Variables

/-!
# Settings of the shell

The commands that show and change aliases, variables, options, parameters and limits.
-/

namespace Polyglot.Shell

/-! ## Aliases -/

def sayAlias (name value : String) : Act Unit :=
  say (name ++ "=" ++ singleQuoted value ++ "\n")

def aliasCommand (arguments : List String) : Act Nat := do
  if arguments.isEmpty then do
    let entries := (← getShell).aliases.mergeSort fun a b =>
      ShellState.bucket a.1 ≤ ShellState.bucket b.1
    entries.forM fun (name, value) => sayAlias name value
    return 0
  arguments.foldlM
    (fun code argument => do
      let cs := argument.toList
      -- the first character never ends the name
      let name := cs.take 1 ++ (cs.drop 1).takeWhile (· != '=')
      let text := String.ofList name
      match cs.drop name.length with
      | _ :: value => do
        modifyShell fun shell =>
          { shell with aliases :=
              if (shell.aliases.lookup text).isSome then
                shell.aliases.map fun entry =>
                  if entry.1 == text then (text, String.ofList value) else entry
              else shell.aliases ++ [(text, String.ofList value)] }
        return code
      | [] =>
        match (← getShell).aliases.lookup text with
        | some value => do
          sayAlias text value
          return code
        | none => do
          tellError ("alias: " ++ text ++ " not found\n")
          return 1)
    0

def unaliasCommand (arguments : List String) : Act Nat := do
  let (given, names) ← options "a" arguments
  if !given.isEmpty then do
    modifyShell fun shell => { shell with aliases := [] }
    return 0
  names.foldlM
    (fun code name => do
      if ((← getShell).aliases.lookup name).isSome then do
        modifyShell fun shell => { shell with aliases := shell.aliases.filter (·.1 != name) }
        return code
      else do
        tellError ("unalias: " ++ name ++ " not found\n")
        return 1)
    0

/-! ## Variables and options -/

/-- Show variables that satisfy a test, as commands that set them. -/
def sayVariables (opening : String) (test : Variable → Bool) : Act Unit := do
  let bindings := ((← getShell).bindings.filter (test ·.2)).mergeSort fun a b => a.1 ≤ b.1
  bindings.forM fun (name, v) =>
    say (opening ++ name ++ (match v.value? with
      | some value => "=" ++ singleQuoted value
      | none => "") ++ "\n")

/-- Mark one variable, and set it if there is a value. -/
def markVariable (isExport : Bool) (argument : String) : Act Unit := do
  let (name, value?) := splitAssignment argument
  match value?, (← getShell).bindings.lookup name with
  | none, some v => modifyShell (·.put name { v with
      exported := v.exported || isExport
      readOnly := v.readOnly || !isExport })
  | _, _ => setNamed name value? { exported := isExport, readOnly := !isExport }

/-- `export` and `readonly`. -/
def markVariables (name : String) (arguments : List String) : Act Nat := do
  let isExport := name == "export"
  let (given, names) ← options "p" arguments
  if !given.isEmpty || names.isEmpty then
    sayVariables (name ++ " ") fun v => if isExport then v.exported else v.readOnly
  else names.forM (markVariable isExport)
  return 0

def unsetCommand (arguments : List String) : Act Nat := do
  let (given, names) ← options "vf" arguments
  let isFunction := (given.getLast?.map (·.1)) == some 'f'
  names.forM fun name =>
    if isFunction then
      modifyShell fun shell => { shell with functions := shell.functions.filter (·.1 != name) }
    else unsetVariable name
  return 0

def localCommand (arguments : List String) : Act Nat := do
  if (← getShell).saved.isEmpty then giveUp "not in a function"
  let names ← operands arguments
  names.forM (makeLocal · false)
  return 0

/-- Show the options, or set one by its name. -/
def namedOption (value : Bool) : Option String → Act Unit
  | none => do
    let shell ← getShell
    let isOn (letter? : Option Char) := letter?.any shell.has
    if value then do
      say "Current option settings\n"
      optionNames.forM fun (name, letter?) =>
        say (name ++ String.ofList (List.replicate (16 - name.length) ' ') ++
          (if isOn letter? then "on\n" else "off\n"))
    else
      optionNames.forM fun (name, letter?) =>
        say ("set " ++ (if isOn letter? then "-o " else "+o ") ++ name ++ "\n")
  | some name =>
    match optionNames.lookup name with
    | some (some letter) => modifyShell (·.setOption letter value)
    | some none => pure ()
    | none => giveUp ("Illegal option -o " ++ name)

def letteredOption (value : Bool) (letter : Char) : Act Unit := do
  if optionNames.any (·.2 == some letter) then modifyShell (·.setOption letter value)
  else giveUp ("Illegal option -" ++ String.singleton letter)

/-- What options at the start of arguments leave. -/
structure OptionsRead where
  rest : List String
  /-- The parameters are to be forgotten. -/
  resets : Bool := false
  /-- The first argument is a script. -/
  hasScript : Bool := false

/-- The letters of one argument; `o` takes the next argument. A shell that starts knows two more,
of which `c` asks for a script. -/
def optionLetters (starting value : Bool) : List Char → List String → Act (List String × Bool)
  | [], rest => return (rest, false)
  | 'o' :: letters, rest => do
    namedOption value rest.head?
    optionLetters starting value letters rest.tail
  | letter :: letters, rest => do
    if starting && (letter == 'c' || letter == 'l') then
      let (rest, hasScript) ← optionLetters starting value letters rest
      return (rest, hasScript || letter == 'c')
    letteredOption value letter
    optionLetters starting value letters rest

/-- The options at the start of arguments, and what is left. A hyphen or two end them. -/
def shellOptions (starting : Bool) : (fuel : Nat) → List String → Act OptionsRead
  | 0, arguments => return { rest := arguments }
  | _, [] => return { rest := [] }
  | fuel + 1, argument :: rest => do
    match argument.toList with
    | ['-'] => do
      if !starting then
        modifyShell fun shell => (shell.setOption 'x' false).setOption 'v' false
      return { rest }
    | ['-', '-'] => return { rest, resets := rest.isEmpty }
    | '-' :: letters => letteredArgument fuel true letters rest
    | '+' :: letters => letteredArgument fuel false letters rest
    | _ => return { rest := argument :: rest }
where
  letteredArgument (fuel : Nat) (value : Bool) (letters : List Char) (rest : List String) :
      Act OptionsRead := do
    let (rest, hasScript) ← optionLetters starting value letters rest
    let read ← shellOptions starting fuel rest
    return { read with hasScript := read.hasScript || hasScript }

def setParameters (parameters : List String) : Act Unit :=
  modifyShell fun shell =>
    { shell with parameters, optionIndex := 1, optionOffset? := none }

def setCommand (arguments : List String) : Act Nat := do
  if arguments.isEmpty then sayVariables "" (·.value?.isSome)
  else do
    let read ← shellOptions false (arguments.length + 1) arguments
    if read.resets || !read.rest.isEmpty then setParameters read.rest
  return 0

def shiftCommand (arguments : List String) : Act Nat := do
  let n ← match arguments with
    | [] => pure 1
    | text :: _ => count text
  let shell ← getShell
  if shell.parameters.length < n then giveUp "can't shift that many"
  setParameters (shell.parameters.drop n)
  return 0

/-- Where `getopts` is in the arguments: the next argument, and the rest of the one under way. -/
structure OptionPlace where
  index : Nat
  rest? : Option (List Char)

/-- The next option among arguments. The name of the variable, the letters that are known. -/
def getoptsFrom (letters name : String) (arguments : List String) : Act Nat := do
  let shell ← getShell
  let index := shell.optionIndex
  let current := (arguments[index - 2]?).getD ""
  let rest := match shell.optionOffset? with
    | some offset =>
      if index ≤ 1 || current.length < offset then [] else current.toList.drop offset
    | none => []
  let finish (place : OptionPlace) (option : Char) (code : Nat) : Act Nat := do
    setVariable "OPTIND" (some (toString place.index)) { isQuiet := true }
    -- the place counts even if the name cannot be set
    let outcome ← attempt (setNamed name (some (String.singleton option)))
    let offset? := place.rest?.map fun rest =>
      ((arguments[place.index - 2]?).getD "").length - rest.length
    modifyShell fun shell =>
      { shell with optionIndex := place.index, optionOffset? := offset? }
    conclude outcome
    return code
  let quiet := letters.startsWith ":"
  let take (index : Nat) (c : Char) (rest : List Char) : Act Nat := do
    let known := letters.toList.dropWhile (· != c)
    if known.isEmpty || c == ':' then do
      if quiet then setVariable "OPTARG" (some (String.singleton c))
      else do
        tellError ("Illegal option -" ++ String.singleton c ++ "\n")
        unsetVariable "OPTARG"
      finish ⟨index, some rest⟩ '?' 0
    else if known[1]? == some ':' then
      match rest, arguments[index - 1]? with
      | [], none => do
        if quiet then do
          setVariable "OPTARG" (some (String.singleton c))
          finish ⟨index, some []⟩ ':' 0
        else do
          tellError ("No arg for -" ++ String.singleton c ++ " option\n")
          unsetVariable "OPTARG"
          finish ⟨index, some []⟩ '?' 0
      | [], some value => do
        setVariable "OPTARG" (some value)
        finish ⟨index + 1, none⟩ c 0
      | rest, _ => do
        setVariable "OPTARG" (some (String.ofList rest))
        finish ⟨index, none⟩ c 0
    else do
      setVariable "OPTARG" (some "")
      finish ⟨index, some rest⟩ c 0
  match rest with
  | c :: rest => take index c rest
  | [] =>
    match ((arguments[index - 1]?).getD "").toList with
    | ['-', '-'] => finish ⟨index + 1, none⟩ '?' 1
    | '-' :: c :: rest => take (index + 1) c rest
    | _ => finish ⟨index, none⟩ '?' 1

def getoptsCommand (arguments : List String) : Act Nat := do
  match ← operands arguments with
  | letters :: name :: given => do
    let shell ← getShell
    let arguments := if given.isEmpty then shell.parameters else given
    if arguments.length + 1 < shell.optionIndex then
      modifyShell fun shell => { shell with optionIndex := 1, optionOffset? := none }
    getoptsFrom letters name arguments
  | _ => giveUp "Usage: getopts optstring var [arg...]"

/-! ## Limits -/

/-- A mask with its digits: at least four. -/
def maskText (mask : Nat) : String :=
  let digits := Nat.toDigits 8 mask
  String.ofList (List.replicate (4 - digits.length) '0' ++ digits)

def maskLetters (mask : Nat) : String :=
  let allowed := 0o777 - (mask &&& 0o777)
  let class' (letter : Char) (shift : Nat) : String :=
    let bits := allowed / shift % 8
    String.ofList (letter :: '=' :: ((if bits / 4 % 2 == 1 then ['r'] else []) ++
      (if bits / 2 % 2 == 1 then ['w'] else []) ++ (if bits % 2 == 1 then ['x'] else [])))
  class' 'u' 64 ++ "," ++ class' 'g' 8 ++ "," ++ class' 'o' 1

def umaskCommand (arguments : List String) : Act Nat := do
  let (given, names) ← options "S" arguments
  let mask := (← getShell).mask
  match names with
  | [] => do
    say ((if given.isEmpty then maskText mask else maskLetters mask) ++ "\n")
    return 0
  | text :: _ => do
    let cs := text.toList
    if cs.head?.any Char.isDigit then
      if !cs.all Mode.isOctal then giveUp ("Illegal number: " ++ text)
      modifyShell fun shell => { shell with mask := Mode.octal cs &&& 0o777 }
      return 0
    match ((cs.splitOn ',').mapM Mode.clause).map List.flatten with
    | none => giveUp ("Illegal mode: " ++ text)
    | some steps => do
      let allowed := Mode.apply steps false 0 (0o777 - mask)
      modifyShell fun shell => { shell with mask := 0o777 - (allowed &&& 0o777) }
      return 0

/-- The limits of processes: the letter, what it limits, and the value. -/
def limits : List (Char × String × String) := [
  ('t', "time(seconds)", "unlimited"), ('f', "file(blocks)", "unlimited"),
  ('d', "data(kbytes)", "unlimited"), ('s', "stack(kbytes)", "8192"),
  ('c', "coredump(blocks)", "0"), ('m', "memory(kbytes)", "unlimited"),
  ('l', "locked memory(kbytes)", "8192"), ('p', "process", "unlimited"),
  ('n', "nofiles", "1048576"), ('v', "vmemory(kbytes)", "unlimited"),
  ('w', "locks", "unlimited"), ('r', "rtprio", "0")]

def ulimitCommand (arguments : List String) : Act Nat := do
  let (given, values) ← options "HSatfdscmlpnvwr" arguments
  let letters := (given.map (·.1)).filter fun c => c != 'H' && c != 'S'
  if letters.contains 'a' then do
    limits.forM fun (_, name, value) =>
      say (name ++ String.ofList (List.replicate (21 - name.length) ' ') ++ value ++ "\n")
    return 0
  let letter := letters.getLast?.getD 'f'
  match values with
  | [] => do
    say (((limits.lookup letter).map (·.2)).getD "" ++ "\n")
    return 0
  | [value] => do
    if value != "unlimited" && !(value.toList.all Char.isDigit) then giveUp "bad number"
    return 0
  | _ => giveUp "too many arguments"

end Polyglot.Shell
