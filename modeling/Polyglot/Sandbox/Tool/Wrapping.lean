import Polyglot.Sandbox.Signals
import Polyglot.Sandbox.Tool.Moment
import Polyglot.Sandbox.Tool.PathName

/-!
# Running other programs

Tools that change something about the surroundings and then let another program take their place.
-/

namespace Polyglot.Work

/-- Let a program take the place of the tool. -/
def become {α : Type} (successor : Successor) : Work α :=
  throw (.become successor)

/-- The program that some arguments name, in the surroundings of the tool. -/
def successor (arguments : List String) (lament : String → SystemError → String) :
    Work Successor := do
  let call ← read
  let name := arguments.headD ""
  return {
    arguments
    environment := call.environment
    directory := call.directory
    lament := fun e => call.name ++ ": " ++ lament name e ++ "\n" }

end Polyglot.Work

namespace Polyglot.Tool

/-- The complaint of most tools that cannot start a program. -/
def failedToRun (name : String) (e : SystemError) : String :=
  "failed to run command " ++ shellQuoted name ++ ": " ++ e.reason

/-! ## Environments -/

def envOptions : OptionTable where
  letters := "C:iS:u:v0"
  words := [("ignore-environment", "i"), ("null", "0"), ("unset=", "u"), ("chdir=", "C"),
    ("default-signal?", "default"), ("ignore-signal?", "ignore"), ("block-signal?", "block"),
    ("list-signal-handling", "list"), ("debug", "v"), ("split-string=", "S")]
  stopsEarly := true
  misuseCode := 125

/-- A text as separate words: quotes hold blanks together, and a backslash protects a character. -/
def splitWords : (fuel : Nat) → (quote? : Option Char) → (word? : Option (List Char)) →
    List Char → Except String (List String)
  | 0, _, _, _ => .ok []
  | _, some _, _, [] => .error "no terminating quote in -S string"
  | _, none, word?, [] => .ok (word?.toList.map fun word => String.ofList word.reverse)
  | fuel + 1, quote?, word?, c :: cs =>
    let word := word?.getD []
    match quote?, c, cs with
    | some '\'', '\'', cs => splitWords fuel none (some word) cs
    | some '"', '"', cs => splitWords fuel none (some word) cs
    | none, '\'', cs => splitWords fuel (some '\'') (some word) cs
    | none, '"', cs => splitWords fuel (some '"') (some word) cs
    | quote?, '\\', d :: cs =>
      if quote? == some '\'' && d != '\\' && d != '\'' then
        splitWords fuel quote? (some (d :: '\\' :: word)) cs
      else if d == 'c' && quote?.isNone then
        .ok (word?.toList.map fun word => String.ofList word.reverse)
      else if d == '_' && quote?.isNone then
        (splitWords fuel none none cs).map ((word?.toList.map fun word =>
          String.ofList word.reverse) ++ ·)
      else
        let e := match d with
          | 'n' => '\n'
          | 't' => '\t'
          | 'r' => '\r'
          | 'f' => '\x0c'
          | 'v' => '\x0b'
          | '_' => ' '
          | d => d
        splitWords fuel quote? (some (e :: word)) cs
    | _, '\\', [] => .error "invalid backslash at end of string in -S"
    | none, '#', cs =>
      if word?.isNone then .ok [] else splitWords fuel none (some ('#' :: word)) cs
    | none, c, cs =>
      if CharClass.isSpace c then
        (splitWords fuel none none cs).map ((word?.toList.map fun word =>
          String.ofList word.reverse) ++ ·)
      else splitWords fuel none (some (c :: word)) cs
    | quote?, c, cs => splitWords fuel quote? (some (c :: word)) cs

/-- The arguments with the words of an option that holds several put in its place. -/
def withSplit (arguments : List String) : Work (List String) := do
  let split (text : String) (rest : List String) : Work (List String) := do
    match splitWords (text.length + 2) none none text.toList with
    | .ok words => return words ++ rest
    | .error message => Work.die message 125
  match arguments with
  | first :: rest =>
    if first == "-S" then
      match rest with
      | text :: rest => split text rest
      | [] => return arguments
    else if first.startsWith "-S" then split (first.drop 2).toString rest
    else if first.startsWith "-vS" then
      return "-v" :: (← split (first.drop 3).toString rest)
    else if first.startsWith "--split-string=" then split (first.drop 15).toString rest
    else return arguments
  | [] => return []

/-- A value put into an environment, at the place of an old one or at the end. -/
def putIn (environment : List (String × String)) (name value : String) :
    List (String × String) :=
  if (environment.lookup name).isSome then
    environment.map fun (n, v) => if n == name then (n, value) else (n, v)
  else environment ++ [(name, value)]

/-- A word as a name with a value. -/
def assignment? (word : String) : Option (String × String) :=
  let cs := word.toList
  let name := cs.takeWhile (· != '=')
  if name.length < cs.length then some (String.ofList name, String.ofList (cs.drop (name.length + 1)))
  else none

/-- `env`: a program in another environment, or the environment itself. -/
def changeEnvironment : Tool := do
  let call ← read
  let arguments ← withSplit call.arguments
  let (options, operands) ← Work.optionsOf envOptions arguments []
    fun given option => return given ++ [option]
  let has (key : String) := options.any (·.key == key)
  let (bare, operands) := match operands with
    | "-" :: rest => (true, rest)
    | rest => (has "i", rest)
  let removed := options.filterMap fun o => if o.key == "u" then some o.value else none
  removed.forM fun name => do
    if name.isEmpty || name.toList.contains '=' then
      Work.die ("cannot unset " ++ quoted name ++ ": " ++ SystemError.invalidArgument.reason) 125
  let environment := if bare then []
    else call.environment.filter fun (name, _) => !removed.contains name
  let assigned := operands.takeWhile fun word => (assignment? word).isSome
  let command := operands.drop assigned.length
  let environment := (assigned.filterMap assignment?).foldl
    (fun environment (name, value) => putIn environment name value) environment
  if has "v" then
    if bare then Work.murmur "cleaning environ\n"
    removed.forM fun name => Work.murmur ("unset:    " ++ name ++ "\n")
    assigned.forM fun word => Work.murmur ("setenv:   " ++ word ++ "\n")
  if has "0" && !command.isEmpty then
    Work.misuse "cannot specify --null (-0) with command" 125
  let directory? := (options.filter (·.key == "C")).getLast?.map (·.value)
  if directory?.isSome && command.isEmpty then
    Work.misuse "must specify command with --chdir (-C)" 125
  if command.isEmpty then
    let mark := if has "0" then "\x00" else "\n"
    environment.forM fun (name, value) => Work.say (name ++ "=" ++ value ++ mark)
  else
    let directory ← match directory? with
      | none => pure call.directory
      | some text =>
        match ← Work.find text with
        | .ok (path, _, node) =>
          if node.isDirectory then pure path
          else Work.die ("cannot change directory to " ++ shellQuoted text ++ ": " ++
            SystemError.notADirectory.reason) 125
        | .error e =>
          Work.die ("cannot change directory to " ++ shellQuoted text ++ ": " ++ e.reason) 125
    let successor ← Work.successor command fun name e =>
      quoted name ++ ": " ++ e.reason ++
        (if e == .noSuchFile && name.toList.any CharClass.isSpace then
          "\n" ++ call.name ++ ": use -[v]S to pass options in shebang lines" else "")
    if has "v" then
      directory?.forM fun text => Work.murmur ("chdir:    " ++ quoted text ++ "\n")
      Work.murmur ("executing: " ++ command.headD "" ++ "\n")
      command.zipIdx.forM fun (word, i) =>
        Work.murmur ("   arg[" ++ toString i ++ "]= " ++ quoted word ++ "\n")
    Work.become { successor with environment, directory }

/-- `printenv`: values out of the environment. -/
def printEnvironment : Tool := do
  let (options, names) ← Work.optionList
    { letters := "0", words := [("null", "0")], stopsEarly := true, misuseCode := 2 }
  let mark := if options.any (·.key == "0") then "\x00" else "\n"
  let environment := (← read).environment
  if names.isEmpty then
    environment.forM fun (name, value) => Work.say (name ++ "=" ++ value ++ mark)
  else names.forM fun name =>
    match if name.toList.contains '=' then none else environment.lookup name with
    | some value => Work.say (value ++ mark)
    | none => Work.setCode 1

/-! ## Time limits -/

def timeoutOptions : OptionTable where
  letters := "k:s:v"
  words := [("foreground", "foreground"), ("kill-after=", "k"), ("preserve-status", "preserve"),
    ("signal=", "s"), ("verbose", "v")]
  stopsEarly := true
  misuseCode := 125

/-- `timeout`: a program that must end in time. -/
def limitTime : Tool := do
  let (options, operands) ← Work.optionList timeoutOptions
  let has (key : String) := options.any (·.key == key)
  let value? (key : String) := (options.filter (·.key == key)).getLast?.map (·.value)
  let interval (text : String) : Work Nat := do
    match interval? text with
    | some time => return time
    | none => Work.misuse ("invalid time interval " ++ quoted text) 125
  discard <| (value? "k").mapM interval
  let signal ← match value? "s" with
    | none => pure 15
    | some text =>
      let upper := text.map Char.toUpper
      match signalNumber? 1 (if upper.startsWith "SIG" then (upper.drop 3).toString else upper) with
      | some n => pure n
      | none => Work.misuse (quoted text ++ ": invalid signal") 125
  match operands with
  | [] => refuseFew
  | [_] => refuseFew
  | time :: command =>
    let time ← interval time
    let successor ← Work.successor command failedToRun
    let call ← read
    let notice := if !has "v" then "" else
      call.name ++ ": sending signal " ++ signalName signal ++ " to command " ++
        quoted (command.headD "") ++ "\n"
    let status : ExitStatus := if has "preserve" then .exited (128 + signal)
      else if signal = 9 then .killed 9 else .exited 124
    Work.become { successor with
      limit? := if time = 0 then none else some { time, signal, status, notice } }
where
  /-- There are too few operands, which is not told in words. -/
  refuseFew : Work Unit := do
    Work.hint
    Work.exit 125

/-! ## Other surroundings -/

/-- `nice`: a program with less claim to the processor. -/
def beNice : Tool := do
  let arguments := match (← read).arguments with
    | first :: rest =>
      match first.toList with
      | '-' :: c :: digits =>
        if c.isDigit || ((c == '-' || c == '+') && digits.head?.any Char.isDigit) then
          "-n" :: String.ofList (c :: digits) :: rest
        else first :: rest
      | _ => first :: rest
    | [] => []
  let table : OptionTable :=
    { letters := "n:", words := [("adjustment=", "n")], stopsEarly := true, misuseCode := 125 }
  let (options, command) ← Work.optionsOf table arguments []
    fun given option => return given ++ [option]
  let adjustment? := (options.filter (·.key == "n")).getLast?.map (·.value)
  adjustment?.forM fun text => do
    match Quantity.signed "" text with
    | .error .malformed => Work.die ("invalid adjustment " ++ quoted text) 125
    | .error .suffix => Work.die ("invalid adjustment " ++ quoted text) 125
    | _ => pure ()
  if command.isEmpty then
    if adjustment?.isSome then
      Work.misuse "a command must be given with an adjustment" 125
    else Work.sayLine "0"
  else Work.become (← Work.successor command fun name e => quoted name ++ ": " ++ e.reason)

/-- `nohup`: a program that goes on when the one who started it leaves. -/
def ignoreHangup : Tool := do
  let (_, command) ← Work.optionList { letters := "", stopsEarly := true, misuseCode := 125 }
  if command.isEmpty then Work.misuse "missing operand" 125
  let successor ← Work.successor command failedToRun
  Work.become { successor with ignored := [1] }

def stdbufOptions : OptionTable where
  letters := "i:o:e:"
  words := [("input=", "i"), ("output=", "o"), ("error=", "e")]
  stopsEarly := true
  misuseCode := 125

/-- `stdbuf`: a program that keeps less back of what it writes. -/
def changeBuffers : Tool := do
  let (options, command) ← Work.options stdbufOptions [] fun (given : List String) option => do
    let mode := option.value
    if mode == "L" && option.key == "i" then
      Work.misuse "line buffering stdin is meaningless" 125
    if mode != "L" then
      match Quantity.unsigned "EGkKMPQRTYZ0" mode with
      | .ok _ => pure ()
      | .error _ => Work.die ("invalid mode " ++ quoted mode) 125
    return mode :: given
  if command.isEmpty then Work.misuse "missing operand" 125
  if options.isEmpty then Work.misuse "you must specify a buffering mode option" 125
  Work.become (← Work.successor command failedToRun)

end Polyglot.Tool
