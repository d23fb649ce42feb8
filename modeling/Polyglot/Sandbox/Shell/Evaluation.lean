import Polyglot.Sandbox.Shell.Builtin
import Polyglot.Sandbox.Shell.Plan
import Polyglot.Sandbox.Shell.Process
import Polyglot.Sandbox.Tool.All

/-!
# Running scripts

What commands do to a session, and what becomes of processes. Every function takes fuel; a script
that uses it up counts as one that never ends.
-/

namespace Polyglot.Shell

/-- How deep programs may be that scripts name in their first lines. -/
def deepestScript : Nat := 5

/-- A text from here on, as far as another reader state is behind it: to the end of the line. -/
def passedText (before after : List Char) : String :=
  let passed := before.take (before.length - after.length)
  if passed.getLast? == some '\n' then String.ofList passed
  else
    let more := after.takeWhile (· != '\n')
    String.ofList (passed ++ more ++ (if more.length < after.length then ['\n'] else []))

/-- The status that ends a shell that fails and is not tested. -/
def checkFailure (standing : Standing) : Act Unit := do
  let shell ← getShell
  if shell.has 'e' && !standing.tested && shell.status != 0 then throw .stop

/-- Where the file of a script is: names without a slash are searched. -/
def findScript (name : String) : Act String := do
  if name.toList.contains '/' then return name
  let session ← get
  let found? := (Launch.searched session.shell.searchPath).findSome? fun dir =>
    let path := Launch.candidate dir name
    if (session.machine.tree.look? session.shell.directory path).any Node.isFile then some path
    else none
  match found? with
  | some path => return path
  | none => giveUp (name ++ ": not found")

/-- The path of a program for a command, and whether it is known already. -/
def resolveProgram (plan : Plan) (name : String) : Act (Except SystemError String) := do
  if plan.usesStockPath then findProgram stockPath name
  else
    match (← getShell).hashed.lookup name with
    | some (path, true) => return .ok path
    | _ => hashProgram name

/-- A program started from the shell. -/
def programCall (shell : ShellState) (process : Nat) (isCopy : Bool) (path : String)
    (called : List String) : Call := {
  path
  name := called.headD ""
  arguments := called.tail
  environment := shell.environment
  channels := shell.channels
  directory := shell.directory
  mask := shell.mask
  ignored := shell.ignoredSignals
  process
  ancestors := if isCopy then shell.self :: shell.ancestors else shell.ancestors
  inBackground := shell.inBackground }

/-- The channel of what has no input. -/
def withoutInput : Act Unit := do
  let (place, machine) := (← getMachine).withNothing
  modifyMachine fun _ => machine
  setChannel 0 (some place)

/-- The trace of a command: what comes before it, its assignments and its words. -/
def traceLine (lead : String) (words : List String) : String :=
  lead ++ " ".intercalate words ++ "\n"

/-- How many functions can be under way. -/
def mostCalls : Nat := 1000

mutual

/-- Start a program. -/
def launch (fuel : Nat) (call : Call) (machine : Machine) : Launch × Machine :=
  match fuel with
  | 0 => (.endless, machine)
  | fuel + 1 =>
    match machine.tree.find call.directory call.path with
    | .error e => (.refused e, machine)
    | .ok (_, _, node) =>
      if !node.isExecutable then (.refused .permissionDenied, machine)
      else match node.kind with
        | .program name =>
          let machine := machine.advance Launch.startingTime
          match Tool.all.lookup name with
          | none => startShell fuel call machine
          | some tool =>
            match Launch.runTool tool call machine with
            | (.done, code, machine) => (.ended (.exited code), machine)
            | (.endless, _, machine) => (.endless, machine)
            | (.become successor, _, machine) => succeed fuel successor call machine
        | .file content =>
          match Launch.interpreter? content with
          | none => (.refused .execFormat, machine)
          | some (program, arguments) =>
            if deepestScript < call.scripts then (.refused .tooManyLinks, machine)
            else launch fuel { call with
              path := program
              name := program
              arguments := arguments ++ call.path :: call.arguments
              scripts := call.scripts + 1 } machine
        | _ => (.refused .permissionDenied, machine)

/-- Start a file that may be a script without a first line that says so. -/
def launchScript (fuel : Nat) (shell : String) (call : Call) (machine : Machine) :
    Launch × Machine :=
  match fuel with
  | 0 => (.endless, machine)
  | fuel + 1 =>
    match launch fuel call machine with
    | (.refused .execFormat, machine) =>
      launch fuel { call with
        path := shell
        name := shell
        arguments := call.path :: call.arguments } machine
    | result => result

/-- Run the program that takes the place of a tool. -/
def succeed (fuel : Nat) (successor : Successor) (call : Call) (machine : Machine) :
    Launch × Machine :=
  match fuel with
  | 0 => (.endless, machine)
  | fuel + 1 =>
    let name := successor.arguments.headD ""
    let path := (successor.environment.lookup "PATH").getD "/bin:/usr/bin"
    let start := machine.clock
    let (launch, machine) :=
      match Launch.locate machine.tree successor.directory path name with
      | .error e => (Launch.refused e, machine)
      | .ok path => launchScript fuel "/bin/sh" { call with
          path, name
          arguments := successor.arguments.tail
          environment := successor.environment
          directory := successor.directory
          ignored := successor.ignored ++ call.ignored } machine
    launch.conclude successor call.channels start machine

/-- Start a shell. -/
def startShell (fuel : Nat) (call : Call) (machine : Machine) : Launch × Machine :=
  match fuel with
  | 0 => (.endless, machine)
  | fuel + 1 =>
    let act : Act ExitStatus := do
      let outcome ← attempt (runShell fuel call)
      finish (runString fuel) outcome
    let (outcome, session) := act.run ⟨.ofCall call machine.tree, machine⟩
    match outcome with
    | .ok status => (.ended status, session.machine)
    | .error _ => (.endless, session.machine)

/-- Do what the arguments of a shell ask for. -/
def runShell (fuel : Nat) (call : Call) : Act Unit :=
  match fuel with
  | 0 => throw .endless
  | fuel + 1 => do
    let read ← shellOptions true (call.arguments.length + 1) call.arguments
    match read.hasScript, read.rest with
    | true, [] => giveUp "-c requires an argument"
    | true, text :: rest => do
      modifyShell fun shell => { shell with name := rest.headD shell.name, parameters := rest.tail }
      discard <| runText fuel { final := true } false 0 { rest := text.toList }
    | false, file :: parameters =>
      if (← getShell).has 's' then do
        modifyShell fun shell => { shell with parameters := read.rest }
        runInput fuel
      else do
        let session ← get
        match session.machine.tree.read session.shell.directory file with
        | .error e =>
          if e = .isADirectory then setStatus 2
          else giveUp ("cannot open " ++ file ++ ": " ++ openingReason e)
        | .ok text => do
          modifyShell fun shell => { shell with name := file, parameters }
          discard <| runText fuel {} true 0 { rest := text.toList }
    | false, [] => do
      modifyShell (·.setOption 's' true)
      runInput fuel

/-- Run what comes through the input. -/
def runInput (fuel : Nat) : Act Unit :=
  match fuel with
  | 0 => throw .endless
  | fuel + 1 => do
    let session ← get
    match session.machine.supply session.shell.channels 0 with
    | .error _ => pure ()
    | .ok supply => do
      if supply.isEndless then throw .endless
      modifyMachine (·.consume session.shell.channels 0 (supply.rest.length + 1))
      discard <| runText fuel {} true 0 { rest := supply.rest }

/-- Run a script, one complete command after another. The code is that of the last one. The text of
files is shown while it is read, if an option asks for that. -/
def runText (fuel : Nat) (standing : Standing) (isFile : Bool) (code : Nat) (state : ReaderState) :
    Act Nat :=
  match fuel with
  | 0 => throw .endless
  | fuel + 1 => do
    let shell ← getShell
    let state := { state with aliases := shell.aliases, nextDocument := shell.nextDocument }
    match Reader.completeCommand.run state with
    | .error fault => do
      if isFile && shell.has 'v' then tellError (passedText state.rest fault.rest)
      modifyShell fun shell => { shell with line := fault.line }
      giveUp fault.message
    | .ok (script?, after) => do
      if isFile && shell.has 'v' then tellError (passedText state.rest after.rest)
      match script? with
      | none => return code
      | some script => do
        modifyShell fun shell => { shell with
          readLine := after.line
          documents := after.documents ++ shell.documents
          nextDocument := after.nextDocument }
        run fuel { standing with final := standing.final && Reader.isAtEnd after } script
        let status := (← getShell).status
        runText fuel standing isFile (if script.isNothing then code else status) { after with documents := [] }

/-- Run a text as a part of the script. -/
def runString (fuel : Nat) (text : String) : Act Unit :=
  match fuel with
  | 0 => throw .endless
  | fuel + 1 => do
    discard <| deeper (runText fuel {} false 0 { rest := text.toList })

/-- Do what is to be done on the signals that have arrived. -/
def notice (fuel : Nat) : Act Unit :=
  match fuel with
  | 0 => throw .endless
  | fuel + 1 => do
    let session ← get
    if session.machine.signals.isEmpty then return
    let (signals, machine) := session.machine.noticed session.shell.self
    modifyMachine fun _ => machine
    let heeded := signals.filter fun n => n == 9 || n == 19 || session.shell.heeds n
    heeded.forM fun signal => do
      match if signal == 9 || signal == 19 then none else session.shell.traps.lookup signal with
      | none => if isHalting signal then throw .endless else throw (.gone (.killed signal))
      | some action => do
        let shell ← getShell
        modifyShell fun s => { s with savedStatus? := some (shell.savedStatus?.getD shell.status) }
        let outcome ← attempt (runString fuel action)
        modifyShell fun s => { s with savedStatus? := shell.savedStatus? }
        conclude outcome
        setStatus shell.status

/-- What a command writes to its output. -/
def capture (fuel : Nat) (script : Script) : Act String :=
  match fuel with
  | 0 => throw .endless
  | fuel + 1 => do
    if script.isNothing then return ""
    let (reading, writing, machine) := (← getMachine).withPipe
    modifyMachine fun _ => machine
    let process ← newProcess
    let status? ← inCopy process false (runString fuel) do
      setChannel 1 (some writing)
      run fuel { final := true } script
    match status?, (← getMachine).openings[reading]? with
    | some status, some { place := .pipe number, .. } => do
      let pipe := (← getMachine).pipe number
      if pipe.isEndless then throw .endless
      modifyMachine (·.waitUntil pipe.closed)
      tellSignal status
      modifyShell fun shell => { shell with captured := codeOf status }
      return pipe.text
    | _, _ => throw .endless

/-- Run a command. -/
def run (fuel : Nat) (standing : Standing) (script : Script) : Act Unit :=
  match fuel with
  | 0 => throw .endless
  | fuel + 1 => do
    if (← getShell).has 'n' then return
    notice fuel
    if longestRun < (← getMachine).clock then throw .endless
    let substitute := capture fuel
    match script with
    | .nothing => pure ()
    | .simple line assignments words rs => do
      modifyShell fun shell => { shell with line, captured := 0 }
      runSimple fuel standing assignments words rs
      notice fuel
      checkFailure standing
    | .pipeline inBackground scripts =>
      if inBackground then
        runInBackground fuel do
          backgroundStages <$> runStages fuel {} true scripts []
      else do
        joinStages (← runStages fuel standing false scripts [])
        notice fuel
        checkFailure standing
    | .negation script => do
      run fuel { tested := true } script
      let status := (← getShell).status
      setStatus (if status = 0 then 1 else 0)
    | .both first second => do
      run fuel { tested := true } first
      if (← getShell).status = 0 then run fuel standing second
    | .either first second => do
      run fuel { tested := true } first
      if (← getShell).status != 0 then run fuel standing second
    | .sequence first second => do
      run fuel { tested := standing.tested } first
      run fuel standing second
    | .background script rs => do
      let redirects ← rs.mapM (·.expand substitute)
      runInBackground fuel do
        let process ← newProcess
        let status? ← inCopy process true (runString fuel) do
          withoutInput
          insist substitute redirects
          run fuel { final := true } script
        return backgroundStages [{ process, status?, finish := ← now, output := 0 }]
    | .branch test yes no => do
      run fuel { tested := true } test
      if (← getShell).status = 0 then run fuel standing yes
      else if no.isNothing then setStatus 0
      else run fuel standing no
    | .loop kind test body =>
      inLoop (runLoop fuel standing.tested kind test body 0)
    | .each line name words? body => do
      modifyShell fun shell => { shell with line }
      let values ← match words? with
        | some words => expandWords substitute words
        | none => do pure (← getShell).parameters
      inLoop (runEach fuel standing.tested name body values 0)
    | .choose line word arms => do
      modifyShell fun shell => { shell with line }
      let text ← expandText substitute .word word
      runArms fuel standing text arms
    | .function _ name body =>
      modifyShell fun shell => { shell with
        functions := (name, { body }) :: shell.functions.filter (·.1 != name)
        status := 0 }
    | .redirected line script rs => do
      modifyShell fun shell => { shell with line }
      let before := (← getShell).channels
      let outcome ← attempt do
        if ← redirect substitute rs then run fuel { tested := standing.tested } script
      restoreChannels before rs
      conclude outcome
    | .subshell line script rs => do
      modifyShell fun shell => { shell with line }
      let redirects ← rs.mapM (·.expand substitute)
      let inner : Standing := { standing with final := true }
      if standing.final && !(← getShell).hasTraps then do
        insist substitute redirects
        run fuel inner script
      else do
        let process ← newProcess
        concludeProcess (← inCopy process false (runString fuel) do
          insist substitute redirects
          run fuel inner script)
      notice fuel
      checkFailure standing

/-- Start something that runs on beside the shell, which goes on at once. The last process is given
first. -/
def runInBackground (fuel : Nat) (body : Act (List BackgroundProcess)) : Act Unit :=
  match fuel with
  | 0 => throw .endless
  | _ + 1 => do
    let start ← now
    let processes ← body
    let channels := (← getShell).channels
    if processes.any (·.finish?.isNone) then modifyMachine (·.leavePipes channels true)
    modifyMachine fun machine =>
      processes.foldl (fun machine b => machine.withBackground b) (machine.turnBack start)
    processes.head?.forM fun b => addJob b.process
    setStatus 0

/-- Run commands side by side, the output of each being the input of the next. `done` holds what is
known of those before, latest first. -/
def runStages (fuel : Nat) (standing : Standing) (inBackground : Bool) (scripts : List Script)
    (done : List Stage) : Act (List Stage) :=
  match fuel with
  | 0 => throw .endless
  | fuel + 1 => do
    match scripts with
    | [] => return done
    | script :: rest => do
      let start ← now
      let process ← newProcess
      let (reading, writing, machine) := (← getMachine).withPipe
      modifyMachine fun _ => machine
      let status? ← inCopy process inBackground (runString fuel) do
        match done with
        | before :: _ => setChannel 0 (some before.output)
        | [] => if inBackground then withoutInput
        if !rest.isEmpty then setChannel 1 (some writing)
        run fuel { standing with final := true } script
      if status?.isNone then modifyMachine (·.leavePipes [(1, writing)] true)
      let stage : Stage := { process, status?, finish := ← now, output := reading }
      modifyMachine (·.turnBack start)
      runStages fuel standing inBackground rest (stage :: done)

/-- Run the rounds of a loop; the code is that of the last round. -/
def runLoop (fuel : Nat) (tested : Bool) (kind : LoopKind) (test body : Script) (code : Nat) :
    Act Nat :=
  match fuel with
  | 0 => throw .endless
  | fuel + 1 => do
    match ← round (run fuel { tested := true } test) with
    | .leave => return code
    | .again => runLoop fuel tested kind test body code
    | .done => do
      let success := (← getShell).status == 0
      if success != (kind == .whileTrue) then return code
      let progress ← round (run fuel { tested } body)
      let code := (← getShell).status
      if progress == .leave then return code
      else runLoop fuel tested kind test body code

/-- Run a loop over values. -/
def runEach (fuel : Nat) (tested : Bool) (name : String) (body : Script) (values : List String)
    (code : Nat) : Act Nat :=
  match fuel with
  | 0 => throw .endless
  | fuel + 1 => do
    match values with
    | [] => return code
    | value :: values => do
      setVariable name (some value)
      let progress ← round (run fuel { tested } body)
      let code := (← getShell).status
      if progress == .leave then return code
      else runEach fuel tested name body values code

/-- Run the first script one of whose patterns covers the text. -/
def runArms (fuel : Nat) (standing : Standing) (text : String)
    (arms : List (List Word × Script)) : Act Unit :=
  match fuel with
  | 0 => throw .endless
  | fuel + 1 => do
    match arms with
    | [] => setStatus 0
    | (words, script) :: arms => do
      if ← anyCovers (capture fuel) text words then
        if script.isNothing then setStatus 0 else run fuel standing script
      else runArms fuel standing text arms

/-- Run a simple command. -/
def runSimple (fuel : Nat) (standing : Standing) (assignments words : List Word)
    (rs : List Redirection) : Act Unit :=
  match fuel with
  | 0 => throw .endless
  | fuel + 1 => do
    let substitute := capture fuel
    let (plan, words) ← planCommand substitute words
    let called := words.drop plan.place
    let before := (← getShell).channels
    let outcome ← attempt (withLocals plan.isLocal do
      if !(← redirect substitute rs) then
        if plan.isSpecial then throw .failure
      else do
        let marks : Marks := { exported := plan.isExec && 1 < called.length }
        let assigned ← assignments.mapM fun word => do
          let text ← expandText substitute .assignment word
          if plan.isLocal then makeLocal text true else assign text marks
          return text
        trace fuel before (assigned ++ words)
        perform fuel standing plan called)
    if !plan.isExec then restoreChannels before rs
    conclude outcome

/-- Show a command before it is carried out, if an option asks for that. -/
def trace (fuel : Nat) (channels : Channels) (words : List String) : Act Unit :=
  match fuel with
  | 0 => throw .endless
  | fuel + 1 => do
    let shell ← getShell
    if shell.has 'x' && !shell.isTracing then do
      let lead := (shell.valueOf? "PS4").getD ""
      modifyShell fun shell => { shell with isTracing := true }
      let outcome ← attempt do
        match (Reader.parts (lead.length + 100000) .document [] []).run { rest := lead.toList } with
        | .ok (word, _) => expandText (capture fuel) .document word
        | .error _ => pure lead
      modifyShell fun shell => { shell with isTracing := false }
      let lead ← conclude outcome
      modifyMachine (·.tell channels 2 (traceLine lead words))

/-- Carry out a command whose words are expanded. -/
def perform (fuel : Nat) (standing : Standing) (plan : Plan) (called : List String) : Act Unit :=
  match fuel with
  | 0 => throw .endless
  | fuel + 1 => do
    match called with
    | [] => setStatus (← getShell).captured
    | name :: arguments => do
      let shell ← getShell
      let function? := if plan.isPlain then none else shell.functions.lookup name
      match function? with
      | some function => runFunction fuel standing.tested function arguments
      | none =>
        if isInside name then runInside fuel standing plan.isSpecial name arguments
        else runProgram fuel standing plan called

/-- Run a function with parameters of its own. -/
def runFunction (fuel : Nat) (tested : Bool) (function : Function) (arguments : List String) :
    Act Unit :=
  match fuel with
  | 0 => throw .endless
  | fuel + 1 => do
    let before ← getShell
    if mostCalls ≤ before.calls then
      giveUp ("Maximum function recursion depth (" ++ toString mostCalls ++ ") reached")
    modifyShell fun shell => { shell with
      calls := before.calls + 1
      parameters := arguments
      optionIndex := 1
      optionOffset? := none
      loops := 0 }
    let outcome ← attempt (deeper (run fuel { tested } function.body))
    modifyShell fun shell => { shell with
      calls := before.calls
      parameters := before.parameters
      optionIndex := before.optionIndex
      optionOffset? := before.optionOffset?
      loops := before.loops }
    match outcome with
    | .error .back => pure ()
    | outcome => conclude outcome

/-- Run a command inside the shell. Its errors go no further unless it is special. -/
def runInside (fuel : Nat) (standing : Standing) (isSpecial : Bool) (name : String)
    (arguments : List String) : Act Unit :=
  match fuel with
  | 0 => throw .endless
  | fuel + 1 => do
    let before := (← getShell).commandName?
    modifyShell fun shell => { shell with commandName? := some name }
    let act : Act Nat := match name with
      | "eval" => do
        if arguments.isEmpty then return 0
        let text := " ".intercalate arguments
        deeper (runText fuel { tested := standing.tested } false 0 { rest := text.toList })
      | "." => runFile fuel arguments
      | "exec" => do
        if !arguments.isEmpty then execute fuel arguments
        return 0
      | _ => builtin name arguments
    let outcome ← attempt act
    let wrote ← flush
    match outcome with
    | .ok code => do
      if !wrote then complain (name ++ ": I/O error")
      setStatus (if wrote then code else code ||| 1)
    | .error _ => pure ()
    modifyShell fun shell => { shell with commandName? := before }
    match outcome with
    | .ok _ => pure ()
    | .error .failure => if isSpecial then throw .failure
    | .error flow => throw flow

/-- Run the script of a file as a part of this one. -/
def runFile (fuel : Nat) (arguments : List String) : Act Nat :=
  match fuel with
  | 0 => throw .endless
  | fuel + 1 => do
    match ← operands arguments with
    | [] => return 0
    | name :: _ => do
      let path ← findScript name
      let session ← get
      match session.machine.tree.read session.shell.directory path with
      | .error e =>
        if e = .isADirectory then return 0
        else giveUp ("cannot open " ++ path ++ ": " ++ openingReason e)
      | .ok text => do
        modifyShell fun shell => { shell with commandName? := some path }
        let outcome ← attempt (deeper (runText fuel {} true 0 { rest := text.toList }))
        match outcome with
        | .ok code => return code
        | .error .back => return (← getShell).status
        | .error flow => throw flow

/-- Become a program. -/
def execute (fuel : Nat) (called : List String) : Act Unit :=
  match fuel with
  | 0 => throw .endless
  | fuel + 1 => do
    let shell ← getShell
    let name := called.headD ""
    let found ← findProgram shell.searchPath name
    let call (path : String) := programCall shell shell.self false path called
    let machine ← getMachine
    let (launch, machine) := match found with
      | .error e => (Launch.refused e, machine)
      | .ok path => launchScript fuel "/bin/sh" (call path) machine
    modifyMachine fun _ => machine
    match launch with
    | .refused cause => do
      complain (name ++ ": " ++ refusedReason cause)
      setStatus (refusedCode cause)
      throw .stop
    | .ended status => throw (.gone status)
    | .endless => throw .endless

/-- Run a program and take note of its end. If nothing follows, the shell becomes the program. -/
def runProgram (fuel : Nat) (standing : Standing) (plan : Plan) (called : List String) :
    Act Unit :=
  match fuel with
  | 0 => throw .endless
  | fuel + 1 => do
    let name := called.headD ""
    match ← resolveProgram plan name with
    | .error cause => do
      complain (name ++ ": " ++ refusedReason cause)
      setStatus 127
    | .ok path => do
      let shell ← getShell
      let isLast := standing.final && !shell.hasTraps
      let process ← if isLast then pure shell.self else newProcess
      let call := programCall shell process (!isLast) path called
      let (launch, machine) := launchScript fuel "/bin/sh" call (← getMachine)
      modifyMachine fun _ => machine
      match launch with
      | .refused cause => do
        complain (name ++ ": " ++ refusedReason cause)
        setStatus (refusedCode cause)
        if isLast then throw .stop
      | .ended status =>
        if isLast then throw (.gone status) else concludeProcess (some status)
      | .endless => throw .endless

end

end Polyglot.Shell
