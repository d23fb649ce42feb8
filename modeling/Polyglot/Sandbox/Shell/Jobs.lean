import Polyglot.Sandbox.Shell.Arguments
import Polyglot.Sandbox.Shell.Variables
import Polyglot.Sandbox.Signals

/-!
# Jobs and signals

What is to be done on signals, sending them, and processes in the background.
-/

namespace Polyglot.Shell

/-- Say what is to be done on some signals. -/
def setTraps (action? : Option String) : List String → Act Nat
  | [] => return 0
  | name :: names => do
    match signalNumber? 0 name with
    | none => do
      tellError ("trap: " ++ name ++ ": bad trap\n")
      return 1
    | some signal => do
      modifyShell fun shell =>
        let others := shell.traps.filter (·.1 != signal)
        { shell with traps := match action? with
          | some action => if action == "-" then others else (signal, action) :: others
          | none => others }
      setTraps action? names

def trapCommand (arguments : List String) : Act Nat := do
  match ← operands arguments with
  | [] => do
    let traps := (← getShell).traps.mergeSort fun a b => a.1 ≤ b.1
    traps.forM fun (signal, action) =>
      say ("trap -- " ++ singleQuoted action ++ " " ++ signalName signal ++ "\n")
    return 0
  | [name] => setTraps none [name]
  | first :: rest =>
    if (signalNumber? 0 first).isSome then setTraps none (first :: rest)
    else setTraps (some first) rest

/-! ## Processes in the background -/

/-- Take note of a process that was started in the background. What has been waited for is
forgotten. -/
def addJob (process : Nat) : Act Unit := do
  let machine ← getMachine
  modifyShell fun shell =>
    let jobs := shell.jobs.filter fun job => !job.waited || machine.isUnderWay job.process
    let numbers := (jobs.map (·.number)).mergeSort (· ≤ ·)
    let number := numbers.foldl (fun free n => if n = free then n + 1 else free) 1
    { shell with jobs := { number, process } :: jobs, background? := some process }

/-- The job that a text with a percent sign means; without a text it is the latest. -/
def findJob (text? : Option String) : Act Job := do
  let jobs := (← getShell).jobs
  let name := ((text?.getD "").drop 1).toString
  let found? :=
    if ["", "%", "+"].contains name then jobs.head?
    else if name == "-" then jobs[1]?
    else name.toNat?.bind fun n => jobs.find? (·.number == n)
  match found?, text? with
  | some job, _ => return job
  | none, some text =>
    if ["", "%", "+", "-"].contains name then giveUp "No current job"
    else giveUp ("No such job: " ++ text)
  | none, none => giveUp "No current job"

/-- Give a job to the foreground or the background, which only shells at terminals can. -/
def resumeCommand (arguments : List String) : Act Nat := do
  let names ← operands arguments
  discard <| findJob names.head?
  giveUp ("job " ++ names.headD "%+" ++ " not created under job control")

/-- How a job stands. -/
def jobState (machine : Machine) (job : Job) : String :=
  match machine.isUnderWay job.process, machine.background? job.process with
  | true, _ => "Running"
  | false, some { status := .exited code, .. } =>
    if code = 0 then "Done" else "Done(" ++ toString code ++ ")"
  | false, some { status := .killed signal _, .. } => signalWords signal
  | false, none => "Done"

/-- Show jobs and give those that are not done. -/
def sayJobs (machine : Machine) : (jobs left : List Job) → Act (List Job)
  | [], left => return left
  | job :: jobs, left => do
    let mark := match left.length with
      | 0 => '+'
      | 1 => '-'
      | _ => ' '
    let text := "[" ++ toString job.number ++ "] " ++ String.singleton mark ++ " " ++
      jobState machine job
    say (text ++ String.ofList (List.replicate (33 - text.length) ' ') ++ "\n")
    sayJobs machine jobs (if machine.isUnderWay job.process then left ++ [job] else left)

def jobsCommand (arguments : List String) : Act Nat := do
  let (given, _) ← options "lp" arguments
  let jobs := (← getShell).jobs
  if given.any (·.1 == 'p') then
    jobs.forM fun job => say (toString job.process ++ "\n")
  else do
    let left ← sayJobs (← getMachine) jobs []
    modifyShell fun shell => { shell with jobs := left }
  return 0

/-! ## Waiting -/

/-- Wait for a process in the background. If a signal arrives first, its number is given. -/
def await (process : Nat) : Act (Option Nat) := do
  let session ← get
  let finish? := (session.machine.background? process).bind (·.finish?)
  match session.machine.nextSignal? session.shell.self session.shell.heeds, finish? with
  | some signal, some time =>
    if signal.time ≤ time then do
      modifyMachine (·.waitUntil signal.time)
      return some signal.number
    else do
      modifyMachine (·.waitUntil time)
      return none
  | some signal, none => do
    modifyMachine (·.waitUntil signal.time)
    return some signal.number
  | none, some time => do
    modifyMachine (·.waitUntil time)
    return none
  | none, none => throw .endless

/-- Wait for one job after the other. -/
def awaitAll : List Job → Act (Option Nat)
  | [] => return none
  | job :: jobs => do
    match ← await job.process with
    | some signal => return some signal
    | none => do
      modifyShell fun shell =>
        { shell with jobs := shell.jobs.map fun j =>
            if j.process == job.process then { j with waited := true } else j }
      awaitAll jobs

/-- Wait for processes by their numbers; the code is that of the last one that is known. -/
def awaitNamed (code : Nat) : List String → Act Nat
  | [] => return code
  | text :: texts => do
    let job? ← if text.startsWith "%" then some <$> findJob (some text)
      else do
        let process ← count text
        pure ((← getShell).jobs.find? (·.process == process))
    match job? with
    | none => awaitNamed code texts
    | some job =>
      match ← awaitAll [job] with
      | some signal => return 128 + signal
      | none => do
        let status := ((← getMachine).background? job.process).map (·.status)
        let status := status.getD (.exited 0)
        tellSignal status
        awaitNamed (codeOf status) texts

def waitCommand (arguments : List String) : Act Nat := do
  match ← operands arguments with
  | [] =>
    return match ← awaitAll (← getShell).jobs with
      | some signal => 128 + signal
      | none => 0
  | texts => awaitNamed 127 texts

/-! ## Sending signals -/

/-- Send a signal to a process; tell whether it is there. Signal 0 does nothing else. -/
def sendSignal (signal process : Nat) : Act Bool := do
  let session ← get
  let shell := session.shell
  if process == shell.self || shell.ancestors.contains process then do
    if signal != 0 then modifyMachine (·.signal process signal)
    return true
  match session.machine.background? process with
  | some b => do
    if !session.machine.isUnderWay process then return false
    if !isHarmless signal && !isHalting signal && !b.ignored.contains signal then
      modifyMachine (·.endBackground process (.killed signal))
    return true
  | none => return false

/-- Send a signal to whom a text means: a process or a job. -/
def signalTo (signal : Nat) (text : String) : Act Bool := do
  if text.startsWith "%" then do
    -- a job is no group of processes without a terminal
    discard <| findJob (some text)
    return false
  else if text.startsWith "-" then do
    discard <| count (text.drop 1).toString
    return false
  else sendSignal signal (← count text)

/-- Tell the name of the signal that ended a command with some code, or all names. -/
def listSignals : List String → Act Nat
  | [] => do
    (List.range signalCount).forM fun n => say ((if n = 0 then "0" else signalName n) ++ "\n")
    return 0
  | text :: _ => do
    let n ← count text
    let signal := if 128 < n then n - 128 else n
    if signal = 0 || signalCount ≤ signal then
      giveUp ("invalid signal number or exit status: " ++ text)
    say (signalName signal ++ "\n")
    return 0

/-- The signal to be sent, whether names are to be listed, and the other arguments. -/
def signalOptions : List String → Act (Option Nat × Bool × List String)
  | [] => return (none, false, [])
  | first :: rest => do
    if !first.startsWith "-" then return (none, false, first :: rest)
    match signalNumber? 1 (first.drop 1).toString with
    | some signal => return (some signal, false, rest)
    | none => do
      let (given, rest) ← options "ls:" (first :: rest)
      let signal? ← given.foldlM
        (fun signal? (letter, name) =>
          if letter == 's' then
            match signalNumber? 1 name with
            | some signal => return some signal
            | none => giveUp ("invalid signal number or name: " ++ name)
          else return signal?)
        none
      return (signal?, given.any (·.1 == 'l'), rest)

def killCommand (arguments : List String) : Act Nat := do
  let (signal?, lists, rest) ← signalOptions arguments
  if arguments.isEmpty || (if lists then signal?.isSome && !rest.isEmpty else rest.isEmpty) then
    giveUp ("Usage: kill [-s sigspec | -signum | -sigspec] [pid | job]... or\n" ++
      "kill -l [exitstatus]")
  if lists then listSignals rest
  else
    rest.foldlM
      (fun code text => do
        if ← signalTo (signal?.getD 15) text then return code
        else do
          complain "No such process\n"
          return 1)
      0

end Polyglot.Shell
