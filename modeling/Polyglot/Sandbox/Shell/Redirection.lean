import Polyglot.Sandbox.FileTree.Change
import Polyglot.Sandbox.Shell.Expansion

/-!
# Redirections

Channels that lead to files, to texts in the script, or to other channels.
-/

namespace Polyglot.Shell

def creationReason (e : SystemError) : String :=
  if e = .noSuchFile || e = .notADirectory then "Directory nonexistent" else e.reason

def openingReason (e : SystemError) : String :=
  if e = .noSuchFile || e = .notADirectory then "No such file" else e.reason

/-- The channel that the name of a file stands for. -/
def standardChannel? (name : String) : Option Nat :=
  match name with
  | "/dev/stdin" => some 0
  | "/dev/stdout" => some 1
  | "/dev/stderr" => some 2
  | _ =>
    if name.startsWith "/dev/fd/" then
      let digits := (name.drop 8).toString
      if digits.length == 1 then digits.toNat? else none
    else none

/-- Open a file as a redirection asks for it. -/
def openFile (use : FileUse) (name : String) (mode : Nat) (guarded : Bool) (directory : Path)
    (tree : FileTree) : Except SystemError (Opening × FileTree) := do
  match use with
  | .read =>
    let (_, number, _) ← tree.find directory name
    return ({ place := .node number, reads := true }, tree)
  | .append =>
    let (number, tree) ← tree.openNew directory name mode false
    return ({ place := .node number, writes := true, appends := true }, tree)
  | .readWrite =>
    let (number, tree) ← tree.openNew directory name mode false
    return ({ place := .node number, reads := true, writes := true }, tree)
  | _ =>
    if use == .write && guarded && ((tree.look? directory name).any Node.isFile) then
      throw .fileExists
    let (number, tree) ← tree.openNew directory name mode true
    return ({ place := .node number, writes := true }, tree)

/-- Open what a channel leads to once more. -/
def reopen (use : FileUse) (number : Nat) : Act (Except SystemError Nat) := do
  let session ← get
  match session.shell.channels.lookup number with
  | none => return .error .noSuchFile
  | some place =>
    match session.machine.openings[place]? with
    | some { place := .node node, .. } => do
      if use == .write || use == .overwrite then
        modifyMachine fun machine => match machine.tree.kindAt? node with
          | some (.file _) => { machine with tree := machine.tree.setContent node "" }
          | _ => machine
      let opening : Opening := {
        place := .node node
        reads := use == .read || use == .readWrite
        writes := use != .read
        appends := use == .append }
      return .ok (← opened opening)
    | _ => return .ok place

/-- Whoever opens a pipe with a name waits for others. What is written there by processes in the
background is found there later. -/
def isBlocked (place : Place) (tree : FileTree) (use : FileUse)
    (inBackground : Bool) : Bool :=
  match place with
  | .node number =>
    match tree.kindAt? number with
    | some (.fifo held) => if use == .read then held.isEmpty else !inBackground
    | _ => false
  | .pipe _ => false

/-- A redirection whose word is expanded. -/
inductive Redirect where
  | file (use : FileUse) (channel : Nat) (name : String)
  /-- To another channel, or to none at all. -/
  | duplicate (channel : Nat) (source? : Option Nat)
  | document (channel : Nat) (word : Word)

def Redirection.expand (substitute : Script → Act String) : Redirection → Act Redirect
  | .file use channel target => return .file use channel (← expandText substitute .word target)
  | .document channel number => do
    return .document channel (((← getShell).documents.lookup number).getD [])
  | .duplicate channel source => do
    let text ← expandText substitute .word source
    if text == "-" then return .duplicate channel none
    match if text.length == 1 then text.toNat? else none with
    | some n => return .duplicate channel (some n)
    | none => do
      modifyShell fun shell => { shell with line := shell.readLine }
      giveUp "Syntax error: Bad fd number"

/-- Make one redirection, or give the complaint. -/
def Redirect.perform (substitute : Script → Act String) :
    Redirect → Act (Except String Unit)
  | .document channel word => do
    let text ← expandText substitute .document word
    let (place, machine) := (← getMachine).withText text
    modifyMachine fun _ => machine
    setChannel channel (some place)
    return .ok ()
  | .duplicate channel none => do
    setChannel channel none
    return .ok ()
  | .duplicate channel (some source) => do
    if source == channel then return .ok ()
    match (← getShell).channels.lookup source with
    | none => return .error (toString source ++ ": " ++ SystemError.badDescriptor.reason)
    | some place => do
      setChannel channel (some place)
      return .ok ()
  | .file use channel name => do
    let refusal (e : SystemError) : String :=
      if use == .read then "cannot open " ++ name ++ ": " ++ openingReason e
      else "cannot create " ++ name ++ ": " ++ creationReason e
    match standardChannel? name with
    | some source =>
      match ← reopen use source with
      | .error e => return .error (refusal e)
      | .ok place => do
        setChannel channel (some place)
        return .ok ()
    | none => do
      let session ← get
      let mode := 0o666 - (0o666 &&& session.shell.mask)
      match openFile use name mode (session.shell.has 'C') session.shell.directory
          session.machine.tree with
      | .error e => return .error (refusal e)
      | .ok (opening, tree) => do
        if isBlocked opening.place tree use session.shell.inBackground then throw .endless
        modifyMachine fun machine => { machine with tree }
        setChannel channel (some (← opened opening))
        return .ok ()

def performAll (substitute : Script → Act String) : List Redirect → Act (Except String Unit)
  | [] => return .ok ()
  | r :: rs => do
    match ← r.perform substitute with
    | .error e => return .error e
    | .ok () => performAll substitute rs

/-- Make redirections. If one fails, that is told and the code is 2. -/
def redirect (substitute : Script → Act String) (rs : List Redirection) : Act Bool := do
  let redirects ← rs.mapM (·.expand substitute)
  match ← attempt (performAll substitute redirects) with
  | .ok (.ok ()) => return true
  | .ok (.error message) => do
    complain message
    setStatus 2
    return false
  | .error .failure => return false
  | .error flow => throw flow

/-- Make redirections whose words are expanded; the shell ends if one fails. -/
def insist (substitute : Script → Act String) (redirects : List Redirect) : Act Unit := do
  match ← performAll substitute redirects with
  | .ok () => pure ()
  | .error message => giveUp message

/-- The channel that a redirection changes. -/
def Redirection.channel : Redirection → Nat
  | .file _ channel _ => channel
  | .duplicate channel _ => channel
  | .document channel _ => channel

/-- Let the channels of some redirections lead where they led before. -/
def restoreChannels (before : Channels) (rs : List Redirection) : Act Unit :=
  rs.forM fun r => setChannel r.channel (before.lookup r.channel)

end Polyglot.Shell
