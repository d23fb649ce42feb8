import Polyglot.Sandbox.Shell.Expansion
import Polyglot.Sandbox.Shell.Lookup

/-!
# Simple commands

What the words of a simple command ask for, before it is carried out: which sort of command its name
means decides how the other words are expanded and what becomes of its variables.
-/

namespace Polyglot.Shell

/-- The words of a command while they are expanded: those that have been, and those to come. -/
structure Unfolding where
  found : List String := []
  left : List Word

/-- What the words of a command ask for. -/
structure Plan where
  /-- How many words come before the name of the command. -/
  place : Nat := 0
  /-- Is it a command of the language itself, whose errors end the shell? -/
  isSpecial : Bool := false
  /-- Its variables are its own. -/
  isLocal : Bool := false
  /-- Its name was given with `command`, so that functions do not count. -/
  isPlain : Bool := false
  /-- Programs are searched in the usual directories. -/
  usesStockPath : Bool := false
  /-- It is the command that changes the channels of the shell itself. -/
  isExec : Bool := false
  /-- Arguments that look like assignments are expanded like those. -/
  takesAssignments : Bool := false

/-- Expand words until there are more than some number of them, if that many come. -/
def Unfolding.past (substitute : Script → Act String) (count : Nat) (found : List String) :
    List Word → Act Unfolding
  | [] => return { found, left := [] }
  | word :: left => do
    if count < found.length then return { found, left := word :: left }
    else past substitute count (found ++ (← expandWord substitute word)) left

/-- Where the name of the command is that follows `command` and its options, and whether its program
is searched in the usual directories. Nothing if no command is to be run. -/
def afterCommand (substitute : Script → Act String) (stock : Bool) :
    (fuel place : Nat) → Unfolding → Act (Unfolding × Option (Nat × Bool))
  | 0, _, words => return (words, none)
  | fuel + 1, place, words => do
    let words ← Unfolding.past substitute place words.found words.left
    match ((words.found[place]?).map String.toList) with
    | none => return (words, none)
    | some ['-', '-'] => do
      let words ← Unfolding.past substitute (place + 1) words.found words.left
      return (words, if place + 1 < words.found.length then some (place + 1, stock) else none)
    | some ('-' :: c :: letters) =>
      if (c :: letters).all (· == 'p') then afterCommand substitute true fuel (place + 1) words
      else return (words, none)
    | some _ => return (words, some (place, stock))

/-- Find out what the name of a command means, passing over `command`. -/
def planFrom (substitute : Script → Act String) :
    (fuel : Nat) → (isFirst : Bool) → Plan → Unfolding → Act (Plan × Unfolding)
  | 0, _, plan, words => return (plan, words)
  | fuel + 1, isFirst, plan, words => do
    let shell ← getShell
    let name := (words.found[plan.place]?).getD ""
    let isFunction := !plan.isPlain && (shell.functions.lookup name).isSome
    if isFunction || !isInside name then
      return ({ plan with isLocal := true, isExec := false, takesAssignments := false }, words)
    let plan := { plan with
      isSpecial := if isFirst then isSpecial name else plan.isSpecial
      isLocal := !(isFirst && isSpecial name)
      isExec := name == "exec"
      takesAssignments := takesAssignments name }
    if name != "command" then return (plan, words)
    let fuel' := words.found.length + words.left.length + 1
    match ← afterCommand substitute plan.usesStockPath fuel' (plan.place + 1) words with
    | (words, none) => return (plan, words)
    | (words, some (place, usesStockPath)) =>
      planFrom substitute fuel false { plan with place, usesStockPath, isPlain := true } words

/-- The arguments after those that decided what is to be done. -/
def expandArguments (substitute : Script → Act String) (takesAssignments : Bool) :
    List Word → Act (List String)
  | [] => return []
  | word :: words => do
    let first ← if takesAssignments && Word.isAssignment word then do
        pure [← expandText substitute .assignment word]
      else expandWord substitute word
    return first ++ (← expandArguments substitute takesAssignments words)

/-- The words of a command as they become, and what they ask for. -/
def planCommand (substitute : Script → Act String) (words : List Word) :
    Act (Plan × List String) := do
  let first ← Unfolding.past substitute 0 [] words
  if first.found.isEmpty then return ({}, [])
  let (plan, words) ← planFrom substitute (words.length + first.found.length + 1) true {} first
  let others ← expandArguments substitute plan.takesAssignments words.left
  return (plan, words.found ++ others)

end Polyglot.Shell
