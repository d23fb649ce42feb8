import Polyglot.Sandbox.Tool.Quantity

/-!
# Orders that are not alphabetical

Lines in any order at all, and names in an order in which each comes before those that must follow
it. Where names must follow one another in a circle, the circle is told and broken.
-/

namespace Polyglot.Tool

/-! ## Any order -/

structure ShuffleSettings where
  /-- The arguments are the lines. -/
  echoes : Bool := false
  /-- The lines are the numbers in a range. -/
  range? : Option (Nat × Nat) := none
  count? : Option Nat := none
  output? : Option String := none
  source? : Option String := none
  /-- Lines may come more than once. -/
  repeats : Bool := false
  mark : Char := '\n'

namespace ShuffleSettings

def options : OptionTable where
  letters := "ei:n:o:rz"
  words := [("echo", "e"), ("input-range=", "i"), ("head-count=", "n"), ("output=", "o"),
    ("random-source=", "source"), ("repeat", "r"), ("zero-terminated", "z")]

/-- Two numbers with a hyphen between them, the second at most one less than the first. -/
def readRange? (text : String) : Option (Nat × Nat) := do
  let first := text.toList.takeWhile (· != '-')
  let low ← decimal? (String.ofList first)
  let high ← decimal? (String.ofList (text.toList.drop (first.length + 1)))
  if low ≤ high + 1 then some (low, high) else none

def step (settings : ShuffleSettings) (option : GivenOption) : Work ShuffleSettings := do
  match option.key with
  | "e" => return { settings with echoes := true }
  | "i" =>
    if settings.range?.isSome then Work.die "multiple -i options specified"
    match readRange? option.value with
    | some range => return { settings with range? := some range }
    | none => Work.die ("invalid input range: " ++ quoted option.value)
  | "n" =>
    match Quantity.unsigned "" option.value with
    | .error .overflow => return settings
    | .error _ => Work.die ("invalid line count: " ++ quoted option.value)
    | .ok n => return { settings with count? := some ((settings.count?.map (min n)).getD n) }
  | "o" =>
    if settings.output?.any (· != option.value) then Work.die "multiple output files specified"
    return { settings with output? := some option.value }
  | "source" =>
    if settings.source?.any (· != option.value) then
      Work.die "multiple random sources specified"
    return { settings with source? := some option.value }
  | "r" => return { settings with repeats := true }
  | _ => return { settings with mark := '\x00' }

/-- The lines to put into an order. -/
def lines (settings : ShuffleSettings) (operands : List String) : Work (List (List Char)) := do
  match settings.range? with
  | some (low, high) =>
    let count := min (high + 1 - low) (settings.count?.getD (high + 1 - low))
    Work.insistOnBound count
    return (List.range count).map fun n => (toString (low + n)).toList
  | none =>
    if settings.echoes then return operands.map String.toList
    -- a file of which nothing is wanted is not opened
    if settings.count? == some 0 then return []
    match ← Work.readFile (operands.headD "-") with
    | .ok cs => return textPieces settings.mark cs
    | .error .isADirectory => Work.die "read error: Is a directory"
    | .error e => Work.die (shellName (operands.headD "-") ++ ": " ++ e.reason)

end ShuffleSettings

/-- `shuf`: lines in some order. Every order is as good as another. -/
def shuffle : Tool := do
  let (settings, operands) ← Work.options ShuffleSettings.options ({} : ShuffleSettings)
    ShuffleSettings.step
  if settings.echoes && settings.range?.isSome then
    Work.misuse "cannot combine -e and -i options"
  let extra := if settings.range?.isSome then operands.head?
    else if settings.echoes then none else operands[1]?
  match extra with
  | some operand => Work.misuse ("extra operand " ++ quoted operand)
  | none => pure ()
  let lines ← settings.lines operands
  match settings.source? with
  | none => pure ()
  | some source =>
    match ← Work.find source with
    | .error e => Work.die (shellName source ++ ": " ++ e.reason)
    | .ok _ => pure ()
  let chosen ← if !settings.repeats then pure (lines.take (settings.count?.getD lines.length))
    else match lines, settings.count? with
      | _, some 0 => pure []
      | [], _ => Work.die "no lines to repeat"
      | _, some n => do
        Work.insistOnBound n
        pure ((List.range n).map fun i => lines.getD (i % lines.length) [])
      | _, none => do
        modify fun desk => { desk with isEndless := true }
        pure ((List.replicate 1000 lines).flatten)
  let text := String.ofList (chosen.flatMap (· ++ [settings.mark]))
  match settings.output? with
  | none => Work.say text
  | some output =>
    match ← Work.writeFile output text with
    | .ok () => pure ()
    | .error e => Work.die (shellName output ++ ": " ++ e.reason)

/-! ## Orders by precedence -/

/-- A name with those that must follow it, and how often it must follow others. -/
structure Precedence where
  name : String
  /-- The latest first. -/
  followers : List String := []
  leaders : Nat := 0

/-- Names in alphabetical order. -/
abbrev Precedences := List Precedence

namespace Precedences

def get? (names : Precedences) (name : String) : Option Precedence :=
  names.find? (·.name == name)

def update (names : Precedences) (name : String) (f : Precedence → Precedence) : Precedences :=
  names.map fun p => if p.name == name then f p else p

/-- One name must come before another. -/
def follow (names : Precedences) (first second : String) : Precedences :=
  if first == second then names
  else
    let names := names.update second fun p => { p with leaders := p.leaders + 1 }
    names.update first fun p => { p with followers := second :: p.followers }

/-- Pairs of names that must follow each other. -/
def ofPairs (words : List String) : Precedences :=
  let names : Precedences := (words.eraseDups.mergeSort (· ≤ ·)).map fun name => { name }
  let rec add (names : Precedences) : List String → Precedences
    | first :: second :: rest => add (names.follow first second) rest
    | _ => names
  add names words

/-- Take those that need not wait, in order, and then those that need wait no longer. -/
def release (names : Precedences) : (fuel : Nat) → (queue done : List String) →
    Precedences × List String
  | 0, _, done => (names, done)
  | _, [], done => (names, done)
  | fuel + 1, name :: queue, done =>
    let followers := (names.get? name).elim [] (·.followers)
    let (names, freed) := followers.foldl
      (fun (names, freed) follower =>
        let left := (get? names follower).elim 0 fun p => p.leaders - 1
        (update names follower fun p => { p with leaders := left },
          if left = 0 then freed ++ [follower] else freed))
      ((names, []) : Precedences × List String)
    release names fuel (queue ++ freed) (name :: done)

/-- Go once through the names that wait to build a chain in which each must come before the next.
A name that must come before the first one is put in front, until one is in the chain already:
the names up to there form a circle, which is broken before the last of them. -/
def extend (chain : List String) (all : Precedences) :
    Precedences → List String × Option (List String × Precedences)
  | [] => (chain, none)
  | p :: rest =>
    if p.leaders = 0 then extend chain all rest
    else match chain with
      | [] => extend [p.name] all rest
      | head :: _ =>
        if !p.followers.contains head then extend chain all rest
        else if chain.dropLast.contains p.name then
          let circle := chain.takeWhile (· != p.name) ++ [p.name]
          let all := all.update head fun q => { q with leaders := q.leaders - 1 }
          let all := all.update p.name fun q => { q with followers := q.followers.erase head }
          ([], some (circle, all))
        else extend (p.name :: chain) all rest

/-- Find a circle and break it. -/
def breakCircle (names : Precedences) : (fuel : Nat) → (chain : List String) →
    List String × Precedences
  | 0, _ => ([], names.map fun p => { p with leaders := 0 })
  | fuel + 1, chain =>
    match extend chain names names with
    | (_, some found) => found
    | (chain, none) => breakCircle names fuel chain

end Precedences

/-- Say names in order; `source` is where they come from. -/
def sayInOrder (source : String) : (fuel : Nat) → (waiting : Precedences) → Work Unit
  | 0, _ => return
  | fuel + 1, waiting => do
    if waiting.isEmpty then return
    let free := (waiting.filter (·.leaders = 0)).map (·.name)
    let (waiting, done) := waiting.release (waiting.length + 1) free []
    done.reverse.forM Work.sayLine
    let waiting := waiting.filter fun p => !done.contains p.name
    if waiting.isEmpty then return
    Work.fault (shellName source ++ ": input contains a loop:")
    let (circle, waiting) := Precedences.breakCircle waiting (2 * waiting.length + 2) []
    circle.forM Work.complain
    sayInOrder source fuel waiting

/-- `tsort`: names in an order that pairs of them ask for. -/
def sortByPrecedence : Tool := do
  let (_, operands) ← Work.optionList { letters := "" }
  match operands with
  | _ :: extra :: _ => Work.misuse ("extra operand " ++ quoted extra)
  | _ => pure ()
  let source := operands.headD "-"
  match ← Work.readFile source with
  | .error .isADirectory => Work.die (shellName source ++ ": read error: Is a directory")
  | .error e => Work.die (shellName source ++ ": " ++ e.reason)
  | .ok cs =>
    let isGap (c : Char) : Bool := c == ' ' || c == '\t' || c == '\n'
    let words := (((cs.map fun c => if isGap c then ' ' else c).splitOn ' ').filter
      (!·.isEmpty)).map String.ofList
    if words.length % 2 = 1 then
      Work.die (shellName source ++ ": input contains an odd number of tokens")
    sayInOrder source (words.length + 1) (Precedences.ofPairs words)

end Polyglot.Tool
