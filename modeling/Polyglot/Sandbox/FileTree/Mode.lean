import Polyglot.Text.Lines

/-!
# Modes

Twelve bits that say who may do what with a file: read, write and execute for the owner, the group
and others, and three bits for programs and directories. A change of modes is written as digits or
as clauses such as `u+x,go=r`.
-/

namespace Polyglot.Mode

def allBits : Nat := 0o7777

def readBits : Nat := 0o444
def writeBits : Nat := 0o222
def executeBits : Nat := 0o111

/-- The bits of `mode` that are not in `others`. -/
def without (mode others : Nat) : Nat :=
  mode &&& (allBits - (others &&& allBits))

/-- Whose bits a letter means. -/
def affectedBits? : Char → Option Nat
  | 'u' => some 0o4700
  | 'g' => some 0o2070
  | 'o' => some 0o1007
  | 'a' => some allBits
  | _ => none

/-- What the value of a step is taken from. -/
inductive Source where
  | bits
  /-- The permissions that somebody has, which are given to others. -/
  | copy
  /-- The bits, and execution where somebody may execute already or if it is a directory. -/
  | cautious
deriving DecidableEq, Repr

/-- One step of a change. -/
structure Step where
  operator : Char
  source : Source := .bits
  /-- Whom it is for; nobody named is 0. -/
  affected : Nat
  value : Nat
  /-- The bits that are meant even where directories would keep theirs. -/
  mentioned : Nat
deriving DecidableEq, Repr

def isOctal (c : Char) : Bool :=
  '0' ≤ c && c ≤ '7'

def octal (digits : List Char) : Nat :=
  digits.foldl (fun n d => 8 * n + (d.toNat - 48)) 0

def isOperator (c : Char) : Bool :=
  c == '+' || c == '-' || c == '='

/-- The permissions by letters from here on, and what follows them. -/
def letters : List Char → Nat × Source × List Char
  | [] => (0, .bits, [])
  | c :: rest =>
    let bits? := match c with
      | 'r' => some readBits
      | 'w' => some writeBits
      | 'x' => some executeBits
      | 's' => some 0o6000
      | 't' => some 0o1000
      | 'X' => some 0
      | _ => none
    match bits? with
    | none => (0, .bits, c :: rest)
    | some n =>
      let (more, source, rest) := letters rest
      (n ||| more, if c == 'X' then .cautious else source, rest)

/-- A step with what it mentions. -/
def Step.make (operator : Char) (source : Source) (affected value : Nat) : Step :=
  { operator, source, affected, value
    mentioned := if affected = 0 then value else affected &&& value }

/-- The steps of a clause from its first operator on. -/
def steps (affected : Nat) : (fuel : Nat) → List Char → Option (List Step)
  | 0, _ => none
  | _, [] => some []
  | fuel + 1, operator :: rest =>
    if !isOperator operator then none
    else match rest with
      | 'u' :: more => (steps affected fuel more).map (.make operator .copy affected 0o700 :: ·)
      | 'g' :: more => (steps affected fuel more).map (.make operator .copy affected 0o070 :: ·)
      | 'o' :: more => (steps affected fuel more).map (.make operator .copy affected 0o007 :: ·)
      | _ =>
        let digits := rest.takeWhile isOctal
        if digits.isEmpty then
          let (value, source, rest) := letters rest
          (steps affected fuel rest).map (.make operator source affected value :: ·)
        else if affected ≠ 0 || allBits < octal digits || digits.length < rest.length then none
        else some [{ operator, affected := allBits, value := octal digits, mentioned := allBits }]

/-- One clause: for whom, then steps. -/
def clause (cs : List Char) : Option (List Step) :=
  let people := cs.takeWhile fun c => (affectedBits? c).isSome
  let affected := people.foldl (fun n c => n ||| (affectedBits? c).getD 0) 0
  match cs.drop people.length with
  | [] => none
  | rest => steps affected (rest.length + 1) rest

/-- A written change of modes. -/
def change? (text : String) : Option (List Step) :=
  let cs := text.toList
  if cs.head?.any isOctal then
    if cs.all isOctal && octal cs ≤ allBits then
      let value := octal cs
      let mentioned := if cs.length < 5 then (value &&& 0o6000) ||| 0o1777 else allBits
      some [{ operator := '=', affected := allBits, value, mentioned }]
    else none
  else ((cs.splitOn ',').mapM clause).map List.flatten

/-- The permissions that somebody has, for everybody. -/
def spread (bits : Nat) : Nat :=
  let has (kind : Nat) := bits &&& kind != 0
  (if has readBits then readBits else 0) ||| (if has writeBits then writeBits else 0) |||
    (if has executeBits then executeBits else 0)

/-- A mode after one step; `mask` counts where nobody was named. -/
def Step.apply (step : Step) (isDirectory : Bool) (mask mode : Nat) : Nat :=
  let omitted := if isDirectory then without 0o6000 step.mentioned else 0
  let value := match step.source with
    | .bits => step.value
    | .copy => let own := step.value &&& mode; own ||| spread own
    | .cautious =>
      if isDirectory || mode &&& executeBits != 0 then step.value ||| executeBits else step.value
  let value := without
    (if step.affected = 0 then without value mask else value &&& step.affected) omitted
  match step.operator with
  | '+' => mode ||| value
  | '-' => without mode value
  | _ =>
    let preserved := (if step.affected = 0 then 0 else without allBits step.affected) ||| omitted
    (mode &&& preserved) ||| value

/-- A mode after a change. -/
def apply (steps : List Step) (isDirectory : Bool) (mask mode : Nat) : Nat :=
  steps.foldl (fun mode step => step.apply isDirectory mask mode) mode

/-- The digits of a mode. -/
def digits (mode : Nat) : String :=
  String.ofList (Nat.toDigits 8 mode)

/-- The letters of a mode: three for each class, in which a special bit changes the last. -/
def lettersOf (mode : Nat) : String :=
  let has (bit : Nat) := mode &&& bit != 0
  let triple (shift : Nat) (special : Bool) (mark blank : Char) : List Char :=
    let bits := mode / shift % 8
    let executes := bits % 2 == 1
    [if bits / 4 % 2 == 1 then 'r' else '-', if bits / 2 % 2 == 1 then 'w' else '-',
      if special then (if executes then mark else blank) else if executes then 'x' else '-']
  String.ofList (triple 0o100 (has 0o4000) 's' 'S' ++ triple 0o10 (has 0o2000) 's' 'S' ++
    triple 1 (has 0o1000) 't' 'T')

end Polyglot.Mode
