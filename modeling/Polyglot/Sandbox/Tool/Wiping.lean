import Polyglot.Sandbox.Tool.Options
import Polyglot.Sandbox.Tool.Quantity

/-!
# Overwriting files

What was in a file is written over so that nothing of it is left. Passes that would write anything
at all write ones here.
-/

namespace Polyglot.Tool

structure WipeSettings where
  passes : Nat := 3
  size? : Option Nat := none
  removes : Bool := false
  isVerbose : Bool := false
  exact : Bool := false
  zeros : Bool := false

namespace WipeSettings

def options : OptionTable where
  letters := "fn:s:uvxz"
  words := [("exact", "x"), ("force", "f"), ("iterations=", "n"), ("size=", "s"),
    ("random-source=", "source"), ("remove?", "remove"), ("verbose", "v"), ("zero", "z")]

def step (settings : WipeSettings) (option : GivenOption) : Work WipeSettings := do
  match option.key with
  | "n" => return { settings with
      passes := ← Work.quantity "" "invalid number of passes" option.value }
  | "s" => return { settings with
      size? := some (← Work.quantity "cbBkKMGTPEZYRQ0" "invalid file size" option.value)
      exact := true }
  | "u" => return { settings with removes := true }
  | "remove" =>
    match option.value? with
    | some text =>
      discard <| Work.choice "--remove" text [(["unlink"], ()), (["wipe"], ()), (["wipesync"], ())]
    | none => pure ()
    return { settings with removes := true }
  | "v" => return { settings with isVerbose := true }
  | "x" => return { settings with exact := true }
  | "z" => return { settings with zeros := true }
  | _ => return settings

/-- Tell of each pass. -/
def tellPasses (settings : WipeSettings) (operand : String) : Work Unit := do
  let total := settings.passes + (if settings.zeros then 1 else 0)
  (List.range total).forM fun n =>
    let kind := if n < settings.passes then "random" else "000000"
    Work.complain (shellName operand ++ ": pass " ++ toString (n + 1) ++ "/" ++ toString total ++
      " (" ++ kind ++ ")...")

def wipe (settings : WipeSettings) (operand : String) : Work Unit := do
  match ← Work.find operand with
  | .error e => Work.fault (shellName operand ++ ": failed to open for writing: " ++ e.reason)
  | .ok (path, number, node) =>
    if node.isDirectory then
      Work.fault (shellName operand ++ ": failed to open for writing: Is a directory")
    else if !node.isFile then
      Work.fault (shellName operand ++ ": invalid file type")
    else
      let whole := if settings.exact then node.size else (node.size + 4095) / 4096 * 4096
      let size := settings.size?.getD whole
      Work.insistOnBound (size * settings.passes)
      if settings.isVerbose then settings.tellPasses operand
      let total := settings.passes + (if settings.zeros then 1 else 0)
      if total != 0 then
        let octet := if settings.zeros then '\x00' else '\xff'
        let tree ← Work.getTree
        Work.setTree (tree.writeAt number 0 (String.ofList (List.replicate size octet)))
      if settings.removes then
        Work.setTree ((← Work.getTree).removeName path)
        if settings.isVerbose then
          Work.complain (shellName operand ++ ": removing")
          let zeros (n : Nat) : String := String.ofList (List.replicate n '0')
          let length := (path.getLastD "").length
          let above := String.ofList ((operand.toList.reverse.dropWhile (· != '/')).reverse)
          (List.range length).forM fun n => do
            let before := if n = 0 then shellName operand
              else above ++ zeros (length - n + 1)
            Work.complain (before ++ ": renamed to " ++ above ++ zeros (length - n))
          Work.complain (shellName operand ++ ": removed")

end WipeSettings

/-- `shred`: files written over. -/
def wipeFiles : Tool := do
  let (settings, operands) ← Work.options WipeSettings.options ({} : WipeSettings)
    WipeSettings.step
  if operands.isEmpty then Work.misuse "missing file operand"
  operands.forM settings.wipe

end Polyglot.Tool
