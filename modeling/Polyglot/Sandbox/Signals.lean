/-!
# Names of signals

Signals are known by numbers and, whatever the case of the letters, by names. Zero is the end of
the shell.
-/

namespace Polyglot

/-- One more than the number of the last signal. -/
def signalCount : Nat := 65

def signalName (n : Nat) : String :=
  let names := ["EXIT", "HUP", "INT", "QUIT", "ILL", "TRAP", "ABRT", "BUS", "FPE", "KILL", "USR1",
    "SEGV", "USR2", "PIPE", "ALRM", "TERM", "16", "CHLD", "CONT", "STOP", "TSTP", "TTIN", "TTOU",
    "URG", "XCPU", "XFSZ", "VTALRM", "PROF", "WINCH", "IO", "PWR", "SYS", "32", "33"]
  match names[n]? with
  | some name => name
  | none =>
    if n == 34 then "RTMIN"
    else if n < 50 then "RTMIN+" ++ toString (n - 34)
    else if n < 64 then "RTMAX-" ++ toString (64 - n)
    else "RTMAX"

/-- The signal that a number or a name means, from `least` on. -/
def signalNumber? (least : Nat) (text : String) : Option Nat :=
  let cs := text.toList
  if !cs.isEmpty && cs.all Char.isDigit then
    (text.toNat?).bind fun n => if n < signalCount then some n else none
  else
    let upper := String.ofList (cs.map Char.toUpper)
    (List.range signalCount).find? fun n => least ≤ n && signalName n == upper

end Polyglot
