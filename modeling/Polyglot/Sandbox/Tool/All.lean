import Polyglot.Sandbox.Tool.Blocks
import Polyglot.Sandbox.Tool.Checksum
import Polyglot.Sandbox.Tool.Columns
import Polyglot.Sandbox.Tool.Copying
import Polyglot.Sandbox.Tool.Counting
import Polyglot.Sandbox.Tool.Dividing
import Polyglot.Sandbox.Tool.Dumping
import Polyglot.Sandbox.Tool.Ends
import Polyglot.Sandbox.Tool.Identity
import Polyglot.Sandbox.Tool.Letters
import Polyglot.Sandbox.Tool.Linking
import Polyglot.Sandbox.Tool.Listing
import Polyglot.Sandbox.Tool.Merging
import Polyglot.Sandbox.Tool.Moment
import Polyglot.Sandbox.Tool.Paragraphs
import Polyglot.Sandbox.Tool.PathName
import Polyglot.Sandbox.Tool.Permission
import Polyglot.Sandbox.Tool.Precedence
import Polyglot.Sandbox.Tool.Question
import Polyglot.Sandbox.Tool.Radix
import Polyglot.Sandbox.Tool.Reckoning
import Polyglot.Sandbox.Tool.Repeats
import Polyglot.Sandbox.Tool.Saying
import Polyglot.Sandbox.Tool.Scaling
import Polyglot.Sandbox.Tool.Sections
import Polyglot.Sandbox.Tool.Sequence
import Polyglot.Sandbox.Tool.Sorting
import Polyglot.Sandbox.Tool.Status
import Polyglot.Sandbox.Tool.Tabs
import Polyglot.Sandbox.Tool.Wiping
import Polyglot.Sandbox.Tool.Wrapping

/-!
# The tools of the system

The table of all programs besides the shell.
-/

namespace Polyglot.Tool

/-- Tools that show files or count what is in them. -/
def contentTools : List (String × Tool) := [
  ("cat", concatenate), ("tac", concatenateReversed), ("head", head), ("tail", tail),
  ("wc", countAll), ("nl", numberLines), ("rev", turnLines), ("fold", foldLines),
  ("fmt", fillParagraphs), ("od", dumpOctets), ("shuf", shuffle), ("tsort", sortByPrecedence),
  ("tee", shareInput), ("split", splitFile), ("csplit", splitSections), ("dd", copyBlocks)] ++
  wrapperTools ++ sumTools

/-- Tools that work on the fields and characters of lines. -/
def fieldTools : List (String × Tool) := [
  ("cut", cutColumns), ("paste", pasteLines), ("uniq", dropRepeats), ("comm", commonLines),
  ("join", joinLines), ("tr", changeLetters), ("expand", expandTabs),
  ("unexpand", unexpandTabs), ("sort", sortLines),
  ("numfmt", rescaleNumbers)]

/-- Tools that need no files. -/
def wordTools : List (String × Tool) := [
  ("true", pure ()), ("false", Work.setCode 1), ("echo", echoWords), ("printf", printFormatted),
  ("yes", repeatForever), ("seq", countNumbers), ("factor", takeApart), ("expr", reckon),
  ("test", askQuestion), ("[", askQuestion), ("date", tellDate), ("sleep", sleep)]

/-- Tools that take paths apart and follow them. -/
def pathTools : List (String × Tool) := [
  ("basename", baseNames), ("dirname", directoryNames), ("readlink", readLinks),
  ("realpath", realPaths), ("pwd", tellDirectory), ("pathchk", checkPaths)]

/-- Tools that make, change and remove files. -/
def fileTools : List (String × Tool) := [
  ("mkdir", makeDirectories), ("mkfifo", makePipes), ("mknod", makeNode),
  ("mktemp", makeTemporary), ("touch", touch), ("truncate", truncateFiles), ("rm", removeFiles),
  ("rmdir", removeDirectories), ("unlink", unlinkFile), ("ln", makeLinks), ("link", linkFile),
  ("cp", copyFiles), ("mv", moveFiles), ("install", installFiles), ("chmod", changeModes),
  ("chown", changeOwners false), ("chgrp", changeOwners true), ("sync", synchronize),
  ("shred", wipeFiles)]

/-- Tools that tell of files, of the user and of the machine. -/
def tellingTools : List (String × Tool) := [
  ("ls", list {}), ("dir", list { format := .columns, style := .escaped }),
  ("vdir", list { format := .long, style := .escaped }),
  ("stat", tellStatus), ("du", tellUsage), ("id", tellIdentity), ("groups", tellGroups),
  ("uname", tellSystem), ("tty", tellTerminal),
  ("stty", tellTerminalSettings), ("who", tellVisitors)] ++ simpleTools

/-- Tools that run other programs. -/
def runningTools : List (String × Tool) := [
  ("env", changeEnvironment), ("printenv", printEnvironment), ("timeout", limitTime),
  ("nice", beNice), ("nohup", ignoreHangup), ("stdbuf", changeBuffers)]

/-- The tools with their names. -/
def all : List (String × Tool) :=
  contentTools ++ fieldTools ++ wordTools ++ pathTools ++ fileTools ++ tellingTools ++ runningTools

end Polyglot.Tool
