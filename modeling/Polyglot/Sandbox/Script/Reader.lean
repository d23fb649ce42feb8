import Polyglot.Sandbox.Script.Token

/-!
# Reading scripts

The grammar of the shell. A script is read one complete command at a time, since aliases that a
command defines count from the next one on.
-/

namespace Polyglot.Shell

/-- Where a run of word parts stands, which decides what is special in it. -/
inductive PartMode where
  | bare
  /-- In the braces of a parameter, without quotes. -/
  | brace
  | double (inBrace : Bool)
  /-- In the braces of a parameter inside double quotes; more double quotes may stand in there, and
  between those a brace ends nothing. -/
  | doubleBrace (inner inDocument : Bool)
  | arithmetic (depth : Nat)
  | document
deriving DecidableEq

namespace PartMode

/-- Do backslashes protect only some characters? -/
def isDouble : PartMode → Bool
  | bare => false
  | brace => false
  | _ => true

/-- What a backslash protects inside double quotes and similar places. -/
def protects (mode : PartMode) (c : Char) : Bool :=
  ['$', '\x60', '\\'].contains c || (match mode with
    | double inBrace => c == '"' || (inBrace && c == '\x7d')
    | doubleBrace .. => c == '"' || c == '\x7d'
    | arithmetic _ => c == '"'
    | _ => false)

/-- The mode in the braces of a parameter. -/
def inBraces (mode : PartMode) (isCut : Bool) : PartMode :=
  if isCut then brace
  else match mode with
    | bare => brace
    | brace => brace
    | document => doubleBrace false true
    | doubleBrace _ inDocument => doubleBrace false inDocument
    | _ => doubleBrace false false

def missing : PartMode → String
  | brace => "Missing '\x7d'"
  | doubleBrace _ true => "Missing '\x7d'"
  | arithmetic _ => "Missing '))'"
  | _ => "Unterminated quoted string"

end PartMode

/-- How a list of commands ends. -/
inductive ListMode where
  /-- With the line. -/
  | line
  /-- Before a token that no command begins with, after one command at least. -/
  | body
  /-- The same, but it may be empty. -/
  | optional
deriving DecidableEq

namespace Reader

/-- How a parameter is used, read off the signs after its name; a sign that means nothing is passed
over. -/
def parameterUse : Reader ParameterUse := do
  let ifEmpty := (← peek?) == some ':'
  if ifEmpty then skip
  let c? ← peek?
  if !c?.isNone then skip
  match c? with
  | some '-' => return .orElse ifEmpty
  | some '=' => return .orAssign ifEmpty
  | some '?' => return .orComplain ifEmpty
  | some '+' => return .inStead ifEmpty
  | some '%' => if ifEmpty then return .senseless else cutting true '%'
  | some '#' => if ifEmpty then return .senseless else cutting false '#'
  | _ => return .senseless
where
  cutting (atEnd : Bool) (mark : Char) : Reader ParameterUse := do
    if (← peek?) == some mark then do
      skip
      return .cut atEnd true
    return .cut atEnd false

/-- Characters that satisfy a test, and line ends behind backslashes between them. -/
def takeWhile (test : Char → Bool) : (fuel : Nat) → Reader (List Char)
  | 0 => return []
  | fuel + 1 => do
    match ← peek? with
    | some c =>
      if test c then do
        skip
        return c :: (← takeWhile test fuel)
      else return []
    | none => return []

/-- The name of a parameter or some digits; nothing if there is neither. -/
def parameterName (oneDigit : Bool) : Reader String := do
  let fuel := (← get).rest.length + 1
  match ← peek? with
  | none => return ""
  | some c =>
    if isNameStart c then return String.ofList (← takeWhile isNamePart fuel)
    else if c.isDigit then
      if oneDigit then do
        skip
        return String.singleton c
      else return String.ofList (← takeWhile Char.isDigit fuel)
    else return ""

/-- A parameter in braces, up to its use. -/
def bracedParameter : Reader (String × ParameterUse) := do
  match ← peek? with
  | some '\x7d' => return ("", .senseless)
  | some '#' => do
    skip
    let name ← parameterName false
    if !name.isEmpty then
      return (name, if (← peek?) == some '\x7d' then .length else .senseless)
    let c? ← peek?
    match c? with
    | some '\x7d' => return ("#", .value)
    | some c => do
      let before ← get
      skip
      if (← peek?) == some '\x7d' then
        return (String.singleton c, if isSpecialParameter c then .length else .senseless)
      set before
      return ("#", ← parameterUse)
    | none => return ("#", .senseless)
  | some c => do
    let name ← parameterName false
    if !name.isEmpty then named name
    else do
      skip
      if isSpecialParameter c then named (String.singleton c) else return ("", .senseless)
  | none => return ("", .senseless)
where
  named (name : String) : Reader (String × ParameterUse) := do
    if (← peek?) == some '\x7d' then return (name, .value)
    return (name, ← parameterUse)

/-- Drop a comment. -/
def skipComment : (fuel : Nat) → Reader Unit
  | 0 => pure ()
  | fuel + 1 => do
    modify fun s => { s with rest := s.rest.dropWhile (· != '\n') }
    let s ← get
    if s.rest.isEmpty && !s.around.isEmpty then
      set (leaveAlias s)
      skipComment fuel

/-- Skip blanks and a comment. -/
def skipBlanks : (fuel : Nat) → Reader Unit
  | 0 => pure ()
  | fuel + 1 => do
    match ← peek? with
    | some ' ' => skip; skipBlanks fuel
    | some '\t' => skip; skipBlanks fuel
    | some '#' => skipComment ((← get).around.length + 1); skipBlanks fuel
    | _ => pure ()

/-- Pass over a character if it comes next. -/
def skipIf (c : Char) : Reader Bool := do
  if (← peek?) == some c then
    skip
    return true
  return false

/-- The sign of a redirection from its first character on. -/
def redirectionSign (first : Char) : Reader String := do
  skip
  if first == '>' then
    if ← skipIf '>' then return ">>"
    if ← skipIf '|' then return ">|"
    if ← skipIf '&' then return ">&"
    return ">"
  else
    if ← skipIf '<' then
      if ← skipIf '-' then return "<<-"
      return "<<"
    if ← skipIf '&' then return "<&"
    if ← skipIf '>' then return "<>"
    return "<"

/-- The commands of the language that no function may be named after. -/
def specialCommands : List String :=
  [".", ":", "break", "continue", "eval", "exec", "exit", "export", "local", "readonly",
    "return", "set", "shift", "times", "trap", "unset"]

mutual

/-- Parts of a word up to where the mode ends. What was read of the part under way is given in
reverse order. -/
def parts (fuel : Nat) (mode : PartMode) (bare : List Char) (done : List WordPart) :
    Reader (List WordPart) :=
  match fuel with
  | 0 => fail "script too long"
  | fuel + 1 => do
    let c? ← if mode = .bare then peekBare? else peek?
    match c? with
    | none =>
      if mode = .bare || mode = .document then return (flush bare done).reverse
      else fail mode.missing
    | some c =>
      if c == '\\' then do
        skip
        match ← peek? false with
        | none => parts fuel mode [] (.quoted "\\" :: flush bare done)
        | some d => do
          skip
          countLines [d]
          let text := if mode.isDouble && !mode.protects d then ['\\', d] else [d]
          parts fuel mode [] (.quoted (String.ofList text) :: flush bare done)
      else if c == '$' then dollar fuel mode bare done
      else if c == '\x60' then
        if (← get).isDelimiter then do
          skip
          parts fuel mode (c :: bare) done
        else do
          let script ← backquoted fuel mode.isDouble
          parts fuel mode [] (.output script :: flush bare done)
      else match mode, c with
      | .bare, c =>
        if endsWord c then return (flush bare done).reverse
        else quotes fuel mode c bare done
      | .brace, '\x7d' => do
        skip
        return (flush bare done).reverse
      | .brace, c => quotes fuel mode c bare done
      | .double _, '"' => do
        skip
        return (flush bare done).reverse
      | .doubleBrace inner inDocument, '"' => do
        skip
        parts fuel (.doubleBrace (!inner) inDocument) bare done
      | .doubleBrace false _, '\x7d' => do
        skip
        return (flush bare done).reverse
      | .arithmetic depth, '(' => do
        skip
        parts fuel (.arithmetic (depth + 1)) (c :: bare) done
      | .arithmetic (depth + 1), ')' => do
        skip
        parts fuel (.arithmetic depth) (c :: bare) done
      | .arithmetic 0, ')' => do
        skip
        if ← skipIf ')' then return (flush bare done).reverse
        else parts fuel mode (c :: bare) done
      | _, c => do
        skip
        countLines [c]
        parts fuel mode (c :: bare) done

/-- A character that may begin quotes. -/
def quotes (fuel : Nat) (mode : PartMode) (c : Char) (bare : List Char)
    (done : List WordPart) : Reader (List WordPart) :=
  match fuel with
  | 0 => fail "script too long"
  | fuel + 1 => do
    skip
    match c with
    | '\'' => do
      let text ← singleQuoted fuel []
      parts fuel mode [] (.quoted text :: flush bare done)
    | '"' => do
      let inner ← parts fuel (.double (mode = .brace)) [] []
      parts fuel mode [] (.doubleQuoted inner :: flush bare done)
    | c => do
      countLines [c]
      parts fuel mode (c :: bare) done

/-- The text up to a single quote. -/
def singleQuoted (fuel : Nat) (read : List Char) : Reader String :=
  match fuel with
  | 0 => fail "script too long"
  | fuel + 1 => do
    match ← peek? false with
    | none => fail "Unterminated quoted string"
    | some c => do
      skip
      countLines [c]
      if c == '\'' then return String.ofList read.reverse
      else singleQuoted fuel (c :: read)

/-- Something that begins with a dollar sign. -/
def dollar (fuel : Nat) (mode : PartMode) (bare : List Char) (done : List WordPart) :
    Reader (List WordPart) :=
  match fuel with
  | 0 => fail "script too long"
  | fuel + 1 => do
    skip
    let c? ← if mode = .bare then peekBare? else peek?
    let isLiteral := (← get).isDelimiter || !(c?.any fun c =>
      c == '(' || c == '\x7b' || isNamePart c || isSpecialParameter c)
    match c? with
    | none => parts fuel mode ('$' :: bare) done
    | some c =>
      if isLiteral then parts fuel mode ('$' :: bare) done
      else if c == '(' then do
        skip
        if ← skipIf '(' then do
          let inner ← parts fuel (.arithmetic 0) [] []
          parts fuel mode [] (.arithmetic inner :: flush bare done)
        else do
          let script ← substituted fuel
          parts fuel mode [] (.output script :: flush bare done)
      else if c == '\x7b' then do
        skip
        let (name, use) ← bracedParameter
        let isCut := match use with
          | .cut .. => true
          | _ => false
        let word ← if use = .value then do
            skip
            pure []
          else parts fuel (mode.inBraces isCut) [] []
        parts fuel mode [] (.parameter name use word :: flush bare done)
      else do
        let name ← parameterName true
        let name ← if name.isEmpty then do
            skip
            pure (String.singleton c)
          else pure name
        parts fuel mode [] (.parameter name .value [] :: flush bare done)

/-- The commands up to a closing parenthesis. -/
def substituted (fuel : Nat) : Reader Script :=
  match fuel with
  | 0 => fail "script too long"
  | fuel + 1 => do
    let s ← get
    modify fun s => { s with pending := [], isBack := false }
    let script ← list fuel .optional true .nothing
    if (← token fuel .none) != .sign ")" then unexpected (some (.sign ")"))
    modify fun s' => { s' with pending := s.pending, token := s.token, word := s.word }
    return script

/-- The commands up to a backquote. -/
def backquoted (fuel : Nat) (inDouble : Bool) : Reader Script :=
  match fuel with
  | 0 => fail "script too long"
  | fuel + 1 => do
    skip
    let s ← get
    match untilBackquote inDouble s.rest with
    | none => do
      countLines s.rest
      fail "EOF in backquote substitution"
    | some (inner, rest) => do
      set { s with rest := inner, around := [], line := 1, pending := [], isBack := false }
      let script ← list fuel .optional true .nothing
      let line := s.line + (s.rest.take (s.rest.length - rest.length)).count '\n'
      modify fun s' => { s with
        rest, line, documents := s'.documents, nextDocument := s'.nextDocument }
      return script

/-- The texts that are due. -/
def documents (fuel : Nat) : Reader Unit :=
  match fuel with
  | 0 => fail "script too long"
  | fuel + 1 => do
    leaveAliases ((← get).around.length + 1)
    match (← get).pending with
    | [] => pure ()
    | document :: pending => do
      let s ← get
      let (body, rest, ends) := documentBody document (2 * s.rest.length + 2) s.rest
      set { s with rest := body, around := [], pending := [], isBack := false }
      let word ← if document.expands then parts fuel .document [] []
        else do
          countLines body
          pure [.quoted (String.ofList body)]
      modify fun s' => { s' with
        rest, around := s.around, pending, token := s.token, word := s.word, isBack := false
        line := s'.line + ends
        documents := (document.number, word) :: s'.documents }
      documents fuel

/-- The next token as it stands there. -/
def rawToken (fuel : Nat) : Reader Token :=
  match fuel with
  | 0 => fail "script too long"
  | fuel + 1 => do
    let s ← get
    if s.isBack then
      set { s with isBack := false }
      return s.token
    skipBlanks (s.rest.length + (s.around.map (·.rest.length)).foldl (· + ·) 1 + s.around.length)
    match ← peek? with
    | none => found .ending
    | some '\n' => do
      skip
      countLines ['\n']
      found .newline
    | some '&' => do
      skip
      found (.sign (if ← skipIf '&' then "&&" else "&"))
    | some '|' => do
      skip
      found (.sign (if ← skipIf '|' then "||" else "|"))
    | some ';' => do
      skip
      found (.sign (if ← skipIf ';' then ";;" else ";"))
    | some '(' => do
      skip
      found (.sign "(")
    | some ')' => do
      skip
      found (.sign ")")
    | some _ => do
      let word ← parts fuel .bare [] []
      let plain? := plainText? word
      let number? := plain?.bind fun text => if text.isEmpty then some none
        else if text.length == 1 then text.toNat?.map some else none
      match ← peekBare?, number? with
      | some '<', some channel? => do
        let sign ← redirectionSign '<'
        modify fun s => { s with redirection := (sign, channel?) }
        found .redirection
      | some '>', some channel? => do
        let sign ← redirectionSign '>'
        modify fun s => { s with redirection := (sign, channel?) }
        found .redirection
      | _, _ => do
        modify fun s => { s with word, plain? }
        found .word

/-- The next token; keywords and aliases are found where one looks out for them. -/
def token (fuel : Nat) (lookout : Lookout) : Reader Token :=
  match fuel with
  | 0 => fail "script too long"
  | fuel + 1 => do
    let t ← rawToken fuel
    if lookout.newlines && t == .newline then
      documents fuel
      modify fun s => { s with aliasNext := false }
      token fuel lookout
    else do
      let s ← get
      set { s with aliasNext := false }
      match t, s.plain? with
      | .word, some text =>
        if lookout.keywords && Token.keywords.contains text then found (.keyword text)
        else if lookout.aliases || s.aliasNext then
          match alias? s text with
          | some value => do
            enterAlias text value
            token fuel lookout
          | none => return t
        else return t
      | t, _ => return t

/-- A list of commands; some have been read already. -/
def list (fuel : Nat) (mode : ListMode) (first : Bool) (done : Script) : Reader Script :=
  match fuel with
  | 0 => fail "script too long"
  | fuel + 1 => do
    let t ← token fuel (if mode = .line then .command else .anywhere)
    if t == .newline then
      documents fuel
      return done
    else if t == .ending then
      documents fuel
      pushBack
      return done
    else do
      pushBack
      if t.endsList && (mode = .optional || (mode = .body && !first)) then return done
      let script ← andOr fuel
      let t ← token fuel .none
      let done := done.andThen (if t == .sign "&" then script.inBackground else script)
      if t == .newline || t == .ending then
        pushBack
        list fuel mode false done
      else if t == .sign "&" || t == .sign ";" then list fuel mode false done
      else if mode = .line then unexpected none
      else do
        pushBack
        return done

def andOr (fuel : Nat) : Reader Script :=
  match fuel with
  | 0 => fail "script too long"
  | fuel + 1 => do
    let first ← pipeline fuel .none
    andOrRest fuel first

def andOrRest (fuel : Nat) (first : Script) : Reader Script :=
  match fuel with
  | 0 => fail "script too long"
  | fuel + 1 => do
    match ← token fuel .none with
    | .sign "&&" => do
      let second ← pipeline fuel .anywhere
      andOrRest fuel (.both first second)
    | .sign "||" => do
      let second ← pipeline fuel .anywhere
      andOrRest fuel (.either first second)
    | _ => do
      pushBack
      return first

def pipeline (fuel : Nat) (lookout : Lookout) : Reader Script :=
  match fuel with
  | 0 => fail "script too long"
  | fuel + 1 => do
    let negated := (← token fuel lookout) == .keyword "!"
    if !negated then pushBack
    let first ← command fuel (if negated then .command else .none)
    let others ← pipelineRest fuel
    let script := if others.isEmpty then first else .pipeline false (first :: others)
    return if negated then .negation script else script

def pipelineRest (fuel : Nat) : Reader (List Script) :=
  match fuel with
  | 0 => fail "script too long"
  | fuel + 1 => do
    if (← token fuel .none) == .sign "|" then do
      let script ← command fuel .anywhere
      return script :: (← pipelineRest fuel)
    else do
      pushBack
      return []

/-- The next token must be this one. -/
def expect (fuel : Nat) (lookout : Lookout) (wanted : Token) : Reader Unit :=
  match fuel with
  | 0 => fail "script too long"
  | fuel + 1 => do
    if (← token fuel lookout) != wanted then unexpected (some wanted)

def command (fuel : Nat) (lookout : Lookout) : Reader Script :=
  match fuel with
  | 0 => fail "script too long"
  | fuel + 1 => do
    let line := (← get).line
    match ← token fuel lookout with
    | .keyword "if" => do
      let script ← branch fuel
      expect fuel .none (.keyword "fi")
      redirected fuel line script
    | .keyword "while" => do
      let script ← loop fuel .whileTrue
      redirected fuel line script
    | .keyword "until" => do
      let script ← loop fuel .untilTrue
      redirected fuel line script
    | .keyword "for" => do
      let script ← forLoop fuel line
      redirected fuel line script
    | .keyword "case" => do
      if (← token fuel .none) != .word then unexpected (some .word)
      let word := (← get).word
      expect fuel .anywhere (.keyword "in")
      let arms ← caseArms fuel
      redirected fuel line (.choose line word arms)
    | .sign "(" => do
      let script ← list fuel .body true .nothing
      expect fuel .none (.sign ")")
      let redirections ← redirections fuel .command
      return .subshell line script redirections
    | .keyword "\x7b" => do
      let script ← list fuel .body true .nothing
      expect fuel .none (.keyword "\x7d")
      redirected fuel line script
    | .word => do
      pushBack
      simpleCommand fuel
    | .redirection => do
      pushBack
      simpleCommand fuel
    | _ => unexpected none

/-- A compound command with its redirections. -/
def redirected (fuel line : Nat) (script : Script) : Reader Script :=
  match fuel with
  | 0 => fail "script too long"
  | fuel + 1 => do
    let redirections ← redirections fuel .command
    return if redirections.isEmpty then script else .redirected line script redirections

/-- A choice from after its first word to before its last. -/
def branch (fuel : Nat) : Reader Script :=
  match fuel with
  | 0 => fail "script too long"
  | fuel + 1 => do
    let test ← list fuel .body true .nothing
    expect fuel .none (.keyword "then")
    let yes ← list fuel .body true .nothing
    match ← token fuel .none with
    | .keyword "elif" => do
      let no ← branch fuel
      return .branch test yes no
    | .keyword "else" => do
      let no ← list fuel .body true .nothing
      return .branch test yes no
    | _ => do
      pushBack
      return .branch test yes .nothing

def loop (fuel : Nat) (kind : LoopKind) : Reader Script :=
  match fuel with
  | 0 => fail "script too long"
  | fuel + 1 => do
    let test ← list fuel .body true .nothing
    expect fuel .none (.keyword "do")
    let body ← list fuel .body true .nothing
    expect fuel .none (.keyword "done")
    return .loop kind test body

def forLoop (fuel line : Nat) : Reader Script :=
  match fuel with
  | 0 => fail "script too long"
  | fuel + 1 => do
    let t ← token fuel .none
    let name := ((← get).plain?).getD ""
    if t != .word || !isName name then fail "Bad for loop variable"
    let words? ← if (← token fuel .anywhere) == .keyword "in" then do
        let words ← forWords fuel
        let last := (← get).token
        if last != .newline && last != .sign ";" then unexpected none
        pure (some words)
      else do
        if (← get).token != .sign ";" then pushBack
        pure none
    expect fuel .anywhere (.keyword "do")
    let body ← list fuel .body true .nothing
    expect fuel .none (.keyword "done")
    return .each line name words? body

def forWords (fuel : Nat) : Reader (List Word) :=
  match fuel with
  | 0 => fail "script too long"
  | fuel + 1 => do
    if (← token fuel .none) == .word then do
      let word := (← get).word
      return word :: (← forWords fuel)
    else return []

def caseArms (fuel : Nat) : Reader (List (List Word × Script)) :=
  match fuel with
  | 0 => fail "script too long"
  | fuel + 1 => do
    let t ← token fuel .keyword
    if t == .keyword "esac" then return []
    if t == .sign "(" then discard <| token fuel .none
    let patterns ← casePatterns fuel
    if (← get).token != .sign ")" then unexpected (some (.sign ")"))
    let body ← list fuel .optional true .nothing
    match ← token fuel .keyword with
    | .keyword "esac" => return [(patterns, body)]
    | .sign ";;" => return (patterns, body) :: (← caseArms fuel)
    | _ => unexpected (some (.sign ";;"))

/-- The patterns of an arm; the first is the last word that was read. -/
def casePatterns (fuel : Nat) : Reader (List Word) :=
  match fuel with
  | 0 => fail "script too long"
  | fuel + 1 => do
    let word := (← get).word
    if (← token fuel .none) == .sign "|" then do
      discard <| token fuel .none
      return word :: (← casePatterns fuel)
    else return [word]

/-- A redirection from after its sign. -/
def redirection (fuel : Nat) : Reader Redirection :=
  match fuel with
  | 0 => fail "script too long"
  | fuel + 1 => do
    let (sign, channel?) := (← get).redirection
    let isDocument := sign == "<<" || sign == "<<-"
    modify fun s => { s with isDelimiter := isDocument }
    let t ← token fuel .none
    modify fun s => { s with isDelimiter := false }
    if t != .word then unexpected none
    let s ← get
    match sign with
    | "<" => return .file .read (channel?.getD 0) s.word
    | "<>" => return .file .readWrite (channel?.getD 0) s.word
    | "<&" => return .duplicate (channel?.getD 0) s.word
    | ">&" => return .duplicate (channel?.getD 1) s.word
    | ">>" => return .file .append (channel?.getD 1) s.word
    | ">" => return .file .write (channel?.getD 1) s.word
    | ">|" => return .file .overwrite (channel?.getD 1) s.word
    | _ => do
      let document : PendingDocument := {
        number := s.nextDocument
        delimiter := unquote s.word
        expands := s.plain?.isSome
        dropsTabs := sign == "<<-" }
      set { s with nextDocument := s.nextDocument + 1, pending := s.pending ++ [document] }
      return .document (channel?.getD 0) s.nextDocument

def redirections (fuel : Nat) (lookout : Lookout) : Reader (List Redirection) :=
  match fuel with
  | 0 => fail "script too long"
  | fuel + 1 => do
    if (← token fuel lookout) == .redirection then do
      let first ← redirection fuel
      return first :: (← redirections fuel .none)
    else do
      pushBack
      return []

def simpleCommand (fuel : Nat) : Reader Script :=
  match fuel with
  | 0 => fail "script too long"
  | fuel + 1 => do
    simpleCommandFrom fuel (← get).line [] [] []

/-- A simple command, with what has been read of it, latest first. -/
def simpleCommandFrom (fuel line : Nat) (assignments words : List Word)
    (rs : List Redirection) : Reader Script :=
  match fuel with
  | 0 => fail "script too long"
  | fuel + 1 => do
    match ← token fuel (if words.isEmpty then .aliased else .none) with
    | .word => do
      let word := (← get).word
      if words.isEmpty && Word.isAssignment word then
        simpleCommandFrom fuel line (word :: assignments) words rs
      else simpleCommandFrom fuel line assignments (word :: words) rs
    | .redirection => do
      let r ← redirection fuel
      simpleCommandFrom fuel line assignments words (r :: rs)
    | .sign "(" =>
      if words.length == 1 && assignments.isEmpty && rs.isEmpty then do
        expect fuel .none (.sign ")")
        let name := ((plainText? (words.headD [])).getD "")
        if !isName name || specialCommands.contains name then fail "Bad function name"
        let line := (← get).line
        let body ← command fuel .anywhere
        return .function line name body
      else do
        pushBack
        return .simple line assignments.reverse words.reverse rs.reverse
    | _ => do
      pushBack
      return .simple line assignments.reverse words.reverse rs.reverse

end

/-- Enough for everything that is read of a text and the aliases in it. -/
def fuelFor (s : ReaderState) : Nat :=
  1000000 + 100 * s.rest.length

/-- Read the next complete command; an empty line is no command. At the end there is none. -/
def completeCommand : Reader (Option Script) := do
  modify fun s => { s with isBack := false, pending := [], aliasNext := false }
  let script ← list (fuelFor (← get)) .line true .nothing
  let s ← get
  if script.isNothing && s.isBack && s.token == .ending then return none
  return some script

/-- Is the text read to its end? -/
def isAtEnd (s : ReaderState) : Bool :=
  s.isBack && s.token == .ending

end Reader

end Polyglot.Shell
