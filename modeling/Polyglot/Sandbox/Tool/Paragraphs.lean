import Polyglot.Sandbox.Tool.Quantity

/-!
# Paragraphs

Filling the lines of paragraphs. Where lines end is chosen so that the costs of all lines of a
paragraph are least: lines should be as long as the goal and as long as their neighbours, and
should end where sentences or clauses do.
-/

namespace Polyglot.Tool

structure FillSettings where
  /-- Lines stay shorter than this. -/
  width : Nat := 75
  /-- The length that lines should have. -/
  goal : Nat := 70
  /-- The first two lines of a paragraph have indents of their own. -/
  crown : Bool := false
  /-- The same, and a paragraph's second line must differ from its first. -/
  tagged : Bool := false
  /-- Long lines are split, but short lines are not joined. -/
  splitsOnly : Bool := false
  /-- One blank between words, two after sentences. -/
  uniform : Bool := false
  /-- What lines must begin with, and the blanks before and after that. -/
  mark : List Char := []
  markLead : Nat := 0
  markTrail : Nat := 0

/-- A word of a paragraph, and what follows it. -/
structure FillWord where
  text : List Char
  space : Nat
  /-- It begins with an opening bracket or quote. -/
  opens : Bool
  /-- It ends in a punctuation mark. -/
  punctuated : Bool
  /-- It ends in a full stop, maybe with closing brackets or quotes after it. -/
  stops : Bool
  /-- A sentence ends here. -/
  final : Bool

namespace FillWord

def length (word : FillWord) : Nat :=
  word.text.length

/-- A word that some blanks follow, or the end of a line or of all. -/
def of (uniform : Bool) (text : List Char) (space : Nat) (endsLine endsAll : Bool) : FillWord :=
  let last := text.getLastD ' '
  let bare := text.reverse.dropWhile fun c => ")]'\"".toList.contains c
  let core := (bare.head?.or text.head?).getD ' '
  let stops := ".?!".toList.contains core
  let final := endsAll || (stops && (endsLine || 1 < space))
  { text
    space := if endsLine || endsAll || uniform then (if final then 2 else 1) else space
    opens := "(['\x60\"".toList.contains (text.headD ' ')
    punctuated := CharClass.isPunctuation last
    stops
    final }

end FillWord

/-! ## Lines -/

/-- A line as it is read: where its mark and its text begin, and the words of the text. -/
structure FillLine where
  /-- The column of the mark. -/
  markColumn : Nat
  /-- The column of the text. -/
  column : Nat
  /-- Does it begin with the mark? -/
  isMarked : Bool
  /-- The part of the mark that is there, and the text from the column on. -/
  head : List Char
  text : List Char
  words : List FillWord
  /-- It ends without a line feed. -/
  isLast : Bool

namespace FillLine

/-- Blanks and tabs from a column on: the column after them, and the rest. -/
def blanks (column : Nat) : List Char → Nat × List Char
  | ' ' :: rest => blanks (column + 1) rest
  | '\t' :: rest => blanks ((column / 8 + 1) * 8) rest
  | cs => (column, cs)

/-- The words of a text from a column on. -/
def wordsFrom (settings : FillSettings) (isLast : Bool) :
    (fuel column : Nat) → List Char → List FillWord
  | 0, _, _ => []
  | _, _, [] => []
  | fuel + 1, column, cs =>
    let text := match cs with
      | c :: rest => c :: rest.takeWhile fun c => !CharClass.isSpace c
      | [] => []
    let column := column + text.length
    let (next, rest) := blanks column (cs.drop text.length)
    FillWord.of settings.uniform text (next - column) (rest.isEmpty && !isLast)
      (rest.isEmpty && isLast) :: wordsFrom settings isLast fuel next rest

/-- Read a line without its line feed. -/
def read (settings : FillSettings) (isLast : Bool) (cs : List Char) : FillLine :=
  let (column, rest) := blanks 0 cs
  if settings.mark.isEmpty then
    { markColumn := min settings.markLead column, column, isMarked := true, head := [], text := rest
      words := wordsFrom settings isLast (rest.length + 1) column rest, isLast }
  else if settings.mark.isPrefixOf rest then
    let (next, rest) := blanks (column + settings.mark.length) (rest.drop settings.mark.length)
    { markColumn := column, column := next, isMarked := true, head := settings.mark, text := rest
      words := wordsFrom settings isLast (rest.length + 1) next rest, isLast }
  else
    let common := ((settings.mark.zip rest).takeWhile fun (a, b) => a == b).length
    { markColumn := column, column := column + common, isMarked := false
      head := settings.mark.take common, text := rest.drop common, words := [], isLast }

/-- May the line belong to a paragraph whose mark has some column? -/
def continues (settings : FillSettings) (line : FillLine) (markColumn : Nat) : Bool :=
  line.isMarked && line.markColumn == markColumn && !line.text.isEmpty &&
    line.markColumn + settings.mark.length + settings.markTrail ≤ line.column

end FillLine

/-! ## Choosing line ends -/

/-- What is known of the lines from some word on: the least cost, how long the first line is, and
how many words each line has. -/
structure FillPlan where
  cost : Int := 0
  lineLength : Int := 0
  counts : List Nat := []

namespace FillPlan

def square (n : Int) : Int := n * n

def shortCost (n : Int) : Int := square (10 * n)

def raggedCost (n : Int) : Int := shortCost n / 2

/-- The cost of beginning a line with a word, given the two words before it. -/
def beginCost (before? beforeThat? : Option FillWord) (word : FillWord) : Int :=
  let start := square 70
  let afterBefore := match before? with
    | none => 0
    | some before =>
      if before.stops then (if before.final then -square 50 else square 600)
      else if before.punctuated then -square 40
      else if beforeThat?.any (·.final) then square 200 / (before.length + 2)
      else 0
  let own := if word.opens then -square 40
    else if word.final then square 150 / (word.length + 2)
    else 0
  start + afterBefore + own

/-- The cost of a line of some length in front of other lines. -/
def lineCost (goal length : Int) (next : FillPlan) : Int :=
  match next.counts with
  | [] => 0
  | counts =>
    shortCost (goal - length) +
      (if counts.length = 1 then 0 else raggedCost (length - next.lineLength))

/-- The best first line of so many columns at least: words are added as long as they fit. The plans
are those from the second word on, from the third, and so on. -/
def bestLine (settings : FillSettings) :
    (count : Nat) → (length : Nat) → List FillWord → List FillPlan → Option FillPlan →
      Option FillPlan
  | count, length, word :: words, plan :: plans, best? =>
    let cost := lineCost settings.goal length plan + plan.cost
    let best? : Option FillPlan := match best? with
      | some best =>
        if cost < best.cost then some ⟨cost, length, count :: plan.counts⟩ else some best
      | none => some ⟨cost, length, count :: plan.counts⟩
    match words with
    | [] => best?
    | next :: _ =>
      let longer := length + word.space + next.length
      if longer < settings.width then
        bestLine settings (count + 1) longer words plans best?
      else best?
  | _, _, _, _, best? => best?

/-- The plans from each word on, the last of which is for no word. -/
def plans (settings : FillSettings) (firstIndent otherIndent : Nat) :
    (before? beforeThat? : Option FillWord) → List FillWord → List FillPlan
  | _, _, [] => [{}]
  | before?, beforeThat?, word :: words =>
    let later := plans settings firstIndent otherIndent (some word) before? words
    let indent := if before?.isNone then firstIndent else otherIndent
    let best := (bestLine settings 1 (indent + word.length) (word :: words) later
      none).getD {}
    { best with cost := best.cost + beginCost before? beforeThat? word } :: later

end FillPlan

/-! ## Writing -/

/-- Blanks up to a column, as tabs as far as these are in use. -/
def fillSpace (tabs : Bool) (column target : Nat) : List Char :=
  let stop := target / 8 * 8
  if tabs && column + 1 < stop then
    let count := stop / 8 - column / 8
    List.replicate count '\t' ++ List.replicate (target - stop) ' '
  else List.replicate (target - column) ' '

/-- A line out of words. -/
def fillLine (settings : FillSettings) (tabs : Bool) (markColumn indent : Nat)
    (words : List FillWord) : List Char :=
  let start := fillSpace tabs 0 markColumn ++ settings.mark
  let column := markColumn + settings.mark.length
  let rec body (column : Nat) : List FillWord → List Char
    | [] => []
    | [word] => word.text
    | word :: rest =>
      let column := column + word.length
      word.text ++ fillSpace tabs column (column + word.space) ++ body (column + word.space) rest
  start ++ fillSpace tabs column indent ++ body (max column indent) words ++ ['\n']

def fillLines (settings : FillSettings) (tabs : Bool) (markColumn firstIndent otherIndent : Nat) :
    (counts : List Nat) → List FillWord → List Char
  | [], _ => []
  | count :: counts, words =>
    fillLine settings tabs markColumn firstIndent (words.take count) ++
      fillLines settings tabs markColumn otherIndent otherIndent counts (words.drop count)

/-- A line that belongs to no paragraph, as it is. -/
def keptLine (settings : FillSettings) (tabs : Bool) (line : FillLine) : List Char :=
  let isEmpty := line.text.isEmpty
  if line.column ≤ line.markColumn && isEmpty then (if line.isLast then [] else ['\n'])
  else
    let head := line.head.take (line.column - line.markColumn)
    let column := line.markColumn + head.length
    fillSpace tabs 0 line.markColumn ++ head ++
      (if isEmpty then [] else fillSpace tabs column line.column) ++ line.text ++
      (if line.isLast && !(isEmpty && line.markColumn + settings.mark.length ≤ line.column) then []
        else ['\n'])

/-- The lines of a paragraph after its first line, and the indent of its other lines. -/
def paragraphRest (settings : FillSettings) (otherIndent : Nat) (first : FillLine)
    (lines : List FillLine) : List FillLine × Nat :=
  let goesOn (line : FillLine) : Bool := line.continues settings first.markColumn
  let next? := lines.head?.filter goesOn
  let run (column : Nat) (lines : List FillLine) : List FillLine :=
    lines.takeWhile fun line => goesOn line && line.column == column
  if settings.splitsOnly then ([], first.column)
  else if settings.crown then
    match next? with
    | some next => (lines.take 1 ++ run next.column (lines.drop 1), next.column)
    | none => ([], first.column)
  else if settings.tagged then
    match next?.filter (·.column != first.column) with
    | some next => (lines.take 1 ++ run next.column (lines.drop 1), next.column)
    | none =>
      ([], if otherIndent == first.column then (if first.column = 0 then 3 else 0) else otherIndent)
  else (run first.column lines, first.column)

/-- Fill the paragraphs among some lines. -/
def fillAll (settings : FillSettings) (tabs : Bool) :
    (fuel otherIndent : Nat) → List FillLine → List Char
  | 0, _, _ => []
  | _, _, [] => []
  | fuel + 1, otherIndent, line :: lines =>
    if !line.continues settings line.markColumn || line.markColumn < settings.markLead then
      keptLine settings tabs line ++ fillAll settings tabs fuel otherIndent lines
    else
      let (rest, otherIndent) := paragraphRest settings otherIndent line lines
      let words := line.words ++ rest.flatMap (·.words)
      let words := words.dropLast ++ (words.getLast?.toList.map fun word =>
        { word with stops := true, final := true })
      let plan := (FillPlan.plans settings line.column otherIndent none none words).headD {}
      fillLines settings tabs line.markColumn line.column otherIndent plan.counts words ++
        fillAll settings tabs fuel otherIndent (lines.drop rest.length)

namespace FillSettings

def options : OptionTable where
  letters := "0123456789cstuw:p:g:"
  words := [("crown-margin", "c"), ("prefix=", "p"), ("split-only", "s"), ("tagged-paragraph", "t"),
    ("uniform-spacing", "u"), ("width=", "w"), ("goal=", "g")]

def withMark (settings : FillSettings) (text : List Char) : FillSettings :=
  let lead := (text.takeWhile (· == ' ')).length
  let rest := text.drop lead
  let trail := (rest.reverse.takeWhile (· == ' ')).length
  { settings with
    mark := rest.take (rest.length - trail), markLead := lead, markTrail := trail }

end FillSettings

/-- `fmt`: paragraphs with their lines filled. -/
def fillParagraphs : Tool := do
  -- a number after the first hyphen is the width
  let arguments := match (← read).arguments with
    | first :: rest =>
      match first.toList with
      | '-' :: c :: _ =>
        if c.isDigit then ("-w" ++ (first.drop 1).toString) :: rest else first :: rest
      | _ => first :: rest
    | [] => []
  let (options, operands) ← Work.optionsOf FillSettings.options arguments [] fun given option => do
    if option.key.toList.all Char.isDigit then
      Work.complain ("invalid option -- " ++ option.key ++
        "; -WIDTH is recognized only when it is the first\noption; use -w N instead")
      Work.hint
      Work.exit 1
    return given ++ [option]
  let last? (key : String) : Option String :=
    ((options.filter fun option => option.key == key).getLast?).map (·.value)
  let has (key : String) : Bool := options.any fun option => option.key == key
  let width? ← match last? "w" with
    | some text => some <$> Work.quantity "" "invalid width" text 0 2500
    | none => pure none
  let goal? ← match last? "g" with
    | some text => some <$> Work.quantity "" "invalid width" text 0 (width?.getD 75)
    | none => pure none
  let width := width?.getD (match goal? with
    | some goal => goal + 10
    | none => 75)
  let settings : FillSettings := {
    width, goal := goal?.getD (width * 187 / 200)
    crown := has "c", tagged := has "t", splitsOnly := has "s", uniform := has "u" }
  let settings := settings.withMark ((last? "p").getD "").toList
  let operands := if operands.isEmpty then ["-"] else operands
  operands.forM fun operand => do
    match ← Work.readFile operand with
    | .error .isADirectory => Work.fault "read error"
    | .error e =>
      Work.fault ("cannot open " ++ shellQuoted operand ++ " for reading: " ++ e.reason)
    | .ok cs =>
      let (ended, last) := Text.terminatedLines cs
      let lines := ended.map (FillLine.read settings false) ++ [FillLine.read settings true last]
      let tabs := cs.contains '\t'
      Work.say (String.ofList (fillAll settings tabs (lines.length + 1) 0 lines))

end Polyglot.Tool
