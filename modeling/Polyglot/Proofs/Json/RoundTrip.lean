import Polyglot.Proofs.Json.Escapes

/-!
# Written values as trees

`JsonTree.ofJson` is the tree that a value is meant by. Whatever is written for a value, indented
or not, is scanned into this tree and nothing is left over (`scan_writeAt`), so that reading the
text is reading the tree (`readWith_compact`, `readWith_pretty`).

The induction is on the steps that the scanner has left, one for each character of the text. Its
statement (`JsonTree.scan_writeAt`) lets blanks stand before the text and anything that cannot
continue a numeral behind it; the items of a bracket are scanned from any one of them on.
-/

namespace Polyglot

namespace NumberToken

/-- Scan a numeral with its sign. -/
def scanSigned : List Char → NumberToken × Option (List Char)
  | '-' :: rest => scan true rest
  | input => scan false input

/-- The token of a text that is one numeral. -/
def ofText (text : List Char) : NumberToken :=
  (scanSigned text).1

/-- What can follow a value: blanks, a comma, a closing bracket, or nothing. -/
def Ends (rest : List Char) : Prop :=
  ∀ c ∈ rest.head?, c.isDigit = false ∧ c ≠ '.' ∧ c ≠ 'e' ∧ c ≠ 'E'

/-- The text is one numeral, and the scanner stops behind it. -/
structure IsNumeral (text : List Char) : Prop where
  begins : ∃ c cs, text = c :: cs ∧ (c = '-' ∨ c.isDigit)
  scanned : ∀ rest, Ends rest → scanSigned (text ++ rest) = (ofText text, some rest)

end NumberToken

namespace JsonTree

mutual

/-- The tree of the text of a value. -/
def ofJson : Json → JsonTree
  | .null => null
  | .bool b => bool b
  | .integer n => number (.ofText (toString n).toList)
  | .fraction negative magnitude =>
    number (.ofText (DecimalStyle.json.writeFinite negative magnitude))
  | .string s => string (.ofText s)
  | .array items => array (ofItems items) none
  | .object members => object (ofMembers members) none

def ofItems : List Json → List JsonTree
  | [] => []
  | item :: items => ofJson item :: ofItems items

def ofMembers : List (String × Json) → List (StringToken × JsonTree)
  | [] => []
  | (key, value) :: members => (.ofText key, ofJson value) :: ofMembers members

end

end JsonTree

namespace Json

open NumberToken (IsNumeral)

mutual

/-- Every number in the value is written as a numeral. -/
def Spelled : Json → Prop
  | integer n => IsNumeral (toString n).toList
  | fraction negative magnitude => IsNumeral (DecimalStyle.json.writeFinite negative magnitude)
  | array items => ItemsSpelled items
  | object members => MembersSpelled members
  | null | bool _ | string _ => True

def ItemsSpelled : List Json → Prop
  | [] => True
  | item :: items => Spelled item ∧ ItemsSpelled items

def MembersSpelled : List (String × Json) → Prop
  | [] => True
  | (_, value) :: members => Spelled value ∧ MembersSpelled members

end

theorem itemsSpelled_iff {items : List Json} :
    ItemsSpelled items ↔ ∀ item ∈ items, item.Spelled := by
  induction items with
  | nil => simp [ItemsSpelled]
  | cons item items ih => rw [ItemsSpelled, ih, List.forall_mem_cons]

/-! ## Brackets -/

/-- What stands before an item that is `level` brackets deep. -/
def margin (indented : Bool) (level : Nat) : List Char :=
  if indented then '\n' :: List.replicate (2 * level) ' ' else []

/-- What stands behind an item: the other items, each behind a comma and its margin, and then
whatever follows them. -/
def continued (margin : List Char) : List (List Char) → List Char → List Char
  | [], more => more
  | text :: texts, more => ',' :: (margin ++ (text ++ continued margin texts more))

theorem continued_append (margin : List Char) (texts : List (List Char)) (more rest : List Char) :
    continued margin texts more ++ rest = continued margin texts (more ++ rest) := by
  induction texts with
  | nil => rfl
  | cons text texts ih => simp only [continued, List.cons_append, List.append_assoc, ih]

/-- Items with commas between them, each behind its margin. -/
theorem flatten_intersperse_append (margin text : List Char) (texts : List (List Char))
    (more : List Char) :
    (((text :: texts).map (margin ++ ·)).intersperse [',']).flatten ++ more =
      margin ++ (text ++ continued margin texts more) := by
  induction texts generalizing text with
  | nil => simp [continued]
  | cons other texts ih =>
    rw [continued, ← ih other]
    simp

/-- Both forms of a bracket that is not empty. -/
theorem bracket_cons (opener closer : Char) (indented : Bool) (level : Nat) (text : List Char)
    (texts : List (List Char)) :
    bracket opener closer indented level (text :: texts) =
      opener :: (margin indented (level + 1) ++
        (text ++ continued (margin indented (level + 1)) texts
          (margin indented level ++ [closer]))) := by
  rw [← flatten_intersperse_append]
  cases indented <;> simp [bracket, margin]

theorem bracket_begins (opener closer : Char) (indented : Bool) (level : Nat)
    (texts : List (List Char)) :
    ∃ cs, bracket opener closer indented level texts = opener :: cs := by
  cases texts with
  | nil => exact ⟨_, rfl⟩
  | cons text texts => exact ⟨_, bracket_cons opener closer indented level text texts⟩

/-- What stands between a key and its value, the colon apart. -/
def pad (indented : Bool) : List Char :=
  if indented then [' '] else []

/-- The text of a member behind its first quote. -/
def memberText (indented : Bool) (level : Nat) (key : String) (value : Json) : List Char :=
  key.toList.flatMap escapeChar ++ '"' :: ':' :: (pad indented ++ writeAt indented level value)

theorem writeMembers_cons (indented : Bool) (level : Nat) (key : String) (value : Json)
    (members : List (String × Json)) :
    writeMembers indented level ((key, value) :: members) =
      ('"' :: memberText indented level key value) :: writeMembers indented level members := by
  cases indented <;> simp [writeMembers, memberText, writeString, pad]

/-- A numeral begins with what is neither a blank nor a closing bracket. -/
theorem numeral_begins {text : List Char} (is : IsNumeral text) :
    ∃ c cs, text = c :: cs ∧ JsonTree.isSpace c = false ∧ c ≠ ']' := by
  obtain ⟨c, cs, rfl, rfl | digit⟩ := is.begins
  · exact ⟨'-', cs, rfl, rfl, by decide⟩
  · refine ⟨c, cs, rfl, ?_, ?_⟩
    · rw [← Bool.not_eq_true]
      intro space
      simp only [JsonTree.isSpace, Bool.or_eq_true, beq_iff_eq] at space
      rcases space with ((rfl | rfl) | rfl) | rfl <;> exact absurd digit (by decide)
    · rintro rfl
      exact absurd digit (by decide)

/-- So does the text of any value. -/
theorem writeAt_begins (indented : Bool) (level : Nat) {value : Json} (spelled : Spelled value) :
    ∃ c cs, writeAt indented level value = c :: cs ∧ JsonTree.isSpace c = false ∧ c ≠ ']' := by
  cases value with
  | null => exact ⟨'n', _, rfl, by decide, by decide⟩
  | bool b => cases b with
    | true => exact ⟨'t', _, rfl, by decide, by decide⟩
    | false => exact ⟨'f', _, rfl, by decide, by decide⟩
  | integer n =>
    rw [Spelled] at spelled
    rw [writeAt]
    exact numeral_begins spelled
  | fraction negative magnitude =>
    rw [Spelled] at spelled
    rw [writeAt]
    exact numeral_begins spelled
  | string s => exact ⟨'"', _, by rw [writeAt]; rfl, by decide, by decide⟩
  | array items =>
    rw [writeAt]
    obtain ⟨cs, text⟩ := bracket_begins '[' ']' indented level
      (writeItems indented (level + 1) items)
    exact ⟨'[', cs, text, by decide, by decide⟩
  | object members =>
    rw [writeAt]
    obtain ⟨cs, text⟩ := bracket_begins '\x7b' '\x7d' indented level
      (writeMembers indented (level + 1) members)
    exact ⟨'\x7b', cs, text, by decide, by decide⟩

end Json

namespace JsonTree

open Json

/-! ## Blanks -/

/-- Nothing but blanks. -/
def Blanks (cs : List Char) : Prop :=
  ∀ c ∈ cs, isSpace c

/-- Blanks in front are passed over. -/
theorem skipSpace_append {blank : List Char} (blanks : Blanks blank) (rest : List Char) :
    skipSpace (blank ++ rest) = skipSpace rest := by
  induction blank with
  | nil => rfl
  | cons c blank ih =>
    rw [Blanks, List.forall_mem_cons] at blanks
    rw [List.cons_append, skipSpace, List.dropWhile_cons_of_pos blanks.1]
    exact ih blanks.2

theorem skipSpace_cons {c : Char} (ink : isSpace c = false) (rest : List Char) :
    skipSpace (c :: rest) = c :: rest := by
  rw [skipSpace, List.dropWhile_cons_of_neg (by rw [ink]; decide)]

theorem margin_blanks (indented : Bool) (level : Nat) : Blanks (margin indented level) := by
  intro c mem
  cases indented with
  | false => cases mem
  | true =>
    rcases List.mem_cons.mp mem with rfl | mem
    · rfl
    · rw [List.eq_of_mem_replicate mem]
      rfl

theorem pad_blanks (indented : Bool) : Blanks (pad indented) := by
  intro c mem
  cases indented with
  | false => cases mem
  | true =>
    rw [List.mem_singleton.mp mem]
    rfl

/-! ## Scanning -/

/-- A numeral is scanned as such. -/
theorem scan_numeral (fuel : Nat) {text : List Char} (is : NumberToken.IsNumeral text)
    {rest : List Char}
    (ends : NumberToken.Ends rest) {input : List Char} (start : skipSpace input = text ++ rest) :
    scan (fuel + 1) input = (number (.ofText text), some rest) := by
  have scanned := is.scanned rest ends
  obtain ⟨c, cs, rfl, rfl | digit⟩ := is.begins
  · rw [List.cons_append] at start scanned
    rw [NumberToken.scanSigned] at scanned
    rw [scan, start]
    simp only [scanned]
  · have other {d : Char} (mark : d.isDigit = false) : c ≠ d := by
      rintro rfl
      rw [mark] at digit
      cases digit
    rw [List.cons_append] at start scanned
    have unsigned : NumberToken.scanSigned (c :: (cs ++ rest)) =
        NumberToken.scan false (c :: (cs ++ rest)) := by
      rw [NumberToken.scanSigned]
      exact fun _ sign => other (by decide) (List.head_eq_of_cons_eq sign)
    rw [unsigned] at scanned
    rw [scan, start]
    simp [scanned, digit, other (d := 'n') (by decide), other (d := 't') (by decide),
      other (d := 'f') (by decide), other (d := '"') (by decide), other (d := '-') (by decide),
      other (d := '[') (by decide), other (d := '\x7b') (by decide)]

/-- A value ends before what stands behind an item. -/
theorem ends_continued {close : List Char} (blanks : Blanks close) (closer : Char)
    (mark : closer.isDigit = false ∧ closer ≠ '.' ∧ closer ≠ 'e' ∧ closer ≠ 'E')
    (gap : List Char) (texts : List (List Char)) (rest : List Char) :
    NumberToken.Ends (continued gap texts (close ++ closer :: rest)) := by
  intro c first
  cases texts with
  | cons text texts =>
    cases first
    decide
  | nil =>
    cases close with
    | nil =>
      cases first
      exact mark
    | cons d close =>
      cases first
      have space := blanks c List.mem_cons_self
      simp only [isSpace, Bool.or_eq_true, beq_iff_eq] at space
      rcases space with ((rfl | rfl) | rfl) | rfl <;> decide

/-- Behind the last item stands the closing bracket. -/
theorem skipSpace_close {close : List Char} (blanks : Blanks close) (closer : Char)
    (ink : isSpace closer = false) (rest : List Char) :
    skipSpace (close ++ closer :: rest) = closer :: rest := by
  rw [skipSpace_append blanks, skipSpace_cons ink]

mutual

theorem scan_writeAt (indented : Bool) (level : Nat) (value : Json) (spelled : Spelled value)
    (fuel : Nat) (enough : (writeAt indented level value).length ≤ fuel) {input rest : List Char}
    (ends : NumberToken.Ends rest)
    (start : skipSpace input = writeAt indented level value ++ rest) :
    scan fuel input = (ofJson value, some rest) := by
  obtain ⟨c, cs, text, -, -⟩ := writeAt_begins indented level spelled
  -- no text is empty, so there is fuel for what is inside the value
  obtain ⟨fuel, rfl⟩ : ∃ n, fuel = n + 1 :=
    ⟨fuel - 1, by rw [text, List.length_cons] at enough; omega⟩
  cases value with
  | null =>
    rw [scan, start]
    rfl
  | bool b => cases b <;> rw [scan, start] <;> rfl
  | integer n =>
    rw [Spelled] at spelled
    rw [writeAt] at start
    rw [scan_numeral fuel spelled ends start, ofJson]
  | fraction negative magnitude =>
    rw [Spelled] at spelled
    rw [writeAt] at start
    rw [scan_numeral fuel spelled ends start, ofJson]
  | string s =>
    obtain ⟨written, scanned⟩ := StringToken.scan_writeString s rest
    rw [writeAt, written] at start
    rw [scan, start]
    simp only [scanned, ofJson]
  | array items =>
    cases items with
    | nil =>
      rw [scan, start]
      rfl
    | cons item items =>
      rw [Spelled, ItemsSpelled] at spelled
      rw [writeAt, writeItems, bracket_cons] at start enough
      simp only [List.cons_append, List.append_assoc, continued_append, List.nil_append] at start
      rw [List.length_cons, List.length_append] at enough
      -- no blank and no closing bracket is at the beginning of the first item
      obtain ⟨c, cs, text, ink, opened⟩ := writeAt_begins indented (level + 1) spelled.1
      have first (more : List Char) :
          skipSpace (margin indented (level + 1) ++ (writeAt indented (level + 1) item ++ more)) =
            writeAt indented (level + 1) item ++ more := by
        rw [skipSpace_append (margin_blanks _ _), text, List.cons_append, skipSpace_cons ink]
      have inner := scanItems_writeItems indented (level + 1) item items spelled.1 spelled.2
        (margin_blanks indented (level + 1)) (margin_blanks indented level)
        fuel (by omega) [] rest (first _)
      rw [scan, start]
      simp only [first, inner]
      simp [text, opened, ofJson]
  | object members =>
    cases members with
    | nil =>
      rw [scan, start]
      rfl
    | cons member members =>
      obtain ⟨key, value⟩ := member
      rw [Spelled, MembersSpelled] at spelled
      rw [writeAt, writeMembers_cons, bracket_cons] at start enough
      simp only [List.cons_append, List.append_assoc, continued_append, List.nil_append] at start
      rw [List.length_cons, List.length_append, List.cons_append, List.length_cons] at enough
      -- the members are scanned from behind the quote of the first key
      have first (more : List Char) : skipSpace (margin indented (level + 1) ++ '"' :: more) =
          '"' :: more := by
        rw [skipSpace_append (margin_blanks _ _), skipSpace_cons (by decide)]
      have inner := scanMembers_writeMembers indented (level + 1) key value members spelled.1
        spelled.2 (margin_blanks indented (level + 1)) (margin_blanks indented level)
        fuel (by omega) [] rest
      rw [scan, start]
      simp only [first, inner]
      simp [ofJson]
termination_by fuel

/-- The items of an array from one of them on. -/
theorem scanItems_writeItems (indented : Bool) (level : Nat) (item : Json) (items : List Json)
    (spelled : Spelled item) (others : ItemsSpelled items) {gap close : List Char}
    (blanks : Blanks gap) (blanks' : Blanks close) (fuel : Nat)
    (enough : (writeAt indented level item ++
      continued gap (writeItems indented level items) (close ++ [']'])).length ≤ fuel)
    (done : List JsonTree) (rest : List Char) {input : List Char}
    (start : skipSpace input = writeAt indented level item ++
      continued gap (writeItems indented level items) (close ++ ']' :: rest)) :
    scanItems fuel done input =
      (array (done.reverse ++ ofItems (item :: items)) none, some rest) := by
  rw [List.length_append] at enough
  cases items with
  | nil =>
    rw [writeItems, continued, List.length_append, List.length_singleton] at enough
    obtain ⟨fuel, rfl⟩ : ∃ n, fuel = n + 1 := ⟨fuel - 1, by omega⟩
    -- the item ends at the bracket or at the blanks in front of it
    have scanned := scan_writeAt indented level item spelled fuel (by omega)
      (ends_continued blanks' ']' (by decide) gap _ rest) start
    rw [scanItems, scanned]
    have closed := skipSpace_close blanks' ']' (by decide) rest
    simp [continued, writeItems, closed, ofItems]
  | cons other items =>
    rw [writeItems, continued, List.length_cons, List.length_append] at enough
    obtain ⟨fuel, rfl⟩ : ∃ n, fuel = n + 1 := ⟨fuel - 1, by omega⟩
    -- here it ends at the comma, and the next item begins behind the gap
    have scanned := scan_writeAt indented level item spelled fuel (by omega)
      (ends_continued blanks' ']' (by decide) gap _ rest) start
    obtain ⟨c, cs, text, ink, opened⟩ := writeAt_begins indented level others.1
    have next (more : List Char) : skipSpace (gap ++ (writeAt indented level other ++ more)) =
        writeAt indented level other ++ more := by
      rw [skipSpace_append blanks, text, List.cons_append, skipSpace_cons ink]
    have inner := scanItems_writeItems indented level other items others.1 others.2 blanks
      blanks' fuel (by omega) (ofJson item :: done) rest (next _)
    have comma (more : List Char) : skipSpace (',' :: more) = ',' :: more :=
      skipSpace_cons (by decide) more
    rw [scanItems, scanned]
    simp only [writeItems, continued, comma, next]
    simp [text, opened]
    rw [← List.cons_append, ← text, inner]
    simp [ofItems]
termination_by fuel

/-- The members of an object from behind the first quote of one of them on. -/
theorem scanMembers_writeMembers (indented : Bool) (level : Nat) (key : String) (value : Json)
    (members : List (String × Json)) (spelled : Spelled value) (others : MembersSpelled members)
    {gap close : List Char} (blanks : Blanks gap) (blanks' : Blanks close) (fuel : Nat)
    (enough : (memberText indented level key value ++
      continued gap (writeMembers indented level members) (close ++ ['\x7d'])).length ≤ fuel)
    (done : List (StringToken × JsonTree)) (rest : List Char) :
    scanMembers fuel done (memberText indented level key value ++
        continued gap (writeMembers indented level members) (close ++ '\x7d' :: rest)) =
      (object (done.reverse ++ ofMembers ((key, value) :: members)) none, some rest) := by
  rw [List.length_append, memberText, List.length_append, List.length_cons, List.length_cons,
    List.length_append] at enough
  obtain ⟨fuel, rfl⟩ : ∃ n, fuel = n + 1 := ⟨fuel - 1, by omega⟩
  -- the key, the colon and the value are read alike whether other members follow or not
  have named (more : List Char) : StringToken.scan [] (key.toList.flatMap escapeChar ++
      '"' :: more) = (.ofText key, some more) :=
    StringToken.scan_escaped [] key.toList more
  have marked (more : List Char) : skipSpace (':' :: more) = ':' :: more :=
    skipSpace_cons (by decide) more
  obtain ⟨c, cs, text, ink, -⟩ := writeAt_begins indented level spelled
  have start (more : List Char) :
      skipSpace (pad indented ++ (writeAt indented level value ++ more)) =
        writeAt indented level value ++ more := by
    rw [skipSpace_append (pad_blanks indented), text, List.cons_append, skipSpace_cons ink]
  have scanned := scan_writeAt indented level value spelled fuel (by omega)
    (ends_continued blanks' '\x7d' (by decide) gap (writeMembers indented level members) rest)
    (start _)
  rw [memberText]
  simp only [List.append_assoc, List.cons_append]
  rw [scanMembers]
  simp only [named, marked, scanned]
  cases members with
  | nil =>
    have closed := skipSpace_close blanks' '\x7d' (by decide) rest
    simp [continued, writeMembers, closed, ofMembers]
  | cons member members =>
    obtain ⟨key', value'⟩ := member
    rw [writeMembers_cons, continued, List.cons_append, List.length_cons, List.length_append,
      List.length_cons] at enough
    have comma (more : List Char) : skipSpace (',' :: more) = ',' :: more :=
      skipSpace_cons (by decide) more
    have next (more : List Char) : skipSpace (gap ++ '"' :: more) = '"' :: more := by
      rw [skipSpace_append blanks, skipSpace_cons (by decide)]
    have inner := scanMembers_writeMembers indented level key' value' members others.1 others.2
      blanks blanks' fuel (by omega) ((.ofText key, ofJson value) :: done) rest
    simp only [writeMembers_cons, continued, List.cons_append, comma, next, inner]
    simp [ofMembers]
termination_by fuel

end

/-! ## Whole texts -/

end JsonTree

namespace JsonText

/-- What is written for a value is scanned into the tree of the value. -/
theorem scan_writeAt (indented : Bool) {value : Json} (spelled : value.Spelled) :
    scan (String.ofList (value.writeAt indented 0)) = ⟨.ofJson value, false⟩ := by
  obtain ⟨c, cs, text, ink, -⟩ := Json.writeAt_begins indented 0 spelled
  have start : JsonTree.skipSpace (value.writeAt indented 0) = value.writeAt indented 0 ++ [] := by
    rw [List.append_nil, text, JsonTree.skipSpace_cons ink]
  have scanned := JsonTree.scan_writeAt indented 0 value spelled
    (2 * (value.writeAt indented 0).length + 2) (by omega) (by rintro _ ⟨⟩) start
  unfold scan
  simp only [String.toList_ofList, scanned]
  rfl

/-- Reading the text of a value is reading the tree of the value. -/
theorem readWith_writeAt {α : Type} (reader : JsonTree → Except JsonFault α) (indented : Bool)
    {value : Json} (spelled : value.Spelled) :
    readWith reader (String.ofList (value.writeAt indented 0)) = reader (.ofJson value) := by
  unfold readWith
  simp only [scan_writeAt indented spelled]
  cases reader (.ofJson value) <;> rfl

/-- So it is for the text without blanks. -/
theorem readWith_compact {α : Type} (reader : JsonTree → Except JsonFault α) {value : Json}
    (spelled : value.Spelled) : readWith reader value.compact = reader (.ofJson value) :=
  readWith_writeAt reader false spelled

/-- And so it is for the text with a line for each item and member. -/
theorem readWith_pretty {α : Type} (reader : JsonTree → Except JsonFault α) {value : Json}
    (spelled : value.Spelled) : readWith reader value.pretty = reader (.ofJson value) :=
  readWith_writeAt reader true spelled

end JsonText

end Polyglot
