import Polyglot.Proofs.Json.Numeral

/-!
# The grammar of JSON texts

`JsonTree.Spells` says of a text and a tree that the text is JSON and the tree is its syntax: one
rule for each kind of value, with any blanks around the marks, any escapes in a string and any
numeral. **`JsonText.scan_of_spells`** says that the scanner takes every such text for its tree, so
that no text has two (`JsonText.Spells.unique`).

The induction is on the steps that the scanner has left, as it is for written values, which are the
texts of the grammar without any choice.
-/

namespace Polyglot

/-! ## Strings -/

namespace StringToken

/-- The letters of the short escapes. -/
def escapeLetters : List Char := ['"', '\\', '/', 'b', 'f', 'n', 'r', 't']

/-- A hexadecimal digit, of either case. -/
def IsHex (c : Char) : Prop :=
  ('0' ≤ c ∧ c ≤ '9') ∨ ('a' ≤ c ∧ c ≤ 'f') ∨ ('A' ≤ c ∧ c ≤ 'F')

/-- What may stand between the quotes of a string. -/
inductive IsBody : List Char → Prop
  | nil : IsBody []
  | plain {c : Char} {rest : List Char} (quote : c ≠ '"') (backslash : c ≠ '\\')
      (printable : 0x20 ≤ c.toNat) (others : IsBody rest) : IsBody (c :: rest)
  | short {letter : Char} {rest : List Char} (known : letter ∈ escapeLetters)
      (others : IsBody rest) : IsBody ('\\' :: letter :: rest)
  | unit {a b c d : Char} {rest : List Char} (digits : ∀ digit ∈ [a, b, c, d], IsHex digit)
      (others : IsBody rest) : IsBody ('\\' :: 'u' :: a :: b :: c :: d :: rest)

variable {letter : Char} {rest : List Char}

theorem isSome_hexValue?_iff {c : Char} : (hexValue? c).isSome ↔ IsHex c := by
  unfold hexValue? IsHex
  simp only [Bool.and_eq_true, decide_eq_true_eq]
  split
  · next digit => exact ⟨fun _ => .inl digit, fun _ => rfl⟩
  split
  · next small => exact ⟨fun _ => .inr (.inl small), fun _ => rfl⟩
  split
  · next capital => exact ⟨fun _ => .inr (.inr capital), fun _ => rfl⟩
  · next digit small capital => simp [digit, small, capital]

/-- Four digits have a value just when each of them is one. -/
theorem isSome_unit?_iff {a b c d : Char} :
    (unit? a b c d).isSome ↔ ∀ digit ∈ [a, b, c, d], IsHex digit := by
  simp only [List.forall_mem_cons, ← isSome_hexValue?_iff]
  unfold unit?
  cases hexValue? a <;> cases hexValue? b <;> cases hexValue? c <;> cases hexValue? d <;> simp

theorem isSome_shortEscape?_iff : (shortEscape? letter).isSome ↔ letter ∈ escapeLetters := by
  unfold shortEscape? escapeLetters
  split <;> simp_all

/-- The scanner takes the body of a string and the quote behind it. -/
theorem scan_of_isBody {body : List Char} (is : IsBody body) (taken rest : List Char) :
    scan taken (body ++ '"' :: rest) = (⟨taken.reverse ++ body, none⟩, some rest) := by
  induction is generalizing taken with
  | nil => simp [scan]
  | plain quote backslash printable _ ih =>
    simp [scan, backslash, Nat.not_lt.mpr printable, ih]
  | @short letter body known _ ih =>
    have other : letter ≠ 'u' := by
      rintro rfl
      exact absurd known (by decide)
    rw [← isSome_shortEscape?_iff] at known
    simp [scan, known, other, ih]
  | unit digits _ ih =>
    rw [← isSome_unit?_iff] at digits
    simp [scan, digits, ih]

end StringToken

/-! ## Numerals -/

namespace NumberToken

/-- Digits, and one at least. -/
structure IsDigits (digits : List Char) : Prop where
  filled : digits ≠ []
  all : ∀ c ∈ digits, c.isDigit

/-- The part behind a point, if there is one, and its digits. -/
inductive SpellsFraction : List Char → List Char → Prop
  | none : SpellsFraction [] []
  | point {digits : List Char} (is : IsDigits digits) : SpellsFraction ('.' :: digits) digits

/-- The exponent, if there is one: whether it is negative, and its digits. -/
inductive SpellsExponent : List Char → Bool → List Char → Prop
  | none : SpellsExponent [] false []
  | unsigned {mark : Char} {digits : List Char} (marked : mark ∈ ['e', 'E'])
      (is : IsDigits digits) : SpellsExponent (mark :: digits) false digits
  | positive {mark : Char} {digits : List Char} (marked : mark ∈ ['e', 'E'])
      (is : IsDigits digits) : SpellsExponent (mark :: '+' :: digits) false digits
  | negative {mark : Char} {digits : List Char} (marked : mark ∈ ['e', 'E'])
      (is : IsDigits digits) : SpellsExponent (mark :: '-' :: digits) true digits

/-- A numeral without its sign: whole digits, of which the first is no zero unless it is the only
one, a fraction and an exponent. -/
inductive SpellsUnsigned (negative : Bool) : List Char → NumberToken → Prop
  | parts {whole fractionText fraction exponentText exponent : List Char} {exponentNegative : Bool}
      (is : IsDigits whole) (leading : whole.head? = some '0' → whole.length = 1)
      (places : SpellsFraction fractionText fraction)
      (scaled : SpellsExponent exponentText exponentNegative exponent) :
      SpellsUnsigned negative (whole ++ (fractionText ++ exponentText)) {
        negative, whole, fraction
        isFraction := !fraction.isEmpty || !exponent.isEmpty
        exponentNegative, exponent }

/-- A numeral. -/
inductive Spells : List Char → NumberToken → Prop
  | unsigned {text : List Char} {token : NumberToken} (is : SpellsUnsigned false text token) :
      Spells text token
  | negative {text : List Char} {token : NumberToken} (is : SpellsUnsigned true text token) :
      Spells ('-' :: text) token

variable {text rest digits : List Char} {token : NumberToken} {negative : Bool}

/-- Digits are taken up to what is none. -/
theorem takeWhile_digits (is : IsDigits digits) (ends : ∀ c ∈ rest.head?, c.isDigit = false) :
    (digits ++ rest).takeWhile Char.isDigit = digits ∧
      (digits ++ rest).dropWhile Char.isDigit = rest := by
  rw [List.takeWhile_append_of_pos is.all, List.dropWhile_append_of_pos is.all]
  cases rest with
  | nil => simp
  | cons c rest => simp [ends c rfl]

theorem isEmpty_of_isDigits (is : IsDigits digits) : digits.isEmpty = false := by
  rw [List.isEmpty_eq_false_iff]
  exact is.filled

/-- The scanner takes an exponent that stands at the end. -/
theorem scanExponent_of_spells {whole fraction exponent : List Char}
    {isFraction exponentNegative : Bool}
    (scaled : SpellsExponent text exponentNegative exponent) :
    scanExponent { negative, whole, fraction, isFraction } text =
      ({ negative, whole, fraction
         isFraction := isFraction || !exponent.isEmpty
         exponentNegative, exponent }, some []) := by
  have counted {digits : List Char} (is : IsDigits digits) :
      digits.takeWhile Char.isDigit = digits ∧ digits.dropWhile Char.isDigit = [] := by
    have ends : ∀ c ∈ ([] : List Char).head?, c.isDigit = false := nofun
    have taken := takeWhile_digits is ends
    rwa [List.append_nil] at taken
  have known {mark : Char} (marked : mark ∈ ['e', 'E']) : ¬ (mark ≠ 'e' ∧ mark ≠ 'E') := by
    simp only [List.mem_cons, List.not_mem_nil, or_false] at marked
    rintro ⟨small, capital⟩
    exact marked.elim small capital
  cases scaled with
  | none =>
    simp [scanExponent]
  | @unsigned mark digits marked is =>
    -- the first digit is no sign
    have unsigned : exponentSign exponent = (false, exponent) := by
      rw [exponentSign]
      · rintro rest rfl
        exact absurd (is.all '-' List.mem_cons_self) (by decide)
      · rintro rest rfl
        exact absurd (is.all '+' List.mem_cons_self) (by decide)
    rw [scanExponent_cons (known marked), unsigned, withExponent]
    simp [counted is, isEmpty_of_isDigits is]
  | positive marked is =>
    rw [scanExponent_cons (known marked), exponentSign, withExponent]
    simp [counted is, isEmpty_of_isDigits is]
  | negative marked is =>
    rw [scanExponent_cons (known marked), exponentSign, withExponent]
    simp [counted is, isEmpty_of_isDigits is]

/-- What an exponent begins with is neither a point nor a digit. -/
theorem SpellsExponent.begins {exponentNegative : Bool} {exponent : List Char}
    (scaled : SpellsExponent text exponentNegative exponent) :
    ∀ c ∈ text.head?, c.isDigit = false ∧ c ≠ '.' := by
  have other {mark : Char} (marked : mark ∈ ['e', 'E']) : mark.isDigit = false ∧ mark ≠ '.' := by
    simp only [List.mem_cons, List.not_mem_nil, or_false] at marked
    rcases marked with rfl | rfl <;> decide
  intro c first
  cases scaled with
  | none => cases first
  | unsigned marked is => cases first; exact other marked
  | positive marked is => cases first; exact other marked
  | negative marked is => cases first; exact other marked

/-- The scanner takes a fraction and an exponent that stand at the end. -/
theorem withWhole_of_spells {whole fractionText fraction exponentText exponent : List Char}
    {exponentNegative : Bool} (places : SpellsFraction fractionText fraction)
    (scaled : SpellsExponent exponentText exponentNegative exponent) :
    withWhole { negative, whole } (fractionText ++ exponentText) =
      ({ negative, whole, fraction
         isFraction := !fraction.isEmpty || !exponent.isEmpty
         exponentNegative, exponent }, some []) := by
  cases places with
  | none =>
    -- an exponent begins with no point
    have noPoint : withWhole { negative, whole } exponentText =
        scanExponent { negative, whole } exponentText := by
      rw [withWhole]
      rintro rest rfl
      exact (scaled.begins '.' rfl).2 rfl
    rw [List.nil_append, noPoint, scanExponent_of_spells scaled]
    rfl
  | point is =>
    obtain ⟨taken, left⟩ := takeWhile_digits is fun c first => (scaled.begins c first).1
    rw [List.cons_append, withWhole]
    simp only [taken, left, isEmpty_of_isDigits is]
    rw [if_neg Bool.false_ne_true, scanExponent_of_spells scaled]
    simp

/-- The scanner takes a numeral from behind its sign. -/
theorem scan_of_spells (is : SpellsUnsigned negative text token) :
    scan negative text = (token, some []) := by
  cases is with
  | @parts whole fractionText fraction exponentText exponent exponentNegative is leading places
      scaled =>
    -- what stands behind the digits in front is no digit
    have begins : ∀ c ∈ (fractionText ++ exponentText).head?, c.isDigit = false := by
      cases places with
      | none => exact fun c first => (scaled.begins c first).1
      | point is => rintro _ ⟨⟩; rfl
    obtain ⟨taken, left⟩ := takeWhile_digits is begins
    have plain : (whole.head? = some '0' && whole.length ≠ 1) = false := by
      by_cases zero : whole.head? = some '0'
      · simp [leading zero]
      · simp [zero]
    rw [scan_eq]
    simp only [taken, left, isEmpty_of_isDigits is, plain]
    exact withWhole_of_spells places scaled

/-- The text of the grammar's numeral is one for the scanner, with the same parts. -/
theorem isNumeral_of_spells (is : Spells text token) : IsNumeral text ∧ ofText text = token := by
  have digit {negative : Bool} {text : List Char} {token : NumberToken}
      (is : SpellsUnsigned negative text token) : ∃ c cs, text = c :: cs ∧ c.isDigit := by
    cases is with
    | parts is _ _ _ =>
      obtain ⟨c, whole, rfl⟩ := List.exists_cons_of_ne_nil is.filled
      exact ⟨c, _, rfl, is.all c List.mem_cons_self⟩
  -- without a sign the numeral begins with a digit, so that no sign is taken off it
  have signed : scanSigned text = (token, some []) := by
    cases is with
    | unsigned is =>
      obtain ⟨c, cs, rfl, first⟩ := digit is
      have unsigned (rest : List Char) : c :: cs ≠ '-' :: rest := by
        rintro ⟨⟩
        exact absurd first (by decide)
      rw [scanSigned_of_unsigned unsigned, scan_of_spells is]
    | negative is => exact scan_of_spells is
  have begins : ∃ c cs, text = c :: cs ∧ (c = '-' ∨ c.isDigit) := by
    cases is with
    | unsigned is =>
      obtain ⟨c, cs, rfl, first⟩ := digit is
      exact ⟨c, cs, rfl, .inr first⟩
    | negative is => exact ⟨'-', _, rfl, .inl rfl⟩
  exact ⟨isNumeral_of_scanSigned begins (by rw [signed]), by rw [ofText, signed]⟩

end NumberToken

/-! ## Values -/

namespace JsonTree

open StringToken (IsBody)

/-- The text of a key and of the colon behind it, and the body of the key. -/
inductive SpellsKey : List Char → List Char → Prop
  | mk {body before behind : List Char} (is : IsBody body) (blanks : Blanks before)
      (blanks' : Blanks behind) :
      SpellsKey ('"' :: (body ++ '"' :: (before ++ ':' :: behind))) body

mutual

/-- The text of a value, without blanks at its ends. -/
inductive Spells : List Char → JsonTree → Prop
  | nullWord : Spells ['n', 'u', 'l', 'l'] null
  | trueWord : Spells ['t', 'r', 'u', 'e'] (bool true)
  | falseWord : Spells ['f', 'a', 'l', 's', 'e'] (bool false)
  | number {text : List Char} {token : NumberToken} (is : token.Spells text) :
      Spells text (number token)
  | string {body : List Char} (is : IsBody body) :
      Spells ('"' :: (body ++ ['"'])) (string ⟨body, none⟩)
  | emptyArray {gap : List Char} (blanks : Blanks gap) :
      Spells ('[' :: (gap ++ [']'])) (array [] none)
  | array {gap text : List Char} {items : List JsonTree} (blanks : Blanks gap)
      (inner : SpellsItems text items) : Spells ('[' :: (gap ++ (text ++ [']']))) (array items none)
  | emptyObject {gap : List Char} (blanks : Blanks gap) :
      Spells ('\x7b' :: (gap ++ ['\x7d'])) (object [] none)
  | object {gap text : List Char} {members : List (StringToken × JsonTree)} (blanks : Blanks gap)
      (inner : SpellsMembers text members) :
      Spells ('\x7b' :: (gap ++ (text ++ ['\x7d']))) (object members none)

/-- The text of the items of an array, from the first character of an item to the bracket. -/
inductive SpellsItems : List Char → List JsonTree → Prop
  | last {text after : List Char} {item : JsonTree} (spelled : Spells text item)
      (blanks : Blanks after) : SpellsItems (text ++ after) [item]
  | cons {text after gap more : List Char} {item : JsonTree} {items : List JsonTree}
      (spelled : Spells text item) (blanks : Blanks after) (blanks' : Blanks gap)
      (others : SpellsItems more items) :
      SpellsItems (text ++ (after ++ ',' :: (gap ++ more))) (item :: items)

/-- The text of the members of an object, from the first quote of a key to the bracket. -/
inductive SpellsMembers : List Char → List (StringToken × JsonTree) → Prop
  | last {key text after : List Char} {value : JsonTree} {body : List Char}
      (keyed : SpellsKey key body) (spelled : Spells text value) (blanks : Blanks after) :
      SpellsMembers (key ++ (text ++ after)) [(⟨body, none⟩, value)]
  | cons {key text after gap more : List Char} {value : JsonTree} {body : List Char}
      {members : List (StringToken × JsonTree)} (keyed : SpellsKey key body)
      (spelled : Spells text value) (blanks : Blanks after) (blanks' : Blanks gap)
      (others : SpellsMembers more members) :
      SpellsMembers (key ++ (text ++ (after ++ ',' :: (gap ++ more))))
        ((⟨body, none⟩, value) :: members)

end

variable {text rest input : List Char} {tree : JsonTree}

/-- A value begins with what is neither a blank nor a closing bracket. -/
theorem Spells.begins (spelled : Spells text tree) :
    ∃ c cs, text = c :: cs ∧ isSpace c = false ∧ c ≠ ']' := by
  cases spelled with
  | number is => exact Json.numeral_begins (NumberToken.isNumeral_of_spells is).1
  | _ => exact ⟨_, _, rfl, by decide, by decide⟩

/-- So blanks in front of a value are passed over, and no more. -/
theorem Spells.skipSpace_append (spelled : Spells text tree) {gap : List Char}
    (blanks : Blanks gap) (more : List Char) :
    skipSpace (gap ++ (text ++ more)) = text ++ more := by
  obtain ⟨c, cs, rfl, ink, -⟩ := spelled.begins
  rw [JsonTree.skipSpace_append blanks, List.cons_append, skipSpace_cons ink]

/-- What may stand behind a value cannot continue a numeral. -/
theorem ends_of_blanks (mark : Char) {after : List Char} (blanks : Blanks after)
    (closes : mark ∈ [',', ']', '\x7d']) (more : List Char) :
    NumberToken.Ends (after ++ mark :: more) := by
  have unmarked : mark.isDigit = false ∧ mark ≠ '.' ∧ mark ≠ 'e' ∧ mark ≠ 'E' := by
    simp only [List.mem_cons, List.not_mem_nil, or_false] at closes
    rcases closes with rfl | rfl | rfl <;> decide
  exact ends_continued blanks mark unmarked [] [] more

/-- The next mark is found behind blanks. -/
theorem skipSpace_mark (mark : Char) {after : List Char} (blanks : Blanks after)
    (closes : mark ∈ [',', ':', '"', ']', '\x7d']) (more : List Char) :
    skipSpace (after ++ mark :: more) = mark :: more := by
  have ink : isSpace mark = false := by
    simp only [List.mem_cons, List.not_mem_nil, or_false] at closes
    rcases closes with rfl | rfl | rfl | rfl | rfl <;> rfl
  exact skipSpace_close blanks mark ink more

/-! ### Steps of the scanner -/

variable {fuel : Nat} {more : List Char} {c : Char} {cs : List Char}

/-- A bracket with an item behind it opens an array. -/
theorem scan_opened (start : skipSpace input = '[' :: more) (first : skipSpace more = c :: cs)
    (filled : c ≠ ']') : scan (fuel + 1) input = scanItems fuel [] more := by
  rw [scan, start]
  simp only [first]
  split
  · next none => cases none
  · next closed => cases closed; exact absurd rfl filled
  · rfl

/-- A brace with a quote behind it opens an object. -/
theorem scan_openedObject (start : skipSpace input = '\x7b' :: more)
    (first : skipSpace more = '"' :: cs) : scan (fuel + 1) input = scanMembers fuel [] cs := by
  rw [scan, start]
  simp only [first]

theorem scanItems_closed {item : JsonTree} (done : List JsonTree)
    (scanned : scan fuel input = (item, some rest)) (mark : skipSpace rest = ']' :: more) :
    scanItems (fuel + 1) done input = (array (item :: done).reverse none, some more) := by
  rw [scanItems, scanned]
  simp only [mark]

theorem scanItems_comma {item : JsonTree} (done : List JsonTree)
    (scanned : scan fuel input = (item, some rest)) (mark : skipSpace rest = ',' :: more)
    (next : skipSpace more = c :: cs) (filled : c ≠ ']') :
    scanItems (fuel + 1) done input = scanItems fuel (item :: done) more := by
  rw [scanItems, scanned]
  simp only [mark, next]
  split
  · next none => cases none
  · next closed => cases closed; exact absurd rfl filled
  · rfl

variable {key : StringToken} {value : JsonTree} {behind left : List Char}

theorem scanMembers_closed (done : List (StringToken × JsonTree))
    (keyed : StringToken.scan [] input = (key, some rest)) (colon : skipSpace rest = ':' :: behind)
    (scanned : scan fuel behind = (value, some left)) (mark : skipSpace left = '\x7d' :: more) :
    scanMembers (fuel + 1) done input =
      (object ((key, value) :: done).reverse none, some more) := by
  rw [scanMembers, keyed]
  simp only [colon, scanned, mark]

theorem scanMembers_comma (done : List (StringToken × JsonTree))
    (keyed : StringToken.scan [] input = (key, some rest)) (colon : skipSpace rest = ':' :: behind)
    (scanned : scan fuel behind = (value, some left)) (mark : skipSpace left = ',' :: more)
    (next : skipSpace more = '"' :: cs) :
    scanMembers (fuel + 1) done input = scanMembers fuel ((key, value) :: done) cs := by
  rw [scanMembers, keyed]
  simp only [colon, scanned, mark, next]

/-- Items begin like their first one. -/
theorem SpellsItems.begins {items : List JsonTree} (spelled : SpellsItems text items) :
    ∃ c cs, text = c :: cs ∧ isSpace c = false ∧ c ≠ ']' := by
  cases spelled with
  | last spelled _ =>
    obtain ⟨c, cs, rfl, ink, other⟩ := spelled.begins
    exact ⟨c, _, rfl, ink, other⟩
  | cons spelled _ _ _ =>
    obtain ⟨c, cs, rfl, ink, other⟩ := spelled.begins
    exact ⟨c, _, rfl, ink, other⟩

/-- Members begin with a quote. -/
theorem SpellsMembers.begins {members : List (StringToken × JsonTree)}
    (spelled : SpellsMembers text members) : ∃ cs, text = '"' :: cs := by
  cases spelled with
  | last keyed _ _ =>
    obtain ⟨is, _, _⟩ := keyed
    exact ⟨_, rfl⟩
  | cons keyed _ _ _ _ =>
    obtain ⟨is, _, _⟩ := keyed
    exact ⟨_, rfl⟩

/-! ### Whole values -/

mutual

/-- The scanner takes the text of a value for its tree. -/
theorem scan_of_spells {text : List Char} {tree : JsonTree} (spelled : Spells text tree)
    (fuel : Nat) (enough : text.length ≤ fuel) {input rest : List Char}
    (ends : NumberToken.Ends rest) (start : skipSpace input = text ++ rest) :
    scan fuel input = (tree, some rest) := by
  obtain ⟨c, cs, filled, -⟩ := spelled.begins
  -- a text of the grammar is not empty, which leaves fuel for what is inside it
  obtain ⟨fuel, rfl⟩ : ∃ n, fuel = n + 1 :=
    ⟨fuel - 1, by rw [filled, List.length_cons] at enough; omega⟩
  cases spelled with
  | nullWord =>
    rw [scan, start]
    rfl
  | trueWord =>
    rw [scan, start]
    rfl
  | falseWord =>
    rw [scan, start]
    rfl
  | number is =>
    obtain ⟨numeral, rfl⟩ := NumberToken.isNumeral_of_spells is
    exact scan_numeral fuel numeral ends start
  | string is =>
    rw [List.cons_append, List.append_assoc] at start
    rw [scan, start]
    simp only [List.cons_append, List.nil_append, StringToken.scan_of_isBody is]
    rfl
  | emptyArray blanks =>
    rw [List.cons_append, List.append_assoc] at start
    have closed := skipSpace_mark ']' blanks (by decide) rest
    rw [scan, start]
    simp [closed]
  | @array gap inside items blanks inner =>
    rw [List.cons_append, List.append_assoc, List.append_assoc] at start
    simp only [List.length_cons, List.length_append, List.length_nil] at enough
    obtain ⟨c, cs, rfl, ink, other⟩ := inner.begins
    have first : skipSpace (gap ++ (c :: cs ++ (']' :: rest))) = c :: (cs ++ ']' :: rest) := by
      rw [skipSpace_append blanks, List.cons_append, skipSpace_cons ink]
    rw [scan_opened start first other]
    exact scanItems_of_spells inner fuel (by omega) [] first
  | emptyObject blanks =>
    rw [List.cons_append, List.append_assoc] at start
    have closed := skipSpace_mark '\x7d' blanks (by decide) rest
    rw [scan, start]
    simp [closed]
  | @object gap inside members blanks inner =>
    rw [List.cons_append, List.append_assoc, List.append_assoc] at start
    simp only [List.length_cons, List.length_append, List.length_nil] at enough
    obtain ⟨cs, rfl⟩ := inner.begins
    have first := skipSpace_mark '"' blanks (by decide) (cs ++ '\x7d' :: rest)
    rw [scan_openedObject start first]
    rw [List.length_cons] at enough
    exact scanMembers_of_spells inner rfl fuel (by omega) [] rest
termination_by fuel

/-- The scanner takes the text of items behind those that it has. -/
theorem scanItems_of_spells {text : List Char} {items : List JsonTree}
    (spelled : SpellsItems text items) (fuel : Nat) (enough : text.length < fuel)
    (done : List JsonTree) {input rest : List Char}
    (start : skipSpace input = text ++ ']' :: rest) :
    scanItems fuel done input = (array (done.reverse ++ items) none, some rest) := by
  obtain ⟨fuel, rfl⟩ : ∃ n, fuel = n + 1 := ⟨fuel - 1, by omega⟩
  cases spelled with
  | @last text after item spelled blanks =>
    rw [List.append_assoc] at start
    rw [List.length_append] at enough
    have scanned := scan_of_spells spelled fuel (by omega)
      (ends_of_blanks _ blanks (by decide) rest) start
    have mark := skipSpace_mark ']' blanks (by decide) rest
    rw [scanItems_closed done scanned mark, List.reverse_cons]
  | @cons text after gap others item items spelled blanks blanks' inner =>
    simp only [List.append_assoc, List.cons_append] at start
    simp only [List.length_append, List.length_cons] at enough
    have scanned := scan_of_spells spelled fuel (by omega)
      (ends_of_blanks _ blanks (by decide) (gap ++ (others ++ ']' :: rest))) start
    have mark := skipSpace_mark ',' blanks (by decide) (gap ++ (others ++ ']' :: rest))
    obtain ⟨c, cs, rfl, ink, other⟩ := inner.begins
    have next : skipSpace (gap ++ (c :: cs ++ ']' :: rest)) = c :: (cs ++ ']' :: rest) := by
      rw [skipSpace_append blanks', List.cons_append, skipSpace_cons ink]
    rw [scanItems_comma done scanned mark next other]
    have rest := scanItems_of_spells inner fuel (by omega) (item :: done) next
    rwa [List.reverse_cons, List.append_assoc] at rest
termination_by fuel

/-- The scanner takes the text of members, from behind their first quote, behind those that it
has. -/
theorem scanMembers_of_spells {whole text : List Char} {members : List (StringToken × JsonTree)}
    (spelled : SpellsMembers whole members) (starts : whole = '"' :: text) (fuel : Nat)
    (enough : text.length < fuel) (done : List (StringToken × JsonTree)) (rest : List Char) :
    scanMembers fuel done (text ++ '\x7d' :: rest) =
      (object (done.reverse ++ members) none, some rest) := by
  obtain ⟨fuel, rfl⟩ : ∃ n, fuel = n + 1 := ⟨fuel - 1, by omega⟩
  cases spelled with
  | @last key text' after value body keyed spelled blanks =>
    -- the key, the colon, the value and what stands behind it are scanned in turn
    obtain ⟨is, before, behind⟩ := keyed
    rw [List.cons_append, List.cons.injEq] at starts
    obtain ⟨-, rfl⟩ := starts
    simp only [List.length_append, List.length_cons] at enough
    simp only [List.append_assoc, List.cons_append]
    have named := StringToken.scan_of_isBody is []
    have colon := skipSpace_mark ':' before (by decide)
    have start := spelled.skipSpace_append behind
    have scanned := scan_of_spells spelled fuel (by omega)
      (ends_of_blanks '\x7d' blanks (by decide) rest) (start _)
    have mark := skipSpace_mark '\x7d' blanks (by decide) rest
    rw [scanMembers_closed done (named _) (colon _) scanned mark, List.reverse_cons]
    rfl
  | @cons key text' after gap more value body others keyed spelled blanks blanks' inner =>
    obtain ⟨is, before, behind⟩ := keyed
    rw [List.cons_append, List.cons.injEq] at starts
    obtain ⟨-, rfl⟩ := starts
    obtain ⟨cs, rfl⟩ := inner.begins
    simp only [List.length_append, List.length_cons] at enough
    simp only [List.append_assoc, List.cons_append]
    have named := StringToken.scan_of_isBody is []
    have colon := skipSpace_mark ':' before (by decide)
    have start := spelled.skipSpace_append behind
    have scanned := scan_of_spells spelled fuel (by omega)
      (ends_of_blanks ',' blanks (by decide) (gap ++ '"' :: (cs ++ '\x7d' :: rest)))
      (start _)
    have mark := skipSpace_mark ',' blanks (by decide)
      (gap ++ '"' :: (cs ++ '\x7d' :: rest))
    have next := skipSpace_mark '"' blanks' (by decide) (cs ++ '\x7d' :: rest)
    rw [scanMembers_comma done (named _) (colon _) scanned mark next]
    have rest := scanMembers_of_spells inner rfl fuel (by omega)
      ((⟨body, none⟩, value) :: done) rest
    rwa [List.reverse_cons, List.append_assoc] at rest
termination_by fuel

end

end JsonTree

/-! ## Texts -/

namespace JsonText

open JsonTree (Blanks)

/-- A whole text: one value, with any blanks around it. -/
inductive Spells : List Char → JsonTree → Prop
  | mk {before text after : List Char} {tree : JsonTree} (blanks : Blanks before)
      (spelled : tree.Spells text) (blanks' : Blanks after) :
      Spells (before ++ (text ++ after)) tree

variable {text : String} {tree other : JsonTree}

/-- More blanks may follow a text. -/
theorem Spells.append_blanks {cs more : List Char} (spelled : Spells cs tree)
    (blanks : Blanks more) : Spells (cs ++ more) tree := by
  cases spelled with
  | mk before spelled after =>
    rw [List.append_assoc, List.append_assoc]
    refine .mk before spelled fun c mem => ?_
    exact (List.mem_append.mp mem).elim (after c) (blanks c)

/-- The scanner takes a JSON text for its tree, and nothing trails behind it. -/
theorem scan_of_spells (spelled : Spells text.toList tree) : scan text = ⟨tree, false⟩ := by
  generalize written : text.toList = cs at spelled
  cases spelled with
  | @mk before core after _ blanks spelled blanks' =>
    have blank : JsonTree.skipSpace after = [] := by
      have passed := JsonTree.skipSpace_append blanks' []
      rwa [List.append_nil] at passed
    -- blanks and the end of the text end a numeral
    have ends : NumberToken.Ends after := by
      intro c first
      have space : JsonTree.isSpace c := blanks' c (List.mem_of_mem_head? first)
      simp only [JsonTree.isSpace, Bool.or_eq_true, beq_iff_eq] at space
      rcases space with ((rfl | rfl) | rfl) | rfl <;> decide
    have enough : core.length ≤ 2 * text.toList.length + 2 := by
      rw [written, List.length_append, List.length_append]
      omega
    have start : JsonTree.skipSpace text.toList = core ++ after := by
      rw [written, spelled.skipSpace_append blanks]
    have scanned := JsonTree.scan_of_spells spelled _ enough ends start
    unfold scan
    simp only [scanned, blank]
    rfl

/-- A text has one tree. -/
theorem Spells.unique (spelled : Spells text.toList tree) (spelled' : Spells text.toList other) :
    tree = other :=
  congrArg JsonText.tree ((scan_of_spells spelled).symm.trans (scan_of_spells spelled'))

/-- Reading a JSON text is reading its tree. -/
theorem readWith_of_spells {α : Type} (reader : JsonTree → Except JsonFault α)
    (spelled : Spells text.toList tree) : readWith reader text = reader tree := by
  unfold readWith
  simp only [scan_of_spells spelled]
  cases reader tree <;> rfl

end JsonText

end Polyglot
