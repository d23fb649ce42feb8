import Polyglot.Proofs.Json.Grammar

/-!
# What the scanner takes is JSON

The other direction of the grammar: where the scanner comes to the end of a value, the value is
spelled there (`JsonTree.spells_of_scan`), and where it does not, it leaves a fault in the tree
(`JsonTree.formFault?_of_scan`). So the scanner takes just the texts of the grammar without a fault
(**`JsonText.spells_iff`**). A `Careful` reader refuses every tree with a fault, so that it reads
the JSON texts, each as it reads its tree, and nothing else (**`JsonText.readWith_eq_ok_iff`**).
-/

namespace Polyglot

/-! ## Strings -/

namespace StringToken

variable {taken input rest : List Char} {token : StringToken}

/-- A string that is closed has a body of the grammar. -/
theorem exists_isBody_of_scan (scanned : scan taken input = (token, some rest)) :
    ∃ body, IsBody body ∧ input = body ++ '"' :: rest ∧ token = ⟨taken.reverse ++ body, none⟩ := by
  fun_induction scan taken input with
  | case1 => cases scanned
  | case2 taken left =>
    cases scanned
    exact ⟨[], .nil, rfl, by rw [List.append_nil]⟩
  | case3 taken a b c d left digits ih =>
    obtain ⟨body, is, rfl, rfl⟩ := ih scanned
    exact ⟨_, .unit (isSome_unit?_iff.mp digits) is, rfl, by simp⟩
  | case4 => cases scanned
  | case5 => cases scanned
  | case6 => cases scanned
  | case7 taken letter left _ _ known ih =>
    obtain ⟨body, is, rfl, rfl⟩ := ih scanned
    exact ⟨_, .short (isSome_shortEscape?_iff.mp known) is, rfl, by simp⟩
  | case8 => cases scanned
  | case9 => cases scanned
  | case10 taken c left quote _ _ lone escape printable ih =>
    -- a backslash at the end and one with anything behind it are two cases of their own
    have backslash : c ≠ '\\' := by
      intro same
      cases left with
      | nil => exact lone same rfl
      | cons d left => exact escape d left same rfl
    obtain ⟨body, is, rfl, rfl⟩ := ih scanned
    exact ⟨_, .plain quote backslash (Nat.not_lt.mp printable) is, rfl, by simp⟩

/-- A string that is not closed has a fault. -/
theorem fault_of_scan (scanned : (scan taken input).2 = none) :
    (scan taken input).1.fault ≠ none := by
  fun_induction scan taken input with
  | case2 => cases scanned
  | case3 taken a b c d left digits ih => exact ih scanned
  | case7 taken letter left _ _ known ih => exact ih scanned
  | case10 taken c left quote _ _ lone escape printable ih => exact ih scanned
  | _ => simp

end StringToken

/-! ## Numerals -/

namespace NumberToken

variable {input left whole fraction : List Char} {token : NumberToken} {negative isFraction : Bool}

theorem isDigits_takeWhile (some : (input.takeWhile Char.isDigit).isEmpty = false) :
    IsDigits (input.takeWhile Char.isDigit) := by
  refine ⟨List.isEmpty_eq_false_iff.mp some, ?_⟩
  intro c mem
  exact List.mem_takeWhile_imp mem

/-- What is scanned as an exponent is one. -/
theorem spellsExponent_of_scan
    (scanned : scanExponent { negative, whole, fraction, isFraction } input = (token, some left)) :
    ∃ text exponentNegative exponent, SpellsExponent text exponentNegative exponent ∧
      input = text ++ left ∧ token = {
        negative, whole, fraction
        isFraction := isFraction || !exponent.isEmpty
        exponentNegative, exponent } := by
  cases input with
  | nil =>
    cases scanned
    exact ⟨[], false, [], .none, rfl, by simp⟩
  | cons mark input =>
    by_cases other : mark ≠ 'e' ∧ mark ≠ 'E'
    · unfold scanExponent at scanned
      simp only [if_pos other] at scanned
      cases scanned
      exact ⟨[], false, [], .none, rfl, by simp⟩
    have marked : mark ∈ ['e', 'E'] := by
      simp only [List.mem_cons, List.not_mem_nil, or_false]
      by_contra neither
      rw [not_or] at neither
      exact other neither
    rw [scanExponent_cons other, withExponent] at scanned
    simp only at scanned
    split at scanned
    · cases scanned
    · next filled =>
      cases scanned
      have filled := Bool.eq_false_iff.mpr filled
      have is := isDigits_takeWhile filled
      have split :=
        List.takeWhile_append_dropWhile (p := Char.isDigit) (l := (exponentSign input).2)
      -- the sign decides which kind of exponent it is
      unfold exponentSign at *
      split at is
      · exact ⟨_, _, _, .negative marked is, by simp_all, by simp_all⟩
      · exact ⟨_, _, _, .positive marked is, by simp_all, by simp_all⟩
      · exact ⟨_, _, _, .unsigned marked is, by simp_all, by simp_all⟩

/-- What is scanned as a numeral, from behind its sign, is one. -/
theorem spellsUnsigned_of_scan (scanned : scan negative input = (token, some left)) :
    ∃ text, SpellsUnsigned negative text token ∧ input = text ++ left := by
  rw [scan_eq] at scanned
  simp only at scanned
  split at scanned
  · cases scanned
  next filled =>
  split at scanned
  · cases scanned
  next plain =>
  have is := isDigits_takeWhile (Bool.eq_false_iff.mpr filled)
  have whole := List.takeWhile_append_dropWhile (p := Char.isDigit) (l := input)
  have leading : (input.takeWhile Char.isDigit).head? = some '0' →
      (input.takeWhile Char.isDigit).length = 1 := by
    intro zero
    simpa [zero] using plain
  generalize input.takeWhile Char.isDigit = digits at *
  generalize input.dropWhile Char.isDigit = rest at *
  -- behind the digits stands a point with more digits, or the exponent if there is one
  unfold withWhole at scanned
  split at scanned
  · next rest =>
    simp only at scanned
    split at scanned
    · cases scanned
    · next some =>
      have places := isDigits_takeWhile (Bool.eq_false_iff.mpr some)
      have fraction := List.takeWhile_append_dropWhile (p := Char.isDigit) (l := rest)
      obtain ⟨text, _, _, scaled, split, rfl⟩ := spellsExponent_of_scan scanned
      rw [split] at fraction
      have spelled := @SpellsUnsigned.parts negative _ _ _ _ _ _ is leading (.point places) scaled
      simp only [isEmpty_of_isDigits places] at spelled
      refine ⟨_, spelled, ?_⟩
      calc input = digits ++ '.' :: rest := whole.symm
        _ = digits ++ '.' :: (rest.takeWhile Char.isDigit ++ (text ++ left)) := by rw [fraction]
        _ = digits ++ ('.' :: rest.takeWhile Char.isDigit ++ text) ++ left := by simp
  · obtain ⟨text, _, _, scaled, rfl, rfl⟩ := spellsExponent_of_scan scanned
    refine ⟨_, .parts is leading .none scaled, ?_⟩
    rw [← whole]
    simp

end NumberToken

/-! ## Values -/

namespace JsonTree

/-- Blanks stand before whatever comes next. -/
theorem exists_blanks (input : List Char) : ∃ gap, Blanks gap ∧ input = gap ++ skipSpace input := by
  refine ⟨input.takeWhile isSpace, ?_, List.takeWhile_append_dropWhile.symm⟩
  intro c mem
  exact List.mem_takeWhile_imp mem

/-- A word is taken letter by letter. -/
theorem scanWord_eq_some {value tree : JsonTree} {word input rest : List Char}
    (scanned : scanWord value word input = (tree, some rest)) :
    tree = value ∧ input = word ++ rest := by
  induction word generalizing input with
  | nil =>
    cases scanned
    exact ⟨rfl, rfl⟩
  | cons c word ih =>
    cases input with
    | nil => cases scanned
    | cons d input =>
      rw [scanWord] at scanned
      split at scanned
      · next same =>
        obtain ⟨rfl, rfl⟩ := ih scanned
        exact ⟨rfl, by rw [same]; rfl⟩
      · cases scanned

/-- The items of an array that the scanner has not had, and the bracket behind them, are spelled in
the text that lies before it. -/
def ItemsEnd (done : List JsonTree) (input : List Char) (tree : JsonTree) (rest : List Char) :
    Prop :=
  ∃ text items, SpellsItems text items ∧ tree = array (done.reverse ++ items) none ∧
    skipSpace input = text ++ ']' :: rest

/-- So are the members of an object, the first of them without its first quote. -/
def MembersEnd (done : List (StringToken × JsonTree)) (input : List Char) (tree : JsonTree)
    (rest : List Char) : Prop :=
  ∃ text members, SpellsMembers ('"' :: text) members ∧
    tree = object (done.reverse ++ members) none ∧ input = text ++ '\x7d' :: rest

mutual

/-- Where the scanner comes to the end of a value, the value is spelled there. -/
theorem spells_of_scan (fuel : Nat) {input rest : List Char} {tree : JsonTree}
    (scanned : scan fuel input = (tree, some rest)) :
    ∃ text, Spells text tree ∧ skipSpace input = text ++ rest := by
  cases fuel with
  | zero => cases scanned
  | succ fuel =>
    unfold scan at scanned
    -- the first character that is no blank says what kind of value it is
    split at scanned
    · cases scanned
    · next more start =>
      obtain ⟨rfl, rfl⟩ := scanWord_eq_some scanned
      exact ⟨_, .nullWord, start⟩
    · next more start =>
      obtain ⟨rfl, rfl⟩ := scanWord_eq_some scanned
      exact ⟨_, .trueWord, start⟩
    · next more start =>
      obtain ⟨rfl, rfl⟩ := scanWord_eq_some scanned
      exact ⟨_, .falseWord, start⟩
    · next more start =>
      cases read : StringToken.scan [] more with
      | mk token left =>
        rw [read] at scanned
        cases scanned
        obtain ⟨body, is, rfl, rfl⟩ := StringToken.exists_isBody_of_scan read
        exact ⟨_, .string is, by rw [start]; simp⟩
    · next more start =>
      cases read : NumberToken.scan true more with
      | mk token left =>
        rw [read] at scanned
        cases scanned
        obtain ⟨text, is, rfl⟩ := NumberToken.spellsUnsigned_of_scan read
        exact ⟨_, .number (.negative is), start⟩
    · next more start =>
      -- nothing, a closing bracket, or the first item
      obtain ⟨gap, blanks, whole⟩ := exists_blanks more
      split at scanned
      · cases scanned
      · next closed =>
        cases scanned
        rw [closed] at whole
        exact ⟨_, .emptyArray blanks, by rw [start, whole]; simp⟩
      · obtain ⟨text, items, inner, rfl, behind⟩ := spellsItems_of_scan fuel scanned
        rw [behind] at whole
        exact ⟨_, .array blanks inner, by rw [start, whole]; simp⟩
    · next more start =>
      -- nothing, a closing bracket, the first quote of a key, or something else
      obtain ⟨gap, blanks, whole⟩ := exists_blanks more
      split at scanned
      · cases scanned
      · next closed =>
        cases scanned
        rw [closed] at whole
        exact ⟨_, .emptyObject blanks, by rw [start, whole]; simp⟩
      · next quoted =>
        obtain ⟨text, members, inner, rfl, rfl⟩ := spellsMembers_of_scan fuel scanned
        rw [quoted] at whole
        exact ⟨_, .object blanks inner, by rw [start, whole]; simp⟩
      · cases scanned
    · next c more _ _ _ _ minus _ _ start =>
      -- only a digit begins a numeral without a sign
      split at scanned
      · cases read : NumberToken.scan false (c :: more) with
        | mk token left =>
          rw [read] at scanned
          cases scanned
          obtain ⟨text, is, whole⟩ := NumberToken.spellsUnsigned_of_scan read
          exact ⟨_, .number (.unsigned is), by rw [start, whole]⟩
      · cases scanned
termination_by fuel

theorem spellsItems_of_scan (fuel : Nat) {done : List JsonTree} {input rest : List Char}
    {tree : JsonTree} (scanned : scanItems fuel done input = (tree, some rest)) :
    ItemsEnd done input tree rest := by
  cases fuel with
  | zero => cases scanned
  | succ fuel =>
    unfold scanItems at scanned
    split at scanned
    · cases scanned
    next item left read =>
    obtain ⟨text, spelled, start⟩ := spells_of_scan fuel read
    -- behind the item stand nothing, the closing bracket, a comma, or something else
    obtain ⟨after, blanks, behind⟩ := exists_blanks left
    split at scanned
    · cases scanned
    · next closed =>
      cases scanned
      rw [closed] at behind
      exact ⟨_, _, .last spelled blanks, by simp, by rw [start, behind]; simp⟩
    · next more comma =>
      obtain ⟨gap, blanks', whole⟩ := exists_blanks more
      split at scanned
      · cases scanned
      · cases scanned
      · obtain ⟨others, items, inner, rfl, next⟩ := spellsItems_of_scan fuel scanned
        rw [comma] at behind
        rw [next] at whole
        refine ⟨_, _, .cons spelled blanks blanks' inner, by simp, ?_⟩
        rw [start, behind, whole]
        simp
    · cases scanned
termination_by fuel

theorem spellsMembers_of_scan (fuel : Nat) {done : List (StringToken × JsonTree)}
    {input rest : List Char} {tree : JsonTree}
    (scanned : scanMembers fuel done input = (tree, some rest)) :
    MembersEnd done input tree rest := by
  cases fuel with
  | zero => cases scanned
  | succ fuel =>
    unfold scanMembers at scanned
    split at scanned
    · cases scanned
    next key left keyed =>
    -- the key, the colon and the value behind it have to be there
    obtain ⟨body, is, rfl, rfl⟩ := StringToken.exists_isBody_of_scan keyed
    obtain ⟨before, blanks, marked⟩ := exists_blanks left
    split at scanned
    · cases scanned
    · next behind colon =>
      rw [colon] at marked
      split at scanned
      · cases scanned
      next value last read =>
      obtain ⟨text, spelled, start⟩ := spells_of_scan fuel read
      obtain ⟨pad, blanks', padded⟩ := exists_blanks behind
      obtain ⟨after, blanks'', ended⟩ := exists_blanks last
      rw [start] at padded
      simp only at scanned
      -- as behind an item: nothing, the closing bracket, a comma, or something else
      have key := SpellsKey.mk is blanks blanks'
      split at scanned
      · cases scanned
      · next closed =>
        cases scanned
        rw [closed] at ended
        refine ⟨_, _, .last key spelled blanks'', by simp, ?_⟩
        rw [marked, padded, ended]
        simp
      · next more comma =>
        obtain ⟨gap, blanks''', whole⟩ := exists_blanks more
        split at scanned
        · cases scanned
        · next quoted =>
          obtain ⟨others, members, inner, rfl, rfl⟩ := spellsMembers_of_scan fuel scanned
          rw [comma] at ended
          rw [quoted] at whole
          refine ⟨_, _, .cons key spelled blanks'' blanks''' inner, by simp, ?_⟩
          rw [marked, padded, ended, whole]
          simp
        · cases scanned
      · cases scanned
    · cases scanned
termination_by fuel

end

/-! ## Faults -/

theorem itemsFault?_eq_none_iff {items : List JsonTree} :
    itemsFault? items = none ↔ ∀ item ∈ items, item.formFault? = none := by
  induction items with
  | nil => simp [itemsFault?]
  | cons item items ih => rw [itemsFault?, Option.or_eq_none_iff, ih, List.forall_mem_cons]

theorem membersFault?_eq_none_iff {members : List (StringToken × JsonTree)} :
    membersFault? members = none ↔
      ∀ member ∈ members, member.1.fault = none ∧ member.2.formFault? = none := by
  induction members with
  | nil => simp [membersFault?]
  | cons member members ih =>
    rw [membersFault?, Option.or_eq_none_iff, Option.or_eq_none_iff, ih, List.forall_mem_cons]

/-- An array is sound if it is closed and its items are sound. -/
theorem formFault?_array {items : List JsonTree} {fault : Option JsonFault} :
    (array items fault).formFault? = none ↔
      (∀ item ∈ items, item.formFault? = none) ∧ fault = none := by
  rw [formFault?, Option.or_eq_none_iff, itemsFault?_eq_none_iff]

/-- An object is sound if it is closed and its keys and values are sound. -/
theorem formFault?_object {members : List (StringToken × JsonTree)} {fault : Option JsonFault} :
    (object members fault).formFault? = none ↔
      (∀ member ∈ members, member.1.fault = none ∧ member.2.formFault? = none) ∧
        fault = none := by
  rw [formFault?, Option.or_eq_none_iff, membersFault?_eq_none_iff]

mutual

/-- No value of the grammar has a fault. -/
theorem formFault?_of_spells {text : List Char} {tree : JsonTree} (spelled : Spells text tree) :
    tree.formFault? = none := by
  cases spelled with
  | number is =>
    cases is with
    | unsigned is => cases is; rfl
    | negative is => cases is; rfl
  | array _ inner => exact formFault?_array.mpr ⟨formFault?_of_spellsItems inner, rfl⟩
  | object _ inner => exact formFault?_object.mpr ⟨formFault?_of_spellsMembers inner, rfl⟩
  | _ => rfl

theorem formFault?_of_spellsItems {text : List Char} {items : List JsonTree}
    (spelled : SpellsItems text items) : ∀ item ∈ items, item.formFault? = none := by
  cases spelled with
  | last spelled _ => exact List.forall_mem_singleton.mpr (formFault?_of_spells spelled)
  | cons spelled _ _ others =>
    exact List.forall_mem_cons.mpr ⟨formFault?_of_spells spelled, formFault?_of_spellsItems others⟩

theorem formFault?_of_spellsMembers {text : List Char} {members : List (StringToken × JsonTree)}
    (spelled : SpellsMembers text members) :
    ∀ member ∈ members, member.1.fault = none ∧ member.2.formFault? = none := by
  cases spelled with
  | last _ spelled _ => exact List.forall_mem_singleton.mpr ⟨rfl, formFault?_of_spells spelled⟩
  | cons _ spelled _ _ others =>
    exact List.forall_mem_cons.mpr
      ⟨⟨rfl, formFault?_of_spells spelled⟩, formFault?_of_spellsMembers others⟩

end

variable {items : List JsonTree} {members : List (StringToken × JsonTree)}
  {fault : Option JsonFault} {broken : JsonFault} {item value : JsonTree} {key : StringToken}

theorem faulty_open_array : (array items (some broken)).formFault? ≠ none := by
  rw [ne_eq, formFault?_array]
  exact fun sound => nomatch sound.2

theorem faulty_item (mem : item ∈ items) (faulty : item.formFault? ≠ none) :
    (array items fault).formFault? ≠ none := by
  rw [ne_eq, formFault?_array]
  exact fun sound => faulty (sound.1 item mem)

theorem faulty_open_object : (object members (some broken)).formFault? ≠ none := by
  rw [ne_eq, formFault?_object]
  exact fun sound => nomatch sound.2

theorem faulty_member (mem : (key, value) ∈ members)
    (faulty : key.fault ≠ none ∨ value.formFault? ≠ none) :
    (object members fault).formFault? ≠ none := by
  rw [ne_eq, formFault?_object]
  intro sound
  obtain ⟨keySound, valueSound⟩ := sound.1 (key, value) mem
  exact faulty.elim (· keySound) (· valueSound)

theorem faulty_broken : (JsonTree.broken broken).formFault? ≠ none :=
  nofun

/-- So is a numeral that breaks off. -/
theorem faulty_number {negative : Bool} {input : List Char} {token : NumberToken}
    (scanned : NumberToken.scan negative input = (token, none)) :
    (number token).formFault? ≠ none := by
  have sound := NumberToken.fault_scan negative input
  rw [scanned] at sound
  cases broken : token.fault with
  | none => exact nomatch sound.mp broken
  | some fault => simp [formFault?, broken]

/-- A word that breaks off is a fault. -/
theorem formFault?_of_scanWord {word input : List Char} {tree : JsonTree}
    (scanned : scanWord value word input = (tree, none)) : tree.formFault? ≠ none := by
  induction word generalizing input with
  | nil => cases scanned
  | cons c word ih =>
    cases input with
    | nil =>
      cases scanned
      exact faulty_broken
    | cons d input =>
      rw [scanWord] at scanned
      split at scanned
      · exact ih scanned
      · cases scanned
        exact faulty_broken

mutual

/-- Where the scanner does not come to the end of a value, the tree has a fault. -/
theorem formFault?_of_scan (fuel : Nat) {input : List Char} {tree : JsonTree}
    (scanned : scan fuel input = (tree, none)) : tree.formFault? ≠ none := by
  cases fuel with
  | zero =>
    cases scanned
    exact faulty_broken
  | succ fuel =>
    unfold scan at scanned
    -- where the scanner stops it leaves something broken behind, whatever it was scanning
    split at scanned
    · cases scanned
      exact faulty_broken
    · exact formFault?_of_scanWord scanned
    · exact formFault?_of_scanWord scanned
    · exact formFault?_of_scanWord scanned
    · next more start =>
      cases read : StringToken.scan [] more with
      | mk token left =>
        rw [read] at scanned
        cases scanned
        have broken := StringToken.fault_of_scan (congrArg Prod.snd read)
        rwa [read] at broken
    · next more start =>
      cases read : NumberToken.scan true more with
      | mk token left =>
        rw [read] at scanned
        cases scanned
        exact faulty_number read
    · split at scanned
      · cases scanned
        exact faulty_open_array
      · cases scanned
      · exact formFault?_of_scanItems fuel scanned
    · split at scanned
      · cases scanned
        exact faulty_open_object
      · cases scanned
      · exact formFault?_of_scanMembers fuel scanned
      · cases scanned
        exact faulty_open_object
    · next c more _ _ _ _ minus _ _ start =>
      split at scanned
      · cases read : NumberToken.scan false (c :: more) with
        | mk token left =>
          rw [read] at scanned
          cases scanned
          exact faulty_number read
      · cases scanned
        exact faulty_broken
termination_by fuel

theorem formFault?_of_scanItems (fuel : Nat) {done : List JsonTree} {input : List Char}
    {tree : JsonTree} (scanned : scanItems fuel done input = (tree, none)) :
    tree.formFault? ≠ none := by
  cases fuel with
  | zero =>
    cases scanned
    exact faulty_open_array
  | succ fuel =>
    unfold scanItems at scanned
    split at scanned
    · next item read =>
      cases scanned
      exact faulty_item (by simp) (formFault?_of_scan fuel read)
    -- the item is the last, or something has to stand behind it
    split at scanned
    · cases scanned
      exact faulty_open_array
    · cases scanned
    · split at scanned
      · cases scanned
        exact faulty_item (List.mem_reverse.mpr List.mem_cons_self) faulty_broken
      · cases scanned
        exact faulty_item (List.mem_reverse.mpr List.mem_cons_self) faulty_broken
      · exact formFault?_of_scanItems fuel scanned
    · cases scanned
      exact faulty_open_array
termination_by fuel

theorem formFault?_of_scanMembers (fuel : Nat) {done : List (StringToken × JsonTree)}
    {input : List Char} {tree : JsonTree} (scanned : scanMembers fuel done input = (tree, none)) :
    tree.formFault? ≠ none := by
  cases fuel with
  | zero =>
    cases scanned
    exact faulty_open_object
  | succ fuel =>
    unfold scanMembers at scanned
    -- the key breaks off, or a value is missing, or it breaks off itself
    split at scanned
    · next key keyed =>
      cases scanned
      have broken := StringToken.fault_of_scan (congrArg Prod.snd keyed)
      rw [keyed] at broken
      exact faulty_member (List.mem_reverse.mpr List.mem_cons_self) (.inl broken)
    split at scanned
    · cases scanned
      exact faulty_member (List.mem_reverse.mpr List.mem_cons_self) (.inr faulty_broken)
    · split at scanned
      · next value read =>
        cases scanned
        exact faulty_member (List.mem_reverse.mpr List.mem_cons_self)
          (.inr (formFault?_of_scan fuel read))
      simp only at scanned
      split at scanned
      · cases scanned
        exact faulty_open_object
      · cases scanned
      · split at scanned
        · cases scanned
          exact faulty_open_object
        · exact formFault?_of_scanMembers fuel scanned
        · cases scanned
          exact faulty_open_object
      · cases scanned
        exact faulty_open_object
    · cases scanned
      exact faulty_member (List.mem_reverse.mpr List.mem_cons_self) (.inr faulty_broken)
termination_by fuel

end

end JsonTree

/-! ## Written values -/

/-- A numeral has no fault. -/
theorem NumberToken.IsNumeral.fault_ofText {text : List Char} (is : IsNumeral text) :
    (ofText text).fault = none := by
  have ends : Ends [] := nofun
  have scanned := is.scanned [] ends
  rw [List.append_nil] at scanned
  rw [ofText, (scanSigned_spec text).1, scanned]
  rfl

namespace JsonTree

mutual

/-- Nor has the tree of a value whose numbers are numerals. -/
theorem formFault?_ofJson (value : Json) (spelled : value.Spelled) :
    (ofJson value).formFault? = none := by
  cases value with
  | integer n =>
    rw [Json.Spelled] at spelled
    rw [ofJson, formFault?, spelled.fault_ofText, Option.map_none]
  | fraction negative magnitude =>
    rw [Json.Spelled] at spelled
    rw [ofJson, formFault?, spelled.fault_ofText, Option.map_none]
  | array items =>
    rw [Json.Spelled] at spelled
    rw [ofJson, formFault?_array]
    exact ⟨formFault?_ofItems items spelled, rfl⟩
  | object members =>
    rw [Json.Spelled] at spelled
    rw [ofJson, formFault?_object]
    exact ⟨formFault?_ofMembers members spelled, rfl⟩
  | _ => rfl

theorem formFault?_ofItems (items : List Json) (spelled : Json.ItemsSpelled items) :
    ∀ item ∈ ofItems items, item.formFault? = none := by
  match items with
  | [] => exact fun item mem => absurd mem List.not_mem_nil
  | item :: items =>
    rw [Json.ItemsSpelled] at spelled
    rw [ofItems, List.forall_mem_cons]
    exact ⟨formFault?_ofJson item spelled.1, formFault?_ofItems items spelled.2⟩

theorem formFault?_ofMembers (members : List (String × Json))
    (spelled : Json.MembersSpelled members) :
    ∀ member ∈ ofMembers members, member.1.fault = none ∧ member.2.formFault? = none := by
  match members with
  | [] => exact fun member mem => absurd mem List.not_mem_nil
  | (key, value) :: members =>
    rw [Json.MembersSpelled] at spelled
    rw [ofMembers, List.forall_mem_cons]
    exact ⟨⟨rfl, formFault?_ofJson value spelled.1⟩, formFault?_ofMembers members spelled.2⟩

end

end JsonTree

/-! ## Readers -/

/-- A string with a fault is not read. -/
theorem StringToken.fault_of_read {token : StringToken} {text : String}
    (read : token.read = .ok text) : token.fault = none := by
  unfold StringToken.read at read
  split at read
  · cases read
  · cases read
  · next sound => exact sound

namespace JsonTree

variable {σ α : Type} {reader : JsonTree → Except JsonFault α}

/-- The reader refuses every tree with a fault. -/
def Careful (reader : JsonTree → Except JsonFault α) : Prop :=
  ∀ tree a, reader tree = .ok a → tree.formFault? = none

theorem careful_text : Careful text := by
  intro tree a read
  cases tree with
  | string token => exact StringToken.fault_of_read read
  | _ => cases read

theorem Careful.map {β : Type} (careful : Careful reader) (f : α → β) :
    Careful fun tree => (reader tree).map f := by
  intro tree b read
  cases value : reader tree with
  | error fault =>
    simp only [value] at read
    cases read
  | ok a => exact careful tree a value

theorem Careful.nullable (careful : Careful reader) : Careful (JsonTree.nullable reader) := by
  intro tree a read
  unfold JsonTree.nullable at read
  split at read
  · rfl
  · exact careful.map some tree a read

/-- Items are read if each of them is. -/
theorem exists_mapM_iff {items : List JsonTree} :
    (∃ values, items.mapM reader = .ok values) ↔ ∀ item ∈ items, ∃ a, reader item = .ok a := by
  induction items with
  | nil => exact iff_of_true ⟨[], rfl⟩ fun item mem => absurd mem List.not_mem_nil
  | cons item items ih =>
    rw [List.forall_mem_cons, ← ih, List.mapM_cons]
    cases first : reader item with
    | error fault => simp [bind, Except.bind]
    | ok a => cases items.mapM reader <;> simp [bind, Except.bind, pure, Except.pure]

theorem Careful.list (careful : Careful reader) : Careful (JsonTree.list reader) := by
  intro tree values read
  cases tree with
  | array items fault =>
    unfold JsonTree.list at read
    simp only at read
    split at read
    · cases read
    · cases read
    · next found =>
      refine formFault?_array.mpr ⟨fun item mem => ?_, rfl⟩
      obtain ⟨a, found⟩ := exists_mapM_iff.mp ⟨_, found⟩ item mem
      exact careful item a found
  | _ => cases read

section Values

variable {depth : Nat} {items : List JsonTree} {members : List (StringToken × JsonTree)}
  {fault : Option JsonFault} {whole : Json}

theorem value_array_eq_ok_iff :
    value depth (array items fault) = .ok whole ↔
      1 < depth ∧ fault = none ∧
        ∃ inner, values (depth - 1) items = .ok inner ∧ whole = .array inner := by
  unfold value
  by_cases deep : depth ≤ 1
  · simp [deep, Nat.not_lt.mpr deep]
  · cases values (depth - 1) items <;> cases fault <;>
      simp [deep, Nat.lt_of_not_le deep, eq_comm]

theorem value_object_eq_ok_iff :
    value depth (object members fault) = .ok whole ↔
      1 < depth ∧ fault = none ∧
        ∃ inner, memberValues (depth - 1) members = .ok inner ∧ whole = .object inner := by
  unfold value
  by_cases deep : depth ≤ 1
  · simp [deep, Nat.not_lt.mpr deep]
  · cases memberValues (depth - 1) members <;> cases fault <;>
      simp [deep, Nat.lt_of_not_le deep, eq_comm]

theorem values_cons_eq_ok_iff {item : JsonTree} {inner : List Json} :
    values depth (item :: items) = .ok inner ↔
      ∃ first rest, item.value depth = .ok first ∧ values depth items = .ok rest ∧
        inner = first :: rest := by
  rw [values]
  cases item.value depth <;> cases values depth items <;> simp [Except.map, eq_comm]

theorem memberValues_cons_eq_ok_iff {member : StringToken × JsonTree}
    {inner : List (String × Json)} :
    memberValues depth (member :: members) = .ok inner ↔
      ∃ name first rest, member.1.read = .ok name ∧ member.2.value depth = .ok first ∧
        memberValues depth members = .ok rest ∧ inner = (name, first) :: rest := by
  rw [memberValues]
  cases member.1.read <;> cases member.2.value depth <;> cases memberValues depth members <;>
    simp [Except.map, eq_comm]

end Values

mutual

/-- What is read as a value has no fault. -/
theorem formFault?_of_value (depth : Nat) (tree : JsonTree) (whole : Json)
    (read : tree.value depth = .ok whole) : tree.formFault? = none := by
  cases tree with
  | null => rfl
  | bool b => rfl
  | number token =>
    rw [value] at read
    cases found : token.read with
    | error fault =>
      rw [found] at read
      cases read
    | ok number => rw [formFault?, NumberToken.fault_of_read found, Option.map_none]
  | string token =>
    rw [value] at read
    cases found : token.read with
    | error fault =>
      rw [found] at read
      cases read
    | ok text => exact StringToken.fault_of_read found
  | array items fault =>
    obtain ⟨-, closed, inner, found, -⟩ := value_array_eq_ok_iff.mp read
    exact formFault?_array.mpr ⟨formFault?_of_values _ items inner found, closed⟩
  | object members fault =>
    obtain ⟨-, closed, inner, found, -⟩ := value_object_eq_ok_iff.mp read
    exact formFault?_object.mpr ⟨formFault?_of_memberValues _ members inner found, closed⟩
  | broken fault => cases read

theorem formFault?_of_values (depth : Nat) (items : List JsonTree) (whole : List Json)
    (read : values depth items = .ok whole) : ∀ item ∈ items, item.formFault? = none := by
  cases items with
  | nil => exact fun item mem => absurd mem List.not_mem_nil
  | cons item items =>
    obtain ⟨_, rest, first, others, -⟩ := values_cons_eq_ok_iff.mp read
    exact List.forall_mem_cons.mpr
      ⟨formFault?_of_value depth item _ first, formFault?_of_values depth items rest others⟩

theorem formFault?_of_memberValues (depth : Nat) (members : List (StringToken × JsonTree))
    (whole : List (String × Json)) (read : memberValues depth members = .ok whole) :
    ∀ member ∈ members, member.1.fault = none ∧ member.2.formFault? = none := by
  match members with
  | [] => exact fun member mem => absurd mem List.not_mem_nil
  | (key, tree) :: members =>
    obtain ⟨_, _, rest, named, first, others, -⟩ := memberValues_cons_eq_ok_iff.mp read
    exact List.forall_mem_cons.mpr
      ⟨⟨StringToken.fault_of_read named, formFault?_of_value depth tree _ first⟩,
        formFault?_of_memberValues depth members rest others⟩

end

theorem careful_value (depth : Nat) : Careful (value depth) :=
  formFault?_of_value depth

end JsonTree

namespace RecordShape

variable {σ : Type} {shape : RecordShape σ} {record final : σ}

/-- Every field of the record is stored with care. -/
def Careful (shape : RecordShape σ) : Prop :=
  ∀ field ∈ shape, ∀ record, JsonTree.Careful (field.store · record)

variable {key : StringToken} {tree : JsonTree} {members : List (StringToken × JsonTree)}
  {seen seen' : List String}

/-- What is done with a member where some names have been met and some values stored: one that is
not wanted is passed over if it has no fault, and any other is stored, unless one of its name was
met before. -/
inductive Step (shape : RecordShape σ) (member : StringToken × JsonTree) :
    List String × σ → List String × σ → Prop
  | pass {name : String} {seen : List String} {record : σ} (named : member.1.read = .ok name)
      (unknown : shape.find? (·.name == name) = none) (sound : member.2.formFault? = none) :
      Step shape member (seen, record) (seen, record)
  | store {name : String} {field : RecordField σ} {seen : List String} {record next : σ}
      (named : member.1.read = .ok name) (known : shape.find? (·.name == name) = some field)
      (fresh : name ∉ seen) (stored : field.store member.2 record = .ok next) :
      Step shape member (seen, record) (name :: seen, next)

/-- Members are taken one after the other. -/
theorem readMembers_cons_eq_ok_iff {member : StringToken × JsonTree} {state : List String × σ} :
    shape.readMembers seen record (member :: members) = .ok state ↔
      ∃ between, shape.Step member (seen, record) between ∧
        shape.readMembers between.1 between.2 members = .ok state := by
  rw [readMembers]
  constructor
  · intro read
    split at read
    · cases read
    next name named =>
    split at read
    -- a member that is not wanted is skipped, and every other one is stored
    · next unknown =>
      cases faulty : member.2.formFault? with
      | some fault =>
        rw [JsonTree.skip, faulty] at read
        cases read
      | none =>
        rw [JsonTree.skip, faulty] at read
        exact ⟨(seen, record), .pass named unknown faulty, read⟩
    · next field known =>
      split at read
      · cases read
      next fresh =>
      split at read
      · cases read
      · next next stored =>
        exact ⟨(name :: seen, next), .store named known (by simpa using fresh) stored, read⟩
  · rintro ⟨between, step, read⟩
    cases step with
    | pass named unknown sound =>
      simp only [named, unknown, JsonTree.skip, sound]
      exact read
    | store named known fresh stored =>
      simp only [named, known, List.contains_iff_mem, if_neg fresh, stored]
      exact read

/-- A record is read from an object that is closed if its members are taken and none that is
required is missing. -/
theorem read_object_eq_ok_iff {blank : σ} {fault : Option JsonFault} :
    shape.read blank (.object members fault) = .ok final ↔
      fault = none ∧ ∃ seen, shape.readMembers [] blank members = .ok (seen, final) ∧
        ∀ field ∈ shape, field.presence = .required → field.name ∈ seen := by
  unfold RecordShape.read
  simp only
  cases taken : shape.readMembers [] blank members with
  | error problem => simp
  | ok result =>
    cases fault with
    | some fault => simp
    | none =>
      obtain ⟨seen, record⟩ := result
      have complete :
          (shape.all fun field => field.presence != .required || seen.contains field.name) ↔
            ∀ field ∈ shape, field.presence = .required → field.name ∈ seen := by
        simp [← Decidable.imp_iff_not_or]
      simp only [complete, true_and, Except.ok.injEq, Prod.mk.injEq]
      by_cases present : ∀ field ∈ shape, field.presence = .required → field.name ∈ seen
      · rw [if_pos present, Except.ok.injEq]
        exact ⟨fun same => ⟨seen, ⟨rfl, same⟩, present⟩, fun ⟨_, ⟨_, same⟩, _⟩ => same⟩
      · rw [if_neg present]
        refine iff_of_false nofun ?_
        rintro ⟨_, ⟨rfl, _⟩, present'⟩
        exact present present'

theorem sound_of_readMembers (careful : shape.Careful)
    (read : shape.readMembers seen record members = .ok (seen', final)) :
    ∀ member ∈ members, member.1.fault = none ∧ member.2.formFault? = none := by
  induction members generalizing seen record with
  | nil => exact fun member mem => absurd mem List.not_mem_nil
  | cons member members ih =>
    obtain ⟨between, step, others⟩ := readMembers_cons_eq_ok_iff.mp read
    cases step with
    | pass named _ sound =>
      exact List.forall_mem_cons.mpr ⟨⟨StringToken.fault_of_read named, sound⟩, ih others⟩
    | @store _ field _ _ _ named known _ stored =>
      have sound := careful field (List.mem_of_find?_eq_some known) _ member.2 _ stored
      exact List.forall_mem_cons.mpr ⟨⟨StringToken.fault_of_read named, sound⟩, ih others⟩

theorem sound_of_readItems (careful : shape.Careful) {fault : Option JsonFault}
    {items : List JsonTree} (read : readItems record fault shape items = .ok final) :
    (∀ item ∈ items, item.formFault? = none) ∧ fault = none := by
  induction shape generalizing record items with
  | nil =>
    cases items with
    | nil =>
      cases fault with
      | none => exact ⟨fun item mem => absurd mem List.not_mem_nil, rfl⟩
      | some fault => cases read
    | cons item items => cases read
  | cons field shape ih =>
    have careful' := List.forall_mem_cons.mp careful
    cases items with
    | nil =>
      cases fault with
      | none => exact ⟨fun item mem => absurd mem List.not_mem_nil, rfl⟩
      | some fault => cases read
    | cons item items =>
      unfold readItems at read
      split at read
      · cases read
      · next stored =>
        obtain ⟨others, closed⟩ := ih careful'.2 read
        exact ⟨List.forall_mem_cons.mpr ⟨careful'.1 _ item _ stored, others⟩, closed⟩

theorem Careful.read (careful : shape.Careful) (blank : σ) :
    JsonTree.Careful (shape.read blank) := by
  intro tree final read
  cases tree with
  | object members fault =>
    obtain ⟨closed, seen, taken, -⟩ := read_object_eq_ok_iff.mp read
    exact JsonTree.formFault?_object.mpr ⟨sound_of_readMembers careful taken, closed⟩
  | array items fault => exact JsonTree.formFault?_array.mpr (sound_of_readItems careful read)
  | _ => cases read

end RecordShape

/-! ## Whole texts -/

namespace JsonText

variable {α : Type} {reader : JsonTree → Except JsonFault α} {text : String} {a : α}

/-- The scanner takes the texts of the grammar without a fault, and no others. -/
theorem spells_iff {tree : JsonTree} :
    Spells text.toList tree ↔ scan text = ⟨tree, false⟩ ∧ tree.formFault? = none := by
  constructor
  · intro spelled
    refine ⟨scan_of_spells spelled, ?_⟩
    generalize text.toList = cs at spelled
    cases spelled with
    | mk _ spelled _ => exact JsonTree.formFault?_of_spells spelled
  · rintro ⟨whole, sound⟩
    -- the scanner came to the end of a value, and behind that there are only blanks
    unfold scan at whole
    cases scanned : JsonTree.scan (2 * text.toList.length + 2) text.toList with
    | mk tree' behind =>
      simp only [scanned] at whole
      cases behind with
      | none =>
        cases whole
        exact absurd sound (JsonTree.formFault?_of_scan _ scanned)
      | some rest =>
        simp only [mk.injEq] at whole
        obtain ⟨rfl, done⟩ := whole
        obtain ⟨core, spelled, start⟩ := JsonTree.spells_of_scan _ scanned
        obtain ⟨before, blanks, front⟩ := JsonTree.exists_blanks text.toList
        obtain ⟨after, blanks', behind⟩ := JsonTree.exists_blanks rest
        have nothing : JsonTree.skipSpace rest = [] := by simpa using done
        rw [nothing, List.append_nil] at behind
        rw [front, start, behind]
        exact .mk blanks spelled blanks'

/-- So what is written for a value is a text of the grammar. -/
theorem spells_compact {value : Json} (spelled : value.Spelled) :
    Spells value.compact.toList (.ofJson value) :=
  spells_iff.mpr ⟨scan_writeAt false spelled, JsonTree.formFault?_ofJson value spelled⟩

/-- **What is read is JSON.** A careful reader reads the texts of the grammar, each as it reads the
tree of the text, and nothing else. -/
theorem readWith_eq_ok_iff (careful : JsonTree.Careful reader) :
    readWith reader text = .ok a ↔
      ∃ tree, Spells text.toList tree ∧ reader tree = .ok a := by
  constructor
  · intro read
    unfold readWith at read
    simp only at read
    split at read
    · cases read
    next found =>
    split at read
    · cases read
    next done =>
    cases read
    refine ⟨(scan text).tree, spells_iff.mpr ⟨?_, careful _ _ found⟩, found⟩
    rw [← Bool.eq_false_iff.mpr done]
  · rintro ⟨tree, spelled, found⟩
    rw [readWith_of_spells reader spelled, found]

end JsonText

end Polyglot
