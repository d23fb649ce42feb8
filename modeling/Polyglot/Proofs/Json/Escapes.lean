import Polyglot.Json.Tree
import Polyglot.Json.Writer

/-!
# Texts as JSON strings

Any text that is written as a JSON string is scanned up to its closing quote
(`scan_escaped`) and read back as it was (`read_ofText`). Both go character by character, by what
`escapeChar` writes for each.
-/

namespace Polyglot

namespace Json

/-- The characters that are written as they are. -/
theorem escapeChar_of_plain {c : Char} (quote : c ≠ '"') (backslash : c ≠ '\\')
    (printable : 0x20 ≤ c.toNat) : escapeChar c = [c] := by
  have control {d : Char} (low : d.toNat < 0x20) : c ≠ d := by
    rintro rfl
    omega
  have short : ¬ c.toNat < 0x20 := by omega
  simp [escapeChar, quote, backslash, short, control (d := '\x08') (by decide),
    control (d := '\x0c') (by decide), control (d := '\n') (by decide),
    control (d := '\r') (by decide), control (d := '\t') (by decide)]

/-- Every character is written in one of three ways. -/
theorem escapeChar_cases (c : Char) :
    (∃ letter, escapeChar c = ['\\', letter] ∧ StringToken.shortEscape? letter = some c ∧
        letter ≠ 'u') ∨
      (c.toNat < 0x20 ∧ escapeChar c =
        ['\\', 'u', '0', '0', Text.hexDigit (c.toNat / 16), Text.hexDigit (c.toNat % 16)]) ∨
      (escapeChar c = [c] ∧ c ≠ '"' ∧ c ≠ '\\' ∧ 0x20 ≤ c.toNat) := by
  by_cases quote : c = '"'
  · exact .inl ⟨'"', by rw [quote]; rfl, by rw [quote]; rfl, by decide⟩
  by_cases backslash : c = '\\'
  · exact .inl ⟨'\\', by rw [backslash]; rfl, by rw [backslash]; rfl, by decide⟩
  by_cases printable : 0x20 ≤ c.toNat
  · exact .inr (.inr ⟨escapeChar_of_plain quote backslash printable, quote, backslash, printable⟩)
  have low : c.toNat < 0x20 := Nat.lt_of_not_le printable
  by_cases backspace : c = '\x08'
  · exact .inl ⟨'b', by rw [backspace]; rfl, by rw [backspace]; rfl, by decide⟩
  by_cases formFeed : c = '\x0c'
  · exact .inl ⟨'f', by rw [formFeed]; rfl, by rw [formFeed]; rfl, by decide⟩
  by_cases newline : c = '\n'
  · exact .inl ⟨'n', by rw [newline]; rfl, by rw [newline]; rfl, by decide⟩
  by_cases carriage : c = '\r'
  · exact .inl ⟨'r', by rw [carriage]; rfl, by rw [carriage]; rfl, by decide⟩
  by_cases tab : c = '\t'
  · exact .inl ⟨'t', by rw [tab]; rfl, by rw [tab]; rfl, by decide⟩
  refine .inr (.inl ⟨low, ?_⟩)
  simp [escapeChar, quote, backslash, backspace, formFeed, newline, carriage, tab, low]

/-- What is written for a text stays on one line. -/
theorem lineFeed_not_mem_escaped (cs : List Char) : '\n' ∉ cs.flatMap escapeChar := by
  have digit (n : Nat) (small : n < 16) : '\n' ≠ Text.hexDigit n := by
    revert n
    decide
  rw [List.mem_flatMap]
  rintro ⟨c, -, mem⟩
  obtain ⟨letter, written, known, -⟩ | ⟨low, written⟩ | ⟨written, -, -, printable⟩ :=
    escapeChar_cases c
  · rw [written] at mem
    simp only [List.mem_cons, List.not_mem_nil, or_false] at mem
    obtain absurdity | rfl := mem
    · exact absurd absurdity (by decide)
    · cases known
  · rw [written] at mem
    simp [digit (c.toNat / 16) (by omega), digit (c.toNat % 16) (by omega)] at mem
  · rw [written, List.mem_singleton] at mem
    rw [← mem] at printable
    exact absurd printable (by decide)

end Json

namespace StringToken

variable {c letter : Char} {rest : List Char}

/-! ## One character -/

theorem hexValue?_hexDigit {n : Nat} (small : n < 16) : hexValue? (Text.hexDigit n) = some n := by
  revert n
  decide

/-- The numeric escape of a control character. -/
theorem unit?_hexDigits (low : c.toNat < 0x20) :
    unit? '0' '0' (Text.hexDigit (c.toNat / 16)) (Text.hexDigit (c.toNat % 16)) =
      some c.toNat := by
  have zero : hexValue? '0' = some 0 := rfl
  have value : c.toNat / 16 * 16 + c.toNat % 16 = c.toNat := by omega
  simp [unit?, zero, hexValue?_hexDigit (n := c.toNat / 16) (by omega),
    hexValue?_hexDigit (n := c.toNat % 16) (by omega), value]

/-- The scanner takes whatever is written for a character. -/
theorem scan_escapeChar (taken : List Char) (c : Char) (rest : List Char) :
    scan taken (Json.escapeChar c ++ rest) = scan ((Json.escapeChar c).reverse ++ taken) rest := by
  obtain ⟨letter, written, known, other⟩ | ⟨low, written⟩ |
    ⟨written, quote, backslash, printable⟩ := Json.escapeChar_cases c
  · rw [written]
    simp [scan, known, other]
  · rw [written]
    simp [scan, unit?_hexDigits low]
  · rw [written]
    simp [scan, backslash, Nat.not_lt.mpr printable]

/-- What is written for a character stands for this character. -/
theorem resolve_escapeChar (ending : JsonFault) (c : Char) (rest : List Char) :
    resolve ending (Json.escapeChar c ++ rest) = (resolve ending rest).map (c :: ·) := by
  obtain ⟨letter, written, known, other⟩ | ⟨low, written⟩ |
    ⟨written, quote, backslash, printable⟩ := Json.escapeChar_cases c
  · rw [written]
    simp [resolve, known, other]
  · have lone : c.toNat < 0xD800 := by omega
    rw [written]
    conv => lhs; unfold resolve
    simp [unit?_hexDigits low, lone]
  · rw [written]
    simp [resolve, backslash]

/-! ## Texts -/

/-- The token of a text that has been written as a string. -/
def ofText (text : String) : StringToken :=
  ⟨text.toList.flatMap Json.escapeChar, none⟩

theorem scan_escaped (taken cs rest : List Char) :
    scan taken (cs.flatMap Json.escapeChar ++ '"' :: rest) =
      (⟨taken.reverse ++ cs.flatMap Json.escapeChar, none⟩, some rest) := by
  induction cs generalizing taken with
  | nil => simp [scan]
  | cons c cs ih =>
    rw [List.flatMap_cons, List.append_assoc, scan_escapeChar, ih, List.reverse_append,
      List.reverse_reverse, List.append_assoc]

/-- The scanner stops at the quote that closes a written text. -/
theorem scan_writeString (text : String) (rest : List Char) :
    Json.writeString text ++ rest =
        '"' :: (text.toList.flatMap Json.escapeChar ++ '"' :: rest) ∧
      scan [] (text.toList.flatMap Json.escapeChar ++ '"' :: rest) = (ofText text, some rest) := by
  refine ⟨?_, scan_escaped [] text.toList rest⟩
  simp [Json.writeString]

theorem resolve_escaped (ending : JsonFault) (cs : List Char) :
    resolve ending (cs.flatMap Json.escapeChar) = .ok cs := by
  induction cs with
  | nil => simp [resolve]
  | cons c cs ih =>
    rw [List.flatMap_cons, resolve_escapeChar, ih]
    rfl

/-- A written text is read back. -/
@[simp] theorem read_ofText (text : String) : (ofText text).read = .ok text := by
  unfold read ofText
  simp only [resolve_escaped, String.ofList_toList]

end StringToken

end Polyglot
