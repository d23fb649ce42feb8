import Mathlib.Data.List.TakeWhile
import Polyglot.Json.Record
import Polyglot.Proofs.Json.RoundTrip

/-!
# Numerals

Which texts are numerals, and what they are read as. What stands behind a numeral makes no
difference to its token (`NumberToken.scan_append`), so that a text which the scanner takes as a
whole is one wherever it stands (`NumberToken.isNumeral_of_scanSigned`). The digits of a natural
number are such a text and are read back exactly below 64 bits (`JsonTree.natural_ofJson`).
-/

namespace Polyglot

namespace NumberToken

variable {token : NumberToken} {negative : Bool} {input rest left : List Char}

/-! ## What follows a numeral -/

theorem takeWhile_append_of_ends (ends : Ends rest) (input : List Char) :
    (input ++ rest).takeWhile Char.isDigit = input.takeWhile Char.isDigit := by
  have none : rest.takeWhile Char.isDigit = [] := by
    cases rest with
    | nil => rfl
    | cons c rest => rw [List.takeWhile_cons_of_neg (by simp [(ends c rfl).1])]
  rw [List.takeWhile_append]
  split
  · next all => rw [none, List.append_nil, (List.takeWhile_prefix _).eq_of_length all]
  · rfl

theorem dropWhile_append_of_ends (ends : Ends rest) (input : List Char) :
    (input ++ rest).dropWhile Char.isDigit = input.dropWhile Char.isDigit ++ rest := by
  have all : rest.dropWhile Char.isDigit = rest := by
    cases rest with
    | nil => rfl
    | cons c rest => rw [List.dropWhile_cons_of_neg (by simp [(ends c rfl).1])]
  rw [List.dropWhile_append]
  split
  · next none => rw [all, List.isEmpty_iff.mp none, List.nil_append]
  · rfl

/-- The sign of an exponent, and what follows it. -/
def exponentSign : List Char → Bool × List Char
  | '-' :: rest => (true, rest)
  | '+' :: rest => (false, rest)
  | rest => (false, rest)

theorem exponentSign_append (filled : input ≠ []) (rest : List Char) :
    exponentSign (input ++ rest) = ((exponentSign input).1, (exponentSign input).2 ++ rest) := by
  cases input with
  | nil => exact absurd rfl filled
  | cons c input =>
    rw [List.cons_append]
    unfold exponentSign
    split <;> simp_all

/-- The exponent of a numeral from behind its sign. -/
def withExponent (token : NumberToken) (exponentNegative : Bool) (input : List Char) :
    NumberToken × Option (List Char) :=
  let digits := input.takeWhile Char.isDigit
  let rest := input.dropWhile Char.isDigit
  if digits.isEmpty then ({ token with fault := some (missing rest) }, none)
  else ({ token with isFraction := true, exponentNegative, exponent := digits }, some rest)

theorem scanExponent_cons {e : Char} (mark : ¬ (e ≠ 'e' ∧ e ≠ 'E')) (input : List Char) :
    scanExponent token (e :: input) =
      withExponent token (exponentSign input).1 (exponentSign input).2 := by
  unfold scanExponent
  simp only [if_neg mark]
  split
  · rfl
  · rfl
  · next minus plus =>
    have unsigned : exponentSign input = (false, input) := by
      rw [exponentSign]
      · exact minus
      · exact plus
    rw [unsigned]
    rfl

theorem withExponent_append (ends : Ends rest)
    (scanned : (withExponent token negative input).2 = some left) :
    withExponent token negative (input ++ rest) =
      ((withExponent token negative input).1, some (left ++ rest)) := by
  unfold withExponent at scanned ⊢
  simp only [takeWhile_append_of_ends ends, dropWhile_append_of_ends ends] at scanned ⊢
  split at scanned
  · cases scanned
  · next digits =>
    rw [if_neg digits, if_neg digits]
    cases scanned
    rfl

/-- An exponent ends before what cannot continue it. -/
theorem scanExponent_append (ends : Ends rest)
    (scanned : (scanExponent token input).2 = some left) :
    scanExponent token (input ++ rest) = ((scanExponent token input).1, some (left ++ rest)) := by
  cases input with
  | nil =>
    -- there is no exponent, and what follows does not begin one
    cases scanned
    cases rest with
    | nil => rfl
    | cons c rest =>
      obtain ⟨-, -, small, capital⟩ := ends c rfl
      simp [scanExponent, small, capital]
  | cons e input =>
    rw [List.cons_append]
    by_cases other : e ≠ 'e' ∧ e ≠ 'E'
    · unfold scanExponent at scanned ⊢
      simp only [if_pos other] at scanned ⊢
      cases scanned
      rfl
    · rw [scanExponent_cons other] at scanned
      rw [scanExponent_cons other, scanExponent_cons other]
      -- a mark with nothing behind it is at fault, so the sign is looked for in the numeral itself
      have filled : input ≠ [] := by
        rintro rfl
        cases scanned
      rw [exponentSign_append filled]
      exact withExponent_append ends scanned

/-- A numeral from behind its whole digits. -/
def withWhole (token : NumberToken) : List Char → NumberToken × Option (List Char)
  | '.' :: rest =>
    let digits := rest.takeWhile Char.isDigit
    let rest := rest.dropWhile Char.isDigit
    if digits.isEmpty then ({ token with fault := some (missing rest) }, none)
    else scanExponent { token with isFraction := true, fraction := digits } rest
  | rest => scanExponent token rest

theorem scan_eq (negative : Bool) (input : List Char) :
    scan negative input =
      let whole := input.takeWhile Char.isDigit
      let rest := input.dropWhile Char.isDigit
      if whole.isEmpty then ({ negative, whole, fault := some (missing rest) }, none)
      else if whole.head? = some '0' && whole.length ≠ 1 then
        ({ negative, whole, fault := some .malformed }, none)
      else withWhole { negative, whole } rest := by
  unfold scan
  simp only
  split
  · rfl
  · split
    · rfl
    · split
      · next rest behind => simp only [behind, withWhole]
      · next noPoint => rw [withWhole]; exact noPoint

theorem withWhole_append (ends : Ends rest) (scanned : (withWhole token input).2 = some left) :
    withWhole token (input ++ rest) = ((withWhole token input).1, some (left ++ rest)) := by
  by_cases point : ∃ more, input = '.' :: more
  · obtain ⟨more, rfl⟩ := point
    rw [List.cons_append]
    simp only [withWhole, takeWhile_append_of_ends ends, dropWhile_append_of_ends ends]
      at scanned ⊢
    split at scanned
    · cases scanned
    · next digits =>
      rw [if_neg digits, if_neg digits]
      exact scanExponent_append ends scanned
  · have whole (cs : List Char) (other : ¬ ∃ more, cs = '.' :: more) :
        withWhole token cs = scanExponent token cs := by
      rw [withWhole]
      exact fun more same => other ⟨more, same⟩
    -- nor is there a point in what follows, which cannot continue a numeral
    have behind : ¬ ∃ more, input ++ rest = '.' :: more := by
      rintro ⟨more, same⟩
      cases input with
      | nil => exact (ends '.' (by rw [← List.nil_append rest, same]; rfl)).2.1 rfl
      | cons c input =>
        cases same
        exact point ⟨_, rfl⟩
    rw [whole input point] at scanned
    rw [whole input point, whole _ behind]
    exact scanExponent_append ends scanned

/-- A numeral ends before what cannot continue it. -/
theorem scan_append (ends : Ends rest) (scanned : (scan negative input).2 = some left) :
    scan negative (input ++ rest) = ((scan negative input).1, some (left ++ rest)) := by
  rw [scan_eq] at scanned
  rw [scan_eq, scan_eq]
  simp only [takeWhile_append_of_ends ends, dropWhile_append_of_ends ends] at scanned ⊢
  split at scanned
  · cases scanned
  · next filled =>
    rw [if_neg filled, if_neg filled]
    split at scanned
    · cases scanned
    · next plain =>
      rw [if_neg plain, if_neg plain]
      exact withWhole_append ends scanned

/-! ## Tokens and faults -/

/-- A token is sound if and only if there is a rest. -/
theorem fault_scanExponent (sound : token.fault = none) (input : List Char) :
    (scanExponent token input).1.fault = none ↔ (scanExponent token input).2.isSome := by
  cases input with
  | nil => simp [scanExponent, sound]
  | cons e input =>
    by_cases other : e ≠ 'e' ∧ e ≠ 'E'
    · simp [scanExponent, other, sound]
    · rw [scanExponent_cons other, withExponent]
      split <;> simp [sound]

theorem fault_scan (negative : Bool) (input : List Char) :
    (scan negative input).1.fault = none ↔ (scan negative input).2.isSome := by
  rw [scan_eq]
  simp only
  split
  · simp
  · split
    · simp
    · unfold withWhole
      split
      · simp only
        split
        · simp
        · exact fault_scanExponent rfl _
      · exact fault_scanExponent rfl _

/-- What is left stands at the end of what there was. -/
theorem scanExponent_suffix (scanned : (scanExponent token input).2 = some left) :
    left <:+ input := by
  cases input with
  | nil =>
    cases scanned
    exact List.suffix_rfl
  | cons e input =>
    by_cases other : e ≠ 'e' ∧ e ≠ 'E'
    · unfold scanExponent at scanned
      simp only [if_pos other] at scanned
      cases scanned
      exact List.suffix_rfl
    · rw [scanExponent_cons other, withExponent] at scanned
      have behindSign : (exponentSign input).2 <:+ input := by
        unfold exponentSign
        split
        · exact List.suffix_cons _ _
        · exact List.suffix_cons _ _
        · exact List.suffix_rfl
      split at scanned
      · cases scanned
      · cases scanned
        exact ((List.dropWhile_suffix _).trans behindSign).trans (List.suffix_cons e input)

theorem scan_suffix (scanned : (scan negative input).2 = some left) : left <:+ input := by
  rw [scan_eq] at scanned
  simp only at scanned
  have behind := List.dropWhile_suffix Char.isDigit (l := input)
  split at scanned
  · cases scanned
  · split at scanned
    · cases scanned
    · unfold withWhole at scanned
      split at scanned
      · next rest point =>
        simp only at scanned
        split at scanned
        · cases scanned
        · rw [point] at behind
          exact (((scanExponent_suffix scanned).trans (List.dropWhile_suffix _)).trans
            (List.suffix_cons '.' rest)).trans behind
      · exact (scanExponent_suffix scanned).trans behind

/-! ## Signs -/

theorem scanSigned_of_unsigned (unsigned : ∀ rest, input ≠ '-' :: rest) :
    scanSigned input = scan false input := by
  rw [scanSigned]
  exact unsigned

/-- A sign makes no difference to soundness and to what is left. -/
theorem scanSigned_spec (input : List Char) :
    ((scanSigned input).1.fault = none ↔ (scanSigned input).2.isSome) ∧
      ∀ left, (scanSigned input).2 = some left → left <:+ input := by
  by_cases sign : ∃ rest, input = '-' :: rest
  · obtain ⟨rest, rfl⟩ := sign
    refine ⟨fault_scan true rest, fun left scanned => ?_⟩
    have scanned : (scan true rest).2 = some left := scanned
    have behind : left <:+ rest := scan_suffix scanned
    exact behind.trans (List.suffix_cons '-' rest)
  · rw [scanSigned_of_unsigned fun rest same => sign ⟨rest, same⟩]
    exact ⟨fault_scan false input, fun left scanned => scan_suffix scanned⟩

/-- A token with a value has no fault. -/
theorem fault_of_read {number : JsonNumber} (read : token.read = .ok number) :
    token.fault = none := by
  unfold NumberToken.read at read
  split at read
  · cases read
  · assumption

/-- A text is a numeral if the scanner takes all of it. -/
theorem isNumeral_of_scanSigned (begins : ∃ c cs, input = c :: cs ∧ (c = '-' ∨ c.isDigit))
    (scanned : (scanSigned input).2 = some []) : IsNumeral input := by
  refine ⟨begins, fun rest ends => ?_⟩
  obtain ⟨c, cs, rfl, -⟩ := begins
  by_cases sign : c = '-'
  · rw [sign] at scanned ⊢
    exact scan_append ends scanned
  · have unsigned (more : List Char) : scanSigned (c :: more) = scan false (c :: more) :=
      scanSigned_of_unsigned fun _ same => sign (List.head_eq_of_cons_eq same)
    rw [unsigned] at scanned
    rw [ofText, List.cons_append, unsigned, unsigned]
    exact scan_append ends scanned

/-! ## Natural numbers -/

/-- Numerals have no leading zeros. -/
theorem eq_zero_of_head?_toDigits {n : Nat} (zero : (Nat.toDigits 10 n).head? = some '0') :
    n = 0 := by
  induction n using Nat.strongRecOn with
  | _ n ih =>
    rw [Nat.toDigits_eq_if (by decide)] at zero
    split at zero
    · next small =>
      rw [List.head?_cons, Option.some.injEq] at zero
      clear ih
      revert n
      decide
    · next large =>
      -- the first digit is that of the tenth part
      rw [List.head?_append, List.head?_eq_some_head Nat.toDigits_ne_nil, Option.some_or,
        ← List.head?_eq_some_head] at zero
      have tenth := ih (n / 10) (by omega) zero
      omega

/-- The digits of a natural number are taken as they are. -/
theorem scanSigned_toDigits (n : Nat) :
    scanSigned (Nat.toDigits 10 n) =
      ({ negative := false, whole := Nat.toDigits 10 n }, some []) := by
  have digits : ∀ c ∈ Nat.toDigits 10 n, c.isDigit :=
    fun c mem => Nat.isDigit_of_mem_toDigits (by decide) (by decide) mem
  have unsigned : scanSigned (Nat.toDigits 10 n) = scan false (Nat.toDigits 10 n) := by
    refine scanSigned_of_unsigned fun rest sign => ?_
    exact absurd (digits '-' (by rw [sign]; exact List.mem_cons_self)) (by decide)
  have filled : (Nat.toDigits 10 n).isEmpty = false := by
    rw [List.isEmpty_eq_false_iff]
    exact Nat.toDigits_ne_nil
  have plain :
      ((Nat.toDigits 10 n).head? = some '0' && (Nat.toDigits 10 n).length ≠ 1) = false := by
    rw [Bool.and_eq_false_iff, decide_eq_false_iff_not, decide_eq_false_iff_not, not_not]
    by_cases zero : (Nat.toDigits 10 n).head? = some '0'
    · rw [eq_zero_of_head?_toDigits zero]
      exact .inr rfl
    · exact .inl zero
  rw [unsigned, scan_eq, List.takeWhile_eq_self_iff.mpr digits,
    List.dropWhile_eq_nil_iff.mpr digits]
  simp only [filled, plain]
  rfl

/-- A significand only grows. -/
theorem le_ofDigitChars (cs : List Char) (start : Nat) : start ≤ Nat.ofDigitChars 10 cs start := by
  rw [Nat.ofDigitChars_eq_ofDigitChars_zero]
  have power : 0 < 10 ^ cs.length := Nat.pow_pos (by decide)
  calc start = 1 * start := (Nat.one_mul start).symm
    _ ≤ 10 ^ cs.length * start := Nat.mul_le_mul_right start power
    _ ≤ _ := Nat.le_add_right _ _

/-- All digits are taken if their value fits 64 bits. -/
theorem accumulate_eq {start : Nat} {cs : List Char}
    (fits : Nat.ofDigitChars 10 cs start < 0x10000000000000000) :
    accumulate start cs = (Nat.ofDigitChars 10 cs start, []) := by
  induction cs generalizing start with
  | nil => rfl
  | cons c cs ih =>
    rw [Nat.ofDigitChars_cons, show '0'.toNat = 48 from rfl] at fits ⊢
    have small := Nat.lt_of_le_of_lt (le_ofDigitChars cs _) fits
    rw [accumulate, if_pos small]
    exact ih fits

/-- The digits of a natural number are read back if it fits 64 bits. -/
theorem read_toDigits {n : Nat} (fits : n < 0x10000000000000000) :
    (ofText (Nat.toDigits 10 n)).read = .ok (.whole n) := by
  have all : accumulate 0 (Nat.toDigits 10 n) = (n, []) := by
    have value : Nat.ofDigitChars 10 (Nat.toDigits 10 n) 0 = n := Nat.ofDigitChars_ten_toDigits
    rw [accumulate_eq (by rwa [value]), value]
  rw [ofText, scanSigned_toDigits, NumberToken.read]
  simp only [all]
  rfl

/-- A natural number is written as a numeral. -/
theorem isNumeral_natural (n : Nat) : IsNumeral (toString (n : Int)).toList := by
  have digits : (toString (n : Int)).toList = Nat.toDigits 10 n := Nat.toList_repr
  rw [digits]
  refine isNumeral_of_scanSigned ?_ (by rw [scanSigned_toDigits])
  obtain ⟨c, cs, text⟩ := List.exists_cons_of_ne_nil (Nat.toDigits_ne_nil (b := 10) (n := n))
  refine ⟨c, cs, text, .inr ?_⟩
  exact Nat.isDigit_of_mem_toDigits (by decide) (by decide) (text ▸ List.mem_cons_self)

end NumberToken

namespace JsonTree

/-- A natural number is read back if it is below the bound and fits 64 bits. -/
theorem natural_ofJson {bound n : Nat} (below : n < bound) (fits : bound ≤ 0x10000000000000000) :
    (ofJson (.integer n)).natural bound = .ok n := by
  have digits : (toString (n : Int)).toList = Nat.toDigits 10 n := Nat.toList_repr
  rw [ofJson, digits, natural]
  simp only [NumberToken.read_toDigits (Nat.lt_of_lt_of_le below fits)]
  rw [if_pos]
  · rfl
  · simpa using below

end JsonTree

end Polyglot
