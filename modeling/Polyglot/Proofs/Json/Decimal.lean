import Polyglot.Proofs.Json.Grammar
import Polyglot.Proofs.Number.Magnitude

/-!
# Written numbers

The decimals that are written are numerals of the grammar, with a point or an exponent and without
leading zeros (`Decimal.spells_layOut`). A numeral that is not too long has a value
(`NumberToken.exists_read`), and so has what is written for every number of single precision
(**`Single.exists_value`**).
-/

namespace Polyglot

namespace NumberToken

variable {token : NumberToken} {start : Nat} {q : Rat}

/-! ## Numerals with values -/

/-- A sound numeral that is not long. -/
structure Brief (token : NumberToken) : Prop where
  sound : token.fault = none
  digits : token.whole.length + token.fraction.length ≤ 40
  scaled : digitsValue token.exponent ≤ 100

/-- Digits are taken as long as they fit 64 bits. -/
theorem accumulate_lt (fits : start < 2 ^ 64) (cs : List Char) :
    (accumulate start cs).1 < 2 ^ 64 ∧ (accumulate start cs).2.length ≤ cs.length := by
  induction cs generalizing start with
  | nil => exact ⟨fits, le_rfl⟩
  | cons c cs ih =>
    rw [accumulate]
    split
    · next wider =>
      obtain ⟨fits', fewer⟩ := ih wider
      exact ⟨fits', fewer.trans (Nat.le_succ _)⟩
    · exact ⟨fits, le_rfl⟩

theorem least_double : FloatFormat.power FloatFormat.double.least ≤ 1 / 4 := by
  have quarter : FloatFormat.power (-2) = 1 / 4 := by
    rw [FloatFormat.power_eq_zpow]
    norm_num
  rw [← quarter]
  exact FloatFormat.power_mono (by decide)

theorem top_double :
    (10 : Rat) ^ 200 + 10 ^ 200 + 1 < FloatFormat.power FloatFormat.double.top := by
  have sixteen : ((2 : Rat) ^ 4) ^ 201 = 2 ^ 804 := (pow_mul 2 4 201).symm
  calc (10 : Rat) ^ 200 + 10 ^ 200 + 1 < (2 ^ 4) ^ 201 := by norm_num
    _ = 2 ^ 804 := sixteen
    _ < 2 ^ 1024 := pow_lt_pow_right₀ (by norm_num) (by decide)
    _ = FloatFormat.power FloatFormat.double.top := by
      rw [FloatFormat.power_eq_zpow]
      exact (zpow_natCast 2 1024).symm

/-- What is below a large bound does not overflow. -/
theorem exists_round (small : q ≤ 10 ^ 200) :
    ∃ value, FloatFormat.double.round q = some value := by
  have least := least_double
  have top := top_double
  refine FloatFormat.exists_round (by decide) ?_
  rcases max_choice (FloatFormat.power FloatFormat.double.least) (q / 2) with same | same
  · rw [same]
    linarith
  · rw [same]
    linarith

theorem powerOfTen_near {n : Nat} (small : n ≤ 150) :
    1 ≤ 2 * powerOfTen n ∧ powerOfTen n ≤ 2 * 10 ^ 150 := by
  have one : (1 : Rat) ≤ 10 ^ n := one_le_pow₀ (by norm_num)
  have most : (10 : Rat) ^ n ≤ 10 ^ 150 := pow_le_pow_right₀ (by norm_num) small
  have pow : ((Nat.pow 10 n : Nat) : Rat) = 10 ^ n := by norm_cast
  obtain ⟨value, rounded⟩ : ∃ value, FloatFormat.double.round (10 ^ n) = some value :=
    exists_round (most.trans (by norm_num))
  have normal : 2 * FloatFormat.power FloatFormat.double.least ≤ 10 ^ n := by
    have least := least_double
    linarith
  obtain ⟨low, high⟩ := FloatFormat.near_of_round (by decide) normal rounded
  rw [powerOfTen, pow, rounded, Option.getD_some]
  constructor <;> linarith

theorem round_natural {n : Nat} (fits : n < 2 ^ 64) :
    (FloatFormat.double.round (n : Rat)).getD 0 ≤ 2 ^ 65 := by
  cases rounded : FloatFormat.double.round (n : Rat) with
  | none => norm_num
  | some value =>
    rw [Option.getD_some]
    by_cases zero : n = 0
    · rw [zero] at rounded
      cases rounded
      norm_num
    · have one : (1 : Rat) ≤ n := by exact_mod_cast Nat.one_le_iff_ne_zero.mpr zero
      have fits' : (n : Rat) < 2 ^ 64 := by exact_mod_cast fits
      have least := least_double
      obtain ⟨-, high⟩ := FloatFormat.near_of_round (by decide) (by linarith) rounded
      linarith

/-- A number of 64 bits can be scaled by that many places. -/
theorem exists_scale (small : q ≤ 2 ^ 65) {exponent : Int}
    (near : exponent.natAbs ≤ 150) : ∃ value, scale 6 q exponent = .ok value := by
  obtain ⟨low, high⟩ := powerOfTen_near near
  have positive : 0 ≤ powerOfTen exponent.natAbs := by linarith
  rw [scale, if_pos (by omega)]
  simp only
  have bounded : (if 0 ≤ exponent then q * powerOfTen exponent.natAbs
      else q / powerOfTen exponent.natAbs) ≤ 10 ^ 200 := by
    split
    · calc q * powerOfTen exponent.natAbs ≤ 2 ^ 65 * (2 * 10 ^ 150) := by gcongr
        _ ≤ 10 ^ 200 := by norm_num
    · calc q / powerOfTen exponent.natAbs ≤ 2 ^ 65 / (1 / 2) := by
            gcongr
            linarith
        _ ≤ 10 ^ 200 := by norm_num
  obtain ⟨value, rounded⟩ := exists_round bounded
  exact ⟨value, by rw [rounded]⟩

/-- Numerals that are not long have values. -/
theorem exists_read (brief : token.Brief) : ∃ number, token.read = .ok number := by
  obtain ⟨value, found⟩ : ∃ value, token.magnitude = .ok value := by
    obtain ⟨fits, fewer⟩ := accumulate_lt (show 0 < 2 ^ 64 by decide) token.whole
    obtain ⟨fits', fewer'⟩ := accumulate_lt fits token.fraction
    have digits := brief.digits
    have scaled := brief.scaled
    rw [magnitude]
    simp only
    rw [if_neg (by omega)]
    refine exists_scale (round_natural fits') ?_
    split <;> omega
  unfold NumberToken.read
  rw [brief.sound, found]
  simp only
  split
  · exact ⟨_, rfl⟩
  · split
    · exact ⟨_, rfl⟩
    · split <;> exact ⟨_, rfl⟩

end NumberToken

namespace Decimal

open NumberToken (IsDigits SpellsUnsigned SpellsFraction SpellsExponent)

variable {d : Decimal} {negative : Bool}

/-! ## Layout -/

theorem isDigits_toDigits (n : Nat) : IsDigits (Nat.toDigits 10 n) where
  filled := Nat.toDigits_ne_nil
  all := fun _ mem => Nat.isDigit_of_mem_toDigits (by decide) (by decide) mem

theorem digitsValue_toDigits (n : Nat) : NumberToken.digitsValue (Nat.toDigits 10 n) = n :=
  Nat.ofDigitChars_ten_toDigits

/-- The digits of a number that is not zero do not begin with a zero. -/
theorem leading (filled : d.digits ≠ 0) : d.text.head? ≠ some '0' :=
  fun zero => filled (NumberToken.eq_zero_of_head?_toDigits zero)

theorem isDigits_append {front back : List Char} (is : IsDigits front)
    (all : ∀ c ∈ back, c.isDigit) : IsDigits (front ++ back) where
  filled := by simp [is.filled]
  all := by
    rw [List.forall_mem_append]
    exact ⟨is.all, all⟩

theorem zeros_digits (n : Nat) : ∀ c ∈ List.replicate n '0', c.isDigit := by
  intro c mem
  rw [List.eq_of_mem_replicate mem]
  rfl

theorem spells_point {text whole fraction : List Char} {n : Nat}
    (shape : text = whole ++ '.' :: fraction) (is : IsDigits whole)
    (leading : whole.head? = some '0' → whole.length = 1) (is' : IsDigits fraction)
    (short : whole.length + fraction.length ≤ n) :
    ∃ token, SpellsUnsigned negative text token ∧ token.fault = none ∧
      token.whole.length + token.fraction.length ≤ n ∧
      NumberToken.digitsValue token.exponent = 0 := by
  have spelled := @SpellsUnsigned.parts negative _ _ _ _ _ _ is leading (.point is') .none
  rw [List.append_nil, ← shape] at spelled
  exact ⟨_, spelled, rfl, short, rfl⟩

theorem spells_positional (filled : d.digits ≠ 0)
    (low : -6 ≤ d.exponent + d.text.length - 1) (high : d.exponent + d.text.length - 1 ≤ 12) :
    ∃ token, SpellsUnsigned negative (d.positional .json) token ∧ token.fault = none ∧
      token.whole.length + token.fraction.length ≤ d.text.length + 13 ∧
      NumberToken.digitsValue token.exponent = 0 := by
  have is : IsDigits d.text := isDigits_toDigits d.digits
  have zero : IsDigits ['0'] := isDigits_toDigits 0
  have long : 0 < d.text.length := List.length_pos_of_ne_nil is.filled
  unfold positional
  simp only
  generalize places : (-d.exponent).toNat = n
  split
  · next natural =>
    have whole : IsDigits (d.text ++ List.replicate d.exponent.toNat '0') :=
      isDigits_append is (zeros_digits _)
    have begins : (d.text ++ List.replicate d.exponent.toNat '0').head? ≠ some '0' := by
      rw [List.head?_append_of_ne_nil _ is.filled]
      exact leading filled
    refine spells_point rfl whole (absurd · begins) zero ?_
    rw [List.length_append, List.length_replicate, List.length_singleton]
    omega
  · split
    · -- all digits stand behind the point
      have fraction : IsDigits (List.replicate (n - d.text.length) '0' ++ d.text) := by
        refine ⟨by simp [is.filled], ?_⟩
        rw [List.forall_mem_append]
        exact ⟨zeros_digits _, is.all⟩
      refine spells_point (by simp) zero (fun _ => rfl) fraction ?_
      rw [List.length_append, List.length_replicate, List.length_singleton]
      omega
    · -- the point stands among the digits
      have whole : IsDigits (d.text.take (d.text.length - n)) := by
        refine ⟨?_, fun c mem => is.all c (List.mem_of_mem_take mem)⟩
        rw [Ne, List.take_eq_nil_iff, not_or]
        exact ⟨by omega, is.filled⟩
      have fraction : IsDigits (d.text.drop (d.text.length - n)) := by
        refine ⟨?_, fun c mem => is.all c (List.mem_of_mem_drop mem)⟩
        rw [Ne, List.drop_eq_nil_iff]
        omega
      have begins : (d.text.take (d.text.length - n)).head? ≠ some '0' := by
        rw [List.head?_take, if_neg (by omega)]
        exact leading filled
      refine spells_point (by simp) whole (absurd · begins) fraction ?_
      rw [List.length_take, List.length_drop]
      omega

theorem spells_scientific (d : Decimal) (negative : Bool) :
    ∃ token, SpellsUnsigned negative (d.scientific .json) token ∧ token.fault = none ∧
      token.whole.length + token.fraction.length = d.text.length ∧
      NumberToken.digitsValue token.exponent = (d.exponent + d.text.length - 1).natAbs := by
  have is : IsDigits d.text := isDigits_toDigits d.digits
  unfold scientific
  simp only
  generalize d.exponent + d.text.length - 1 = exponent
  have scaled : SpellsExponent
      ('e' :: (if exponent < 0 then ['-'] else ['+']) ++ Nat.toDigits 10 exponent.natAbs)
      (decide (exponent < 0)) (Nat.toDigits 10 exponent.natAbs) := by
    by_cases below : exponent < 0
    · simp only [below]
      exact .negative (by decide) (isDigits_toDigits _)
    · simp only [below]
      exact .positive (by decide) (isDigits_toDigits _)
  -- one digit stands in front of the point, which is there if there are others
  split
  · next nothing => exact absurd nothing is.filled
  · next first single =>
    rw [single] at is ⊢
    have spelled := @SpellsUnsigned.parts negative _ _ _ _ _ _ is (fun _ => rfl) .none scaled
    rw [List.append_assoc]
    exact ⟨_, spelled, rfl, rfl, digitsValue_toDigits exponent.natAbs⟩
  · next first rest other several =>
    rw [several] at is ⊢
    have whole : IsDigits [first] :=
      ⟨List.cons_ne_nil _ _, fun c mem => is.all c (List.mem_singleton.mp mem ▸ List.mem_cons_self)⟩
    have fraction : IsDigits rest :=
      ⟨other, fun c mem => is.all c (List.mem_cons_of_mem _ mem)⟩
    have spelled := @SpellsUnsigned.parts negative _ _ _ _ _ _ whole (fun _ => rfl)
      (.point fraction) scaled
    rw [List.append_assoc]
    exact ⟨_, spelled, rfl, Nat.add_comm 1 rest.length, digitsValue_toDigits exponent.natAbs⟩

/-- What is laid out for digits that are not zero is a numeral, and not much longer than they
are. -/
theorem spells_layOut (filled : d.digits ≠ 0) :
    ∃ token, SpellsUnsigned negative (d.layOut .json) token ∧ token.fault = none ∧
      token.whole.length + token.fraction.length ≤ d.text.length + 13 ∧
      NumberToken.digitsValue token.exponent ≤ (d.exponent + d.text.length - 1).natAbs := by
  unfold layOut
  split
  · next within =>
    simp only [DecimalStyle.json, Bool.and_eq_true, decide_eq_true_eq] at within
    obtain ⟨token, spelled, sound, short, unscaled⟩ := spells_positional filled within.1 within.2
    exact ⟨token, spelled, sound, short, by omega⟩
  · obtain ⟨token, spelled, sound, short, scaled⟩ := spells_scientific d negative
    exact ⟨token, spelled, sound, by omega, by omega⟩

end Decimal

/-! ## Numbers of single precision -/

namespace DecimalStyle

open NumberToken (SpellsUnsigned Spells Brief)

variable {q magnitude : Rat}

/-- What is written for a magnitude is a numeral; it is brief if the magnitude is one of single
precision. -/
theorem spells_shortest (negative : Bool) (magnitude : Rat) :
    ∃ token, SpellsUnsigned negative ((Decimal.shortest .toEven magnitude).layOut .json) token ∧
      (FloatFormat.single.IsValue magnitude → token.Brief) := by
  by_cases positive : 0 < magnitude
  · have written := Decimal.written_shortest positive .toEven
    obtain ⟨token, spelled, sound, short, scaled⟩ := Decimal.spells_layOut written.filled
    refine ⟨token, spelled, ?_⟩
    intro valid
    obtain ⟨low, high⟩ := Decimal.log_single valid positive
    have few : (Decimal.shortest .toEven magnitude).text.length ≤ 10 := by
      refine (Nat.length_toDigits_le_iff (by decide) (by decide)).mpr ?_
      exact written.few.trans_lt (by decide)
    have low' := written.low
    have high' := written.high
    exact ⟨sound, by omega, by omega⟩
  · -- anything else is written as zero
    rw [Decimal.shortest, if_pos (not_lt.mp positive)]
    refine ⟨_, .parts (Decimal.isDigits_toDigits 0) (fun _ => rfl)
      (.point (Decimal.isDigits_toDigits 0)) .none, fun _ => ⟨rfl, ?_, ?_⟩⟩
    · exact show 1 + 1 ≤ 40 by decide
    · exact Nat.zero_le 100

theorem spells_write (negative : Bool) (magnitude : Rat) :
    ∃ token, Spells (json.writeFinite negative magnitude) token ∧
      (FloatFormat.single.IsValue magnitude → token.Brief) := by
  obtain ⟨token, spelled, brief⟩ := spells_shortest negative magnitude
  refine ⟨token, ?_, brief⟩
  rw [writeFinite]
  cases negative with
  | false => exact .unsigned spelled
  | true => exact .negative spelled

end DecimalStyle

namespace Single

variable {a : Single}

/-- Every number is written as a numeral or as a word. -/
theorem spelled_ofSingle (a : Single) : (Json.ofSingle a).Spelled := by
  cases a with
  | nan => simp [Json.ofSingle, Json.Spelled]
  | infinite negative => simp [Json.ofSingle, Json.Spelled]
  | finite negative magnitude valid =>
    obtain ⟨token, spelled, -⟩ := DecimalStyle.spells_write negative magnitude
    rw [Json.ofSingle, Json.Spelled]
    exact (NumberToken.isNumeral_of_spells spelled).1

/-- The number is read back from the text that is written for it. -/
def ReadsBack (a : Single) : Prop :=
  JsonText.readWith JsonTree.single (Json.ofSingle a).pretty = .ok a

instance (a : Single) : Decidable a.ReadsBack :=
  inferInstanceAs (Decidable (_ = _))

/-- Then it is read back in any text. -/
theorem ReadsBack.single_ofJson (back : a.ReadsBack) :
    (JsonTree.ofJson (.ofSingle a)).single = .ok a := by
  rw [← JsonText.readWith_pretty JsonTree.single (spelled_ofSingle a)]
  exact back

/-- What is written for a number has a value. -/
theorem exists_value (a : Single) :
    ∃ value, ∀ depth, (JsonTree.ofJson (.ofSingle a)).value depth = .ok value := by
  cases a with
  | nan => exact ⟨.null, fun _ => rfl⟩
  | infinite negative => exact ⟨.null, fun _ => rfl⟩
  | finite negative magnitude valid =>
    obtain ⟨token, spelled, brief⟩ := DecimalStyle.spells_write negative magnitude
    obtain ⟨number, read⟩ := NumberToken.exists_read (brief valid)
    have same := (NumberToken.isNumeral_of_spells spelled).2
    refine ⟨number.toJson, fun depth => ?_⟩
    rw [Json.ofSingle, JsonTree.ofJson, same, JsonTree.value, read]
    rfl

end Single

end Polyglot
