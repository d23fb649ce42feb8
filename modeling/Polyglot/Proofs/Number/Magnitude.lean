import Mathlib.Algebra.Order.Field.Power
import Mathlib.Data.Nat.Cast.Order.Field
import Mathlib.Data.Rat.Floor
import Polyglot.Number.Decimal

/-!
# How large numbers are

Rounding moves a number by a unit at most, so that only large numbers overflow
(`FloatFormat.round_of_lt`), and what it makes of a number is in the range of the format
(`FloatFormat.range_of_round`). The decimal logarithm is the integer part of the true one
(`Decimal.log_spec`), so that the neighbours of a number have as many digits as they should, and
**`Decimal.written_shortest`** says of the numeral that is written for a number that its digits are
not zero, that there are nine at most but for the next power of ten, and how large its exponent is.
-/

namespace Polyglot

/-- An integer power as one of a natural number, or as the inverse of one. -/
theorem ite_pow_eq_zpow (base : Nat) (exponent : Int) :
    (if 0 ≤ exponent then (Nat.pow base exponent.toNat : Rat)
      else 1 / (Nat.pow base (-exponent).toNat : Rat)) = (base : Rat) ^ exponent := by
  split
  · next natural =>
    obtain ⟨n, rfl⟩ := Int.eq_ofNat_of_zero_le natural
    simp [zpow_natCast]
  · next negative =>
    obtain ⟨n, rfl⟩ := Int.exists_eq_neg_ofNat (Int.le_of_lt (Int.not_le.mp negative))
    simp [zpow_neg]

end Polyglot

namespace Polyglot.FloatFormat

variable {format : FloatFormat} {q value : Rat}

/-! ## Rounding -/

theorem power_eq_zpow (exponent : Int) : power exponent = (2 : Rat) ^ exponent := by
  rw [power, ite_pow_eq_zpow, Nat.cast_ofNat]

theorem power_pos (exponent : Int) : 0 < power exponent := by
  rw [power_eq_zpow]
  positivity

theorem power_mono {low high : Int} (le : low ≤ high) : power low ≤ power high := by
  rw [power_eq_zpow, power_eq_zpow]
  exact zpow_le_zpow_right₀ (by norm_num) le

/-- A positive rational as a fraction of natural numbers. -/
theorem exists_fraction (positive : 0 < q) :
    0 < q.num.toNat ∧ q = (q.num.toNat : Rat) / (q.den : Rat) := by
  have numerator : 0 < q.num := Rat.num_pos.mpr positive
  have same : ((q.num.toNat : Int) : Rat) = (q.num : Rat) := by
    rw [Int.toNat_of_nonneg numerator.le]
  refine ⟨by omega, ?_⟩
  rw [← Int.cast_natCast, same, Rat.num_div_den]

theorem power_log_le (positive : 0 < q) : power (log q) ≤ q := by
  unfold log
  simp only
  split
  · assumption
  · -- the numerator is not below its own power, and the denominator is below the next one
    obtain ⟨numerator, fraction⟩ := exists_fraction positive
    have low : 2 ^ q.num.toNat.log2 ≤ q.num.toNat := Nat.log2_self_le (by omega)
    have high : q.den < 2 ^ (q.den.log2 + 1) := Nat.lt_log2_self
    have split : (q.num.toNat.log2 : Int) - q.den.log2 - 1 =
        q.num.toNat.log2 + -((q.den.log2 + 1 : Nat) : Int) := by omega
    have positive' : (0 : Rat) < q.den := Nat.cast_pos.mpr q.den_pos
    rw [split, power_eq_zpow, zpow_add₀ (by norm_num), zpow_neg, zpow_natCast, zpow_natCast,
      ← div_eq_mul_inv]
    calc (2 : Rat) ^ q.num.toNat.log2 / 2 ^ (q.den.log2 + 1)
        ≤ q.num.toNat / q.den := by
          gcongr
          · exact_mod_cast low
          · exact_mod_cast high.le
      _ = q := fraction.symm

theorem power_log_pred_le (positive : 0 < q) : power (log q - 1) ≤ q / 2 := by
  have same : power (log q - 1) = power (log q) / 2 := by
    rw [power_eq_zpow, power_eq_zpow, zpow_sub_one₀ (by norm_num), ← div_eq_mul_inv]
  rw [same]
  exact div_le_div_of_nonneg_right (power_log_le positive) (by norm_num)

/-- A quotient is rounded to one of the integers around it. -/
theorem halfEven_mem (num den : Nat) :
    num / den ≤ halfEven num den ∧ halfEven num den ≤ num / den + 1 := by
  unfold halfEven
  simp only
  split
  · omega
  · split <;> omega

/-- A fraction is moved by one at most. -/
theorem halfEven_near (positive : 0 < q) :
    q ≤ (halfEven q.num.toNat q.den : Rat) + 1 ∧ (halfEven q.num.toNat q.den : Rat) ≤ q + 1 := by
  obtain ⟨-, fraction⟩ := exists_fraction positive
  obtain ⟨below, above⟩ := halfEven_mem q.num.toNat q.den
  constructor
  · have next : q.num.toNat ≤ (q.num.toNat / q.den + 1) * q.den := by
      rw [Nat.mul_comm]
      exact (Nat.lt_mul_div_succ _ q.den_pos).le
    calc q = q.num.toNat / q.den := fraction
      _ ≤ ((q.num.toNat / q.den + 1 : Nat) : Rat) := by
        rw [div_le_iff₀ (Nat.cast_pos.mpr q.den_pos)]
        exact_mod_cast next
      _ ≤ (halfEven q.num.toNat q.den : Rat) + 1 := by
        exact_mod_cast Nat.succ_le_succ below
  · calc (halfEven q.num.toNat q.den : Rat)
        ≤ ((q.num.toNat / q.den + 1 : Nat) : Rat) := by exact_mod_cast above
      _ = ((q.num.toNat / q.den : Nat) : Rat) + 1 := by push_cast; rfl
      _ ≤ q.num.toNat / q.den + 1 := by gcongr; exact Nat.cast_div_le
      _ = q + 1 := by rw [← fraction]

/-- What is rounded becomes a multiple of a unit and is moved by a unit at most. The unit is the
smallest one or no more than half of the number. -/
theorem round_eq (precise : 2 ≤ format.precision) (positive : 0 < q) :
    ∃ (n : Nat) (unit : Rat), power format.least ≤ unit ∧
      unit ≤ max (power format.least) (q / 2) ∧ q ≤ n * unit + unit ∧ n * unit ≤ q + unit ∧
      format.round q = if power format.top ≤ n * unit then none else some (n * unit) := by
  let exponent := max format.least (log q - (format.precision - 1))
  let scaled := q / power exponent
  have unit : 0 < power exponent := power_pos exponent
  have whole : scaled * power exponent = q := div_mul_cancel₀ q unit.ne'
  obtain ⟨above, below⟩ := halfEven_near (div_pos positive unit)
  refine ⟨halfEven scaled.num.toNat scaled.den, power exponent, ?_, ?_, ?_, ?_, ?_⟩
  · exact power_mono (le_max_left _ _)
  · rcases le_total format.least (log q - (format.precision - 1)) with large | small
    · -- with two digits or more the unit is below the power of the number itself
      have fine : log q - (format.precision - 1) ≤ log q - 1 := by omega
      rw [show exponent = _ from max_eq_right large]
      exact ((power_mono fine).trans (power_log_pred_le positive)).trans (le_max_right _ _)
    · rw [show exponent = _ from max_eq_left small]
      exact le_max_left _ _
  · calc q = scaled * power exponent := whole.symm
      _ ≤ ((halfEven scaled.num.toNat scaled.den : Rat) + 1) * power exponent := by gcongr
      _ = halfEven scaled.num.toNat scaled.den * power exponent + power exponent := by
        rw [add_mul, one_mul]
  · calc (halfEven scaled.num.toNat scaled.den : Rat) * power exponent
        ≤ (scaled + 1) * power exponent := by gcongr
      _ = q + power exponent := by rw [add_mul, whole, one_mul]
  · rw [round, if_neg (not_le.mpr positive)]

/-- Only what is large overflows. -/
theorem exists_round (precise : 2 ≤ format.precision)
    (small : q + max (power format.least) (q / 2) < power format.top) :
    ∃ value, format.round q = some value := by
  by_cases positive : 0 < q
  · obtain ⟨n, unit, -, most, -, high, same⟩ := round_eq precise positive
    have below : ¬ power format.top ≤ n * unit := not_le.mpr (by linarith)
    exact ⟨n * unit, by rw [same, if_neg below]⟩
  · exact ⟨0, by rw [round, if_pos (not_lt.mp positive)]⟩

/-- What is not next to the smallest unit is rounded to no less than half of it and to no more than
twice as much. -/
theorem near_of_round (precise : 2 ≤ format.precision) (normal : 2 * power format.least ≤ q)
    (rounded : format.round q = some value) : q ≤ 2 * value ∧ value ≤ 2 * q := by
  have least : 0 < power format.least := power_pos _
  have positive : 0 < q := by linarith
  obtain ⟨n, unit, -, most, low, high, same⟩ := round_eq precise positive
  rw [max_eq_right (by linarith)] at most
  rw [rounded] at same
  split at same
  · cases same
  · cases same
    constructor <;> linarith

/-- What something is rounded to is zero or in the range of the format. -/
theorem range_of_round (precise : 2 ≤ format.precision) (rounded : format.round q = some value) :
    value = 0 ∨ power format.least ≤ value ∧ value < power format.top := by
  by_cases positive : 0 < q
  · obtain ⟨n, unit, least, -, -, -, same⟩ := round_eq precise positive
    rw [rounded] at same
    split at same
    · cases same
    · next below =>
      cases same
      rcases Nat.eq_zero_or_pos n with rfl | some
      · left
        simp
      · right
        refine ⟨?_, not_le.mp below⟩
        have one : (1 : Rat) ≤ n := by exact_mod_cast some
        have unit' : 0 < unit := (power_pos _).trans_le least
        calc power format.least ≤ 1 * unit := by rwa [one_mul]
          _ ≤ n * unit := by gcongr
  · rw [round, if_pos (not_lt.mp positive)] at rounded
    cases rounded
    exact .inl rfl

end Polyglot.FloatFormat

namespace Polyglot.Decimal

variable {q : Rat} {tie : Tie} {count fuel : Nat} {d : Decimal}

/-! ## Powers of ten -/

theorem power_eq_zpow (exponent : Int) : power exponent = (10 : Rat) ^ exponent := by
  rw [power, ite_pow_eq_zpow, Nat.cast_ofNat]

theorem power_pos (exponent : Int) : 0 < power exponent := by
  rw [power_eq_zpow]
  positivity

theorem power_add_natCast (exponent : Int) (n : Nat) :
    power (exponent + n) = ((10 ^ n : Nat) : Rat) * power exponent := by
  rw [power_eq_zpow, power_eq_zpow, zpow_add₀ (by norm_num), zpow_natCast, mul_comm]
  norm_cast

/-- A number lies between the powers that its digits say. -/
theorem pow_length_toDigits {n : Nat} (filled : n ≠ 0) :
    10 ^ ((Nat.toDigits 10 n).length - 1) ≤ n ∧ n < 10 ^ (Nat.toDigits 10 n).length := by
  have some : 0 < (Nat.toDigits 10 n).length := Nat.length_toDigits_pos
  refine ⟨?_, (Nat.length_toDigits_le_iff (by decide) some).mp le_rfl⟩
  by_contra small
  by_cases single : (Nat.toDigits 10 n).length = 1
  · rw [single] at small
    exact small (Nat.one_le_iff_ne_zero.mpr filled)
  · have fewer := (Nat.length_toDigits_le_iff (by decide) (by omega)).mpr (Nat.not_le.mp small)
    omega

/-! ## Logarithms -/

/-- A number that is not below one has as many places in front of the point as its integer part. -/
theorem log_of_whole {p n : Nat} (fraction : q = (p : Rat) / (n : Rat)) (positive : 0 < n)
    (filled : p / n ≠ 0) :
    let places := (Nat.toDigits 10 (p / n)).length
    power (places - 1) ≤ q ∧ q < power places := by
  intro places
  obtain ⟨low, high⟩ := pow_length_toDigits filled
  have some : 0 < places := Nat.length_toDigits_pos
  rw [Nat.le_div_iff_mul_le positive] at low
  rw [Nat.div_lt_iff_lt_mul positive] at high
  have positive' : (0 : Rat) < n := Nat.cast_pos.mpr positive
  have first : ((places : Int) - 1) = ((places - 1 : Nat) : Int) := by omega
  rw [fraction, power_eq_zpow, power_eq_zpow, first, zpow_natCast, zpow_natCast,
    le_div_iff₀ positive', div_lt_iff₀ positive']
  exact ⟨by exact_mod_cast low, by exact_mod_cast high⟩

/-- A number below one has a zero less behind the point than its reciprocal, rounded up, has places
when one is taken away from it. -/
theorem log_of_part {p n : Nat} (fraction : q = (p : Rat) / (n : Rat)) (positive : 0 < p)
    (part : p < n) :
    let places := (Nat.toDigits 10 ((n + p - 1) / p - 1)).length
    power (-places) ≤ q ∧ q < power (-places + 1) := by
  intro places
  have twice : 2 ≤ (n + p - 1) / p := by
    rw [Nat.le_div_iff_mul_le positive]
    omega
  obtain ⟨low, high⟩ : 10 ^ (places - 1) ≤ (n + p - 1) / p - 1 ∧
      (n + p - 1) / p - 1 < 10 ^ places := pow_length_toDigits (by omega)
  have some : 0 < places := Nat.length_toDigits_pos
  -- the reciprocal is what must be taken of `p` to make up `n`, and no less would do
  have enough : n ≤ 10 ^ places * p := by
    have above : (n + p - 1) / p < 10 ^ places + 1 := by omega
    rw [Nat.div_lt_iff_lt_mul positive, Nat.add_mul] at above
    omega
  have least : 10 ^ (places - 1) * p < n := by
    have below : 10 ^ (places - 1) + 1 ≤ (n + p - 1) / p := by omega
    rw [Nat.le_div_iff_mul_le positive, Nat.add_mul] at below
    omega
  have positive' : (0 : Rat) < n := Nat.cast_pos.mpr (by omega)
  have next : (-(places : Int) + 1) = -((places - 1 : Nat) : Int) := by omega
  rw [fraction, power_eq_zpow, power_eq_zpow, next, zpow_neg, zpow_neg, zpow_natCast, zpow_natCast,
    le_div_iff₀ positive', div_lt_iff₀ positive', inv_mul_le_iff₀ (by positivity),
    lt_inv_mul_iff₀ (by positivity)]
  exact ⟨by exact_mod_cast enough, by exact_mod_cast least⟩

/-- The logarithm is the integer part of the decimal one. -/
theorem log_spec (positive : 0 < q) : power (log q) ≤ q ∧ q < power (log q + 1) := by
  obtain ⟨numerator, fraction⟩ := FloatFormat.exists_fraction positive
  unfold log
  simp only
  split
  · next filled =>
    rw [Int.sub_add_cancel]
    exact log_of_whole fraction q.den_pos filled
  · next part =>
    have below : q.num.toNat < q.den := by
      rw [not_not, Nat.div_eq_zero_iff] at part
      exact part.resolve_left q.den_nz
    exact log_of_part fraction numerator below

/-! ## Neighbours -/

/-- The neighbours of a number have the digits that were asked for, but the upper one may be the
next power of ten. -/
theorem digits_of_mem_neighbours (positive : 0 < q) (some : 0 < count)
    (mem : d ∈ neighbours tie q count) :
    d.exponent = log q - (count - 1) ∧ 10 ^ (count - 1) ≤ d.digits ∧ d.digits ≤ 10 ^ count := by
  obtain ⟨low, high⟩ := log_spec positive
  have first : log q = log q - (count - 1) + ((count - 1 : Nat) : Int) := by omega
  have behind : log q + 1 = log q - (count - 1) + (count : Int) := by omega
  rw [first, power_add_natCast] at low
  rw [behind, power_add_natCast] at high
  -- the quotient has as many digits in front of its point as are asked for
  have low' : ((10 ^ (count - 1) : Nat) : Int) ≤ (q / power (log q - (count - 1))).floor := by
    rw [Rat.le_floor_iff, le_div_iff₀ (power_pos _)]
    exact low
  have high' : (q / power (log q - (count - 1))).floor < ((10 ^ count : Nat) : Int) := by
    rw [Rat.floor_lt_iff, div_lt_iff₀ (power_pos _)]
    exact high
  unfold neighbours at mem
  simp only at mem
  generalize log q - (count - 1) = exponent at mem low' high' ⊢
  generalize (q / power exponent).floor = below at mem low' high'
  generalize 10 ^ (count - 1) = least, 10 ^ count = most at low' high' ⊢
  -- there is nothing else than the two integers around it
  have pair : d = ⟨below.toNat, exponent⟩ ∨ d = ⟨below.toNat + 1, exponent⟩ := by
    split at mem <;> simpa [or_comm] using mem
  rcases pair with rfl | rfl
  · refine ⟨rfl, ?_, ?_⟩ <;> simp only <;> omega
  · refine ⟨rfl, ?_, ?_⟩ <;> simp only <;> omega

/-! ## The fewest digits -/

/-- A decimal of nine places near the number: its digits are not zero, and its exponent lies within
nine of the logarithm. -/
structure Written (q : Rat) (d : Decimal) : Prop where
  filled : d.digits ≠ 0
  few : d.digits ≤ 10 ^ 9
  low : log q - 8 ≤ d.exponent
  high : d.exponent ≤ log q + 1

/-- Zeros are taken from the digits and counted in the exponent. -/
theorem strip_spec (filled : d.digits ≠ 0) (fuel : Nat) :
    (strip fuel d).digits ≠ 0 ∧ (strip fuel d).digits ≤ d.digits ∧
      d.exponent ≤ (strip fuel d).exponent ∧ (strip fuel d).exponent ≤ d.exponent + fuel := by
  induction fuel generalizing d with
  | zero => simpa [strip] using filled
  | succ fuel ih =>
    rw [strip]
    split
    · next zero =>
      have tenth : (⟨d.digits / 10, d.exponent + 1⟩ : Decimal).digits ≠ 0 := by
        simp only
        omega
      obtain ⟨filled', few, low, high⟩ := ih tenth
      simp only at few low high
      exact ⟨filled', by omega, by omega, by omega⟩
    · exact ⟨filled, le_rfl, le_rfl, by omega⟩

/-- What is found with so many digits, with or without the zeros at its end. -/
theorem written_strip (positive : 0 < q) (some : 0 < count) (few : count ≤ 9)
    (mem : d ∈ neighbours tie q count) (within : fuel ≤ count) : Written q (strip fuel d) := by
  obtain ⟨exponent, least, most⟩ := digits_of_mem_neighbours positive some mem
  have filled : d.digits ≠ 0 := by
    have one : 0 < 10 ^ (count - 1) := by positivity
    omega
  obtain ⟨filled', fewer, low, high⟩ := strip_spec filled fuel
  have nine : 10 ^ count ≤ 10 ^ 9 := Nat.pow_le_pow_right (by decide) few
  exact ⟨filled', by omega, by omega, by omega⟩

theorem written_shortestFrom {format : FloatFormat} (positive : 0 < q) (some : 0 < count)
    (few : count + fuel ≤ 9) : Written q (shortestFrom format tie q fuel count) := by
  induction fuel generalizing count with
  | zero =>
    have nearer : (neighbours tie q count).headD ⟨0, 0⟩ ∈ neighbours tie q count := by
      unfold neighbours
      simp only
      split <;> simp
    exact written_strip positive some few nearer (Nat.zero_le count)
  | succ fuel ih =>
    rw [shortestFrom]
    split
    · next found =>
      exact written_strip positive some (by omega) (List.mem_of_find?_eq_some found) le_rfl
    · exact ih (by omega) (by omega)

/-- The numeral that is written for a positive number. -/
theorem written_shortest (positive : 0 < q) (tie : Tie) : Written q (shortest tie q) := by
  rw [shortest, if_neg (not_le.mpr positive)]
  exact written_shortestFrom positive (by decide) (by decide)

/-- The logarithms of the numbers of single precision. -/
theorem log_single {value : Rat} (valid : FloatFormat.single.IsValue value)
    (positive : 0 < value) : -45 ≤ log value ∧ log value ≤ 38 := by
  obtain ⟨q, rounded⟩ := valid
  obtain ⟨low, high⟩ := log_spec positive
  rw [power_eq_zpow] at low high
  rcases FloatFormat.range_of_round (by decide) rounded with rfl | ⟨least, top⟩
  · exact absurd positive (lt_irrefl 0)
  · rw [FloatFormat.power_eq_zpow] at least top
    constructor
    · have above : (10 : Rat) ^ (-45 : Int) < 10 ^ (log value + 1) := by
        calc (10 : Rat) ^ (-45 : Int) ≤ 2 ^ FloatFormat.single.least := by
              norm_num [FloatFormat.single]
          _ ≤ value := least
          _ < 10 ^ (log value + 1) := high
      have ordered := (zpow_lt_zpow_iff_right₀ (by norm_num)).mp above
      omega
    · have below : (10 : Rat) ^ log value < 10 ^ (39 : Int) := by
        calc (10 : Rat) ^ log value ≤ value := low
          _ < 2 ^ FloatFormat.single.top := top
          _ ≤ 10 ^ (39 : Int) := by norm_num [FloatFormat.single]
      have ordered := (zpow_lt_zpow_iff_right₀ (by norm_num)).mp below
      omega

end Polyglot.Decimal
