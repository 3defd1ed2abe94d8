import RecordCoding.Binary64

/-!
# Magnitudes

A finite number is followed by the binary logarithm of its magnitude. Rounding changes it by one at
most, so a quotient by two or more is no larger than the dividend, and what is computed from
integers of 64 bits stays finite.
-/

namespace RecordCoding.Binary64

/-- Finite numbers with a bound on the logarithm of their magnitude. -/
def Within (x : Binary64) (bound : Int) : Prop :=
  ∃ negative significand exponent, x = .finite negative significand exponent ∧
    (Nat.log2 significand : Int) + exponent ≤ bound

/-- Finite numbers whose magnitude is at least two. -/
def isLarge : Binary64 → Bool
  | finite _ significand exponent => significand != 0 && 1 ≤ (Nat.log2 significand : Int) + exponent
  | _ => false

/-- A number within bounds is finite. -/
theorem Within.isFinite {x : Binary64} {bound : Int} (within : x.Within bound) :
    x.isFinite = true := by
  obtain ⟨_, _, _, rfl, -⟩ := within
  rfl

/-- A factor that is a power of two adds its exponent to a logarithm. -/
theorem log2_mul_two_pow {n : Nat} (nonzero : n ≠ 0) (k : Nat) :
    Nat.log2 (n * Nat.pow 2 k) = Nat.log2 n + k := by
  induction k with
  | zero => exact congrArg Nat.log2 (Nat.mul_one n)
  | succ k ih =>
    have positive : Nat.pow 2 k ≠ 0 := Nat.ne_of_gt (Nat.pow_pos (by decide))
    have double : n * Nat.pow 2 (k + 1) = 2 * (n * Nat.pow 2 k) := by
      rw [show Nat.pow 2 (k + 1) = Nat.pow 2 k * 2 from rfl, Nat.mul_comm 2, Nat.mul_assoc]
    rw [double, Nat.log2_two_mul (Nat.mul_ne_zero nonzero positive), ih, Nat.add_assoc]

/-- Scaling shifts the logarithm of a ratio. -/
theorem log2_scaleRatio {num den : Nat} (nonzero : num ≠ 0) (nonzeroToo : den ≠ 0) (shift : Int) :
    (Nat.log2 (scaleRatio num den shift).1 : Int) - Nat.log2 (scaleRatio num den shift).2 =
      Nat.log2 num - Nat.log2 den + shift := by
  cases shift with
  | ofNat n =>
    have scaled := log2_mul_two_pow nonzero n
    simp only [scaleRatio, Int.ofNat_eq_natCast]
    omega
  | negSucc n =>
    have scaled := log2_mul_two_pow nonzeroToo (n + 1)
    simp only [scaleRatio]
    omega

/-- Scaling keeps ratios of numbers that are not zero. -/
theorem scaleRatio_ne_zero {num den : Nat} (nonzero : num ≠ 0) (nonzeroToo : den ≠ 0)
    (shift : Int) : (scaleRatio num den shift).1 ≠ 0 ∧ (scaleRatio num den shift).2 ≠ 0 := by
  have positive (n : Nat) : Nat.pow 2 n ≠ 0 := Nat.ne_of_gt (Nat.pow_pos (by decide))
  cases shift with
  | ofNat n => exact ⟨Nat.mul_ne_zero nonzero (positive n), nonzeroToo⟩
  | negSucc n => exact ⟨nonzero, Nat.mul_ne_zero nonzeroToo (positive (n + 1))⟩

/-- The logarithm of a ratio is at most the difference of the logarithms. -/
theorem floorLog_le (num den : Nat) : floorLog num den ≤ Nat.log2 num - Nat.log2 den := by
  unfold floorLog
  dsimp only
  split <;> omega

/-- Rounding raises a quotient by one at most, and never lowers it. -/
theorem roundDiv_bounds (num den : Nat) :
    num / den ≤ roundDiv num den ∧ roundDiv num den ≤ num / den + 1 := by
  unfold roundDiv
  dsimp only
  split <;> omega

/-- The logarithm of a rounded quotient is no more than one above that of the ratio. -/
theorem log2_roundDiv_le {num den k : Nat} (nonzero : den ≠ 0)
    (small : Nat.log2 num + 1 ≤ Nat.log2 den + k) : Nat.log2 (roundDiv num den) ≤ k := by
  have quotient : num / den < 2 ^ k := by
    rw [Nat.div_lt_iff_lt_mul (Nat.pos_of_ne_zero nonzero)]
    calc num < 2 ^ (Nat.log2 num + 1) := Nat.lt_log2_self
      _ ≤ 2 ^ (Nat.log2 den + k) := Nat.pow_le_pow_right (by decide) small
      _ = 2 ^ k * 2 ^ Nat.log2 den := by rw [Nat.pow_add, Nat.mul_comm]
      _ ≤ 2 ^ k * den := Nat.mul_le_mul_left _ (Nat.log2_self_le nonzero)
  have rounded : roundDiv num den ≤ 2 ^ k := Nat.le_trans (roundDiv_bounds num den).2 quotient
  by_cases zero : roundDiv num den = 0
  · rw [zero]
    exact Nat.zero_le k
  · refine Nat.le_of_lt_succ ((Nat.log2_lt zero).mpr ?_)
    exact Nat.lt_of_le_of_lt rounded (Nat.pow_lt_pow_right (by decide) (Nat.lt_succ_self k))

/-- The logarithm of a rounded quotient is no more than one below that of the ratio. -/
theorem le_log2_roundDiv {num den k : Nat} (nonzero : num ≠ 0) (positive : 0 < den)
    (large : Nat.log2 den + k + 1 ≤ Nat.log2 num) :
    roundDiv num den ≠ 0 ∧ k ≤ Nat.log2 (roundDiv num den) := by
  have quotient : 2 ^ k ≤ num / den := by
    rw [Nat.le_div_iff_mul_le positive]
    calc 2 ^ k * den ≤ 2 ^ k * 2 ^ (Nat.log2 den + 1) :=
          Nat.mul_le_mul_left _ (Nat.le_of_lt Nat.lt_log2_self)
      _ = 2 ^ (Nat.log2 den + k + 1) := by rw [← Nat.pow_add, Nat.add_left_comm, Nat.add_assoc]
      _ ≤ 2 ^ Nat.log2 num := Nat.pow_le_pow_right (by decide) large
      _ ≤ num := Nat.log2_self_le nonzero
  have rounded : 2 ^ k ≤ roundDiv num den := Nat.le_trans quotient (roundDiv_bounds num den).1
  have significant : roundDiv num den ≠ 0 :=
    Nat.ne_of_gt (Nat.lt_of_lt_of_le (Nat.pow_pos (by decide)) rounded)
  exact ⟨significant, (Nat.le_log2 significant).mpr rounded⟩

/-- Rounding a ratio to a multiple of a power of two changes its logarithm by one at most, unless the
ratio is smaller than that. -/
theorem log2_roundDiv_scaleRatio {num den : Nat} (nonzero : num ≠ 0) (nonzeroToo : den ≠ 0)
    (exponent : Int) :
    let scaled := scaleRatio num den (-exponent)
    let significand := roundDiv scaled.1 scaled.2
    (Nat.log2 significand : Int) + exponent ≤
        max exponent (Nat.log2 num - Nat.log2 den + 1) ∧
      (exponent < Nat.log2 num - Nat.log2 den → significand ≠ 0 ∧
        (Nat.log2 num : Int) - Nat.log2 den ≤ Nat.log2 significand + exponent + 1) := by
  have logs := log2_scaleRatio nonzero nonzeroToo (-exponent)
  obtain ⟨numerator, denominator⟩ := scaleRatio_ne_zero nonzero nonzeroToo (-exponent)
  generalize scaleRatio num den (-exponent) = scaled at logs numerator denominator ⊢
  generalize (Nat.log2 num : Int) - Nat.log2 den = log at logs ⊢
  dsimp only
  constructor
  · have rounded : Nat.log2 (roundDiv scaled.1 scaled.2) ≤ (log + 1 - exponent).toNat :=
      log2_roundDiv_le denominator (by omega)
    omega
  · intro large
    have rounded : roundDiv scaled.1 scaled.2 ≠ 0 ∧
        (log - exponent - 1).toNat ≤ Nat.log2 (roundDiv scaled.1 scaled.2) :=
      le_log2_roundDiv numerator (Nat.pos_of_ne_zero denominator) (by omega)
    exact ⟨rounded.1, by omega⟩

/-- The number nearest to a ratio that is not too large is finite, and its logarithm differs from
that of the ratio by one at most, unless the ratio is too small. -/
theorem exists_ofRatio (negative : Bool) {num den : Nat} (nonzero : num ≠ 0)
    (nonzeroToo : den ≠ 0) (small : (Nat.log2 num : Int) - Nat.log2 den ≤ 1022) :
    ∃ significand exponent, ofRatio negative num den = .finite negative significand exponent ∧
      (Nat.log2 significand : Int) + exponent ≤
        max minExponent (Nat.log2 num - Nat.log2 den + 1) ∧
      (0 ≤ (Nat.log2 num : Int) - Nat.log2 den → significand ≠ 0 ∧
        (Nat.log2 num : Int) - Nat.log2 den ≤ Nat.log2 significand + exponent + 1) := by
  have floor := floorLog_le num den
  unfold ofRatio
  rw [if_neg (by simp [nonzero, nonzeroToo])]
  dsimp only
  generalize choice : max minExponent (floorLog num den - (precision - 1 : Nat)) = exponent
  obtain ⟨least, greatest⟩ := log2_roundDiv_scaleRatio nonzero nonzeroToo exponent
  generalize roundDiv (scaleRatio num den (-exponent)).1 (scaleRatio num den (-exponent)).2 =
    significand at least greatest ⊢
  generalize (Nat.log2 num : Int) - Nat.log2 den = log at *
  have chosen : exponent + 1 ≤ maxExponent ∧ max exponent (log + 1) ≤ max minExponent (log + 1) ∧
      (0 ≤ log → exponent < log) := by
    simp only [minExponent, precision, maxExponent] at *
    omega
  split
  · rename_i carried
    have full : Nat.log2 (Nat.pow 2 precision) = Nat.log2 (Nat.pow 2 (precision - 1)) + 1 := by
      decide
    rw [carried, full] at least greatest
    dsimp only
    rw [if_neg (by omega)]
    refine ⟨_, _, rfl, by omega, fun whole => ⟨by decide, ?_⟩⟩
    have large := (greatest (chosen.2.2 whole)).2
    omega
  · dsimp only
    rw [if_neg (by omega)]
    exact ⟨_, _, rfl, by omega, fun whole => greatest (chosen.2.2 whole)⟩

/-- The number nearest to a ratio is within the bound of the ratio. -/
theorem within_ofRatio {negative : Bool} {num den : Nat} {bound : Int} (least : minExponent ≤ bound)
    (greatest : bound ≤ 1023)
    (small : num ≠ 0 → (Nat.log2 num : Int) - Nat.log2 den + 1 ≤ bound) :
    (ofRatio negative num den).Within bound := by
  by_cases zero : (num = 0 || den = 0) = true
  · unfold ofRatio
    rw [if_pos zero]
    exact ⟨negative, 0, minExponent, rfl, by rw [Nat.log2_zero]; omega⟩
  · simp only [Bool.or_eq_true, decide_eq_true_eq, not_or] at zero
    have ratio := small zero.1
    obtain ⟨significand, exponent, eq, log, -⟩ := exists_ofRatio negative zero.1 zero.2 (by omega)
    exact ⟨negative, significand, exponent, eq, by omega⟩

/-- Numbers of eight or more, unless they are too large, are large. -/
theorem isLarge_ofNat {n : Nat} (least : 3 ≤ Nat.log2 n) (greatest : Nat.log2 n ≤ 1022) :
    (ofNat n).isLarge = true := by
  have nonzero : n ≠ 0 := by
    rintro rfl
    rw [Nat.log2_zero] at least
    omega
  have unit : Nat.log2 1 = 0 := by decide
  obtain ⟨significand, exponent, eq, -, log⟩ :=
    exists_ofRatio false nonzero Nat.one_ne_zero (by omega)
  obtain ⟨significant, large⟩ := log (by omega)
  rw [ofNat, eq, isLarge, Bool.and_eq_true, bne_iff_ne, decide_eq_true_eq]
  exact ⟨significant, by omega⟩

/-- Integers of 64 bits are within bounds. -/
theorem within_ofRatio_one (negative : Bool) {num : Nat} (small : num < Nat.pow 2 65) :
    (ofRatio negative num 1).Within 65 := by
  refine within_ofRatio (by decide) (by decide) fun nonzero => ?_
  have log := (Nat.log2_lt nonzero).mpr small
  have unit : Nat.log2 1 = 0 := by decide
  omega

/-- A quotient by a large number is within the bounds of the dividend. -/
theorem Within.div {x y : Binary64} {bound : Int} (within : x.Within bound)
    (large : y.isLarge = true) (least : minExponent ≤ bound) (greatest : bound ≤ 1023) :
    (x.div y).Within bound := by
  obtain ⟨negative, significand, exponent, rfl, small⟩ := within
  cases y with
  | finite sign divisor power =>
    simp only [isLarge, Bool.and_eq_true, bne_iff_ne, decide_eq_true_eq] at large
    obtain ⟨nonzero, large⟩ := large
    unfold Binary64.div
    dsimp only
    rw [if_neg nonzero]
    refine within_ofRatio least greatest fun scaled => ?_
    have significant : significand ≠ 0 := by
      rintro rfl
      cases shift : exponent - power <;> simp [shift, scaleRatio] at scaled
    have logs := log2_scaleRatio significant nonzero (exponent - power)
    omega
  | infinite sign => cases large
  | nan => cases large

/-- The negative of a number is finite if the number is. -/
theorem isFinite_neg (x : Binary64) : x.neg.isFinite = x.isFinite := by
  cases x <;> rfl

/-- Integers of 64 bits are finite. -/
theorem isFinite_ofInt {value : Int} (least : -Int.pow 2 63 ≤ value)
    (greatest : value < Int.pow 2 64) : (ofInt value).isFinite = true := by
  have lower : Int.pow 2 63 = 9223372036854775808 := by decide
  have upper : Int.pow 2 64 = 18446744073709551616 := by decide
  have wide : Nat.pow 2 65 = 36893488147419103232 := by decide
  exact (within_ofRatio_one _ (by omega)).isFinite

end RecordCoding.Binary64
