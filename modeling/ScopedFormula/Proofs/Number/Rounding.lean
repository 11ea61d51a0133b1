import Mathlib

/- Division of floats gives a nearest float. The exact quotient is followed as a rational
   through the shifts of the mantissa and its two residual bits. -/
namespace ScopedFormula
open Float.Model Float.Model.UnpackedFloat

/-- The number is the mantissa, a half if the round bit is set, and less than another half,
    which is nothing exactly when the sticky bit is not set. -/
def Approximates (em : ExtendedMantissa) (x : ℚ) : Prop :=
  ∃ d : ℚ, 0 ≤ d ∧ d < 1 / 2 ∧ x = em.mantissa + (if em.roundBit then 1 / 2 else 0) + d ∧
    (em.stickyBit = false ↔ d = 0)

/-- A positive float in lowest terms: the mantissa fills its 53 bits, unless the exponent is
    the least one. -/
structure Canonical (m : Nat) (e : Int) : Prop where
  bits : m < 2 ^ 53
  least : -1074 ≤ e
  full : 2 ^ 52 ≤ m ∨ e = -1074

/-- No float of any size lies nearer to the number. -/
def Nearest (m : Nat) (e : Int) (q : ℚ) : Prop :=
  ∀ (n : Nat) (f : Int), n < 2 ^ 53 → -1074 ≤ f →
    |(m : ℚ) * 2 ^ e - q| ≤ |(n : ℚ) * 2 ^ f - q|

variable {em : ExtendedMantissa} {x q : ℚ}

theorem approximates_floor (h : Approximates em x) :
    (em.mantissa : ℚ) ≤ x ∧ x < em.mantissa + 1 := by
  obtain ⟨d, low, high, rfl, -⟩ := h
  split <;> constructor <;> linarith

theorem approximates_exact (m : Nat) : Approximates (.ofMantissaAndAccuracy m .exact) m :=
  ⟨0, le_refl _, by norm_num, by simp [ExtendedMantissa.ofMantissaAndAccuracy], by
    simp [ExtendedMantissa.ofMantissaAndAccuracy]⟩

theorem approximates_half (h : Approximates em x) : Approximates em.shiftRightOne (x / 2) := by
  obtain ⟨d, low, high, rfl, sticky⟩ := h
  obtain ⟨m, r, s⟩ := em
  have split : (m : ℚ) = 2 * (m / 2 : Nat) + (m % 2 : Nat) := by
    exact_mod_cast (Nat.div_add_mod m 2).symm
  refine ⟨((if r then 1 / 2 else 0) + d) / 2, ?_, ?_, ?_, ?_⟩
  · split <;> linarith
  · split <;> linarith
  · simp only [ExtendedMantissa.shiftRightOne, split]
    rcases Nat.mod_two_eq_zero_or_one m with even | odd
    · simp only [even, Nat.cast_zero, bne_self_eq_false, Bool.false_eq_true, ↓reduceIte]
      ring
    · simp only [odd, Nat.cast_one, Nat.reduceBNe, ↓reduceIte]
      ring
  · simp only at sticky
    cases r with
    | false => simpa [ExtendedMantissa.shiftRightOne] using sticky
    | true =>
      simp only [ExtendedMantissa.shiftRightOne, Bool.true_or, reduceCtorEq, ↓reduceIte,
        false_iff]
      intro zero
      linarith

theorem approximates_shift (n : Nat) (h : Approximates em x) :
    Approximates (em >>> n) (x / 2 ^ n) := by
  induction n with
  | zero => simpa [HShiftRight.hShiftRight, Nat.repeat] using h
  | succ n ih =>
    have half := approximates_half ih
    rw [pow_succ, ← div_div]
    exact half

theorem approximates_rounded (h : Approximates em x) : |(em.roundedMantissa : ℚ) - x| ≤ 1 / 2 := by
  obtain ⟨d, low, high, rfl, sticky⟩ := h
  obtain ⟨m, r, s⟩ := em
  have parity : ((m % 2 : Nat) : ℚ) = 0 ∨ ((m % 2 : Nat) : ℚ) = 1 := by
    exact_mod_cast Nat.mod_two_eq_zero_or_one m
  simp only at sticky
  rw [abs_le]
  cases r with
  | false =>
    cases s <;> simp only [ExtendedMantissa.roundedMantissa, ExtendedMantissa.accuracy,
      Accuracy.roundToNearestEven, Bool.false_eq_true, ↓reduceIte] <;> constructor <;> linarith
  | true =>
    cases s with
    | false =>
      have none : d = 0 := sticky.mp rfl
      simp only [ExtendedMantissa.roundedMantissa, ExtendedMantissa.accuracy,
        Accuracy.roundToNearestEven, ↓reduceIte, Nat.cast_add]
      rcases parity with even | odd <;> constructor <;> linarith
    | true =>
      simp only [ExtendedMantissa.roundedMantissa, ExtendedMantissa.accuracy,
        Accuracy.roundToNearestEven, ↓reduceIte, Nat.cast_add, Nat.cast_one]
      constructor <;> linarith

theorem approximates_quotient (num : Nat) {den : Nat} (positive : 0 < den) :
    Approximates (.ofMantissaAndAccuracy (num / den) (accuracyOfFraction (num % den) den))
      (num / den) := by
  have pos : (0 : ℚ) < den := by exact_mod_cast positive
  have split : (num : ℚ) = den * (num / den : Nat) + (num % den : Nat) := by
    exact_mod_cast (Nat.div_add_mod num den).symm
  have whole : (num : ℚ) / den = (num / den : Nat) + (num % den : Nat) / den := by
    field_simp
    exact split
  have small : (num % den : Nat) < (den : ℚ) := by exact_mod_cast Nat.mod_lt num positive
  have least : (0 : ℚ) ≤ (num % den : Nat) := by positivity
  rw [whole]
  generalize num / den = m at *
  generalize num % den = r at *
  unfold accuracyOfFraction
  split
  · rename_i zero
    subst r
    exact ⟨0, le_refl _, by norm_num, by simp [ExtendedMantissa.ofMantissaAndAccuracy], by
      simp [ExtendedMantissa.ofMantissaAndAccuracy]⟩
  · rename_i some
    have more : (0 : ℚ) < r := by exact_mod_cast Nat.pos_of_ne_zero some
    have part : (0 : ℚ) < r / den := by positivity
    rcases lt_trichotomy (2 * r) den with less | same | more
    · have : (2 : ℚ) * r < den := by exact_mod_cast less
      refine ⟨r / den, part.le, by rw [div_lt_div_iff₀ pos (by norm_num)]; linarith, ?_, ?_⟩
      · simp [Nat.compare_eq_lt.mpr less, ExtendedMantissa.ofMantissaAndAccuracy]
      · simp [Nat.compare_eq_lt.mpr less, ExtendedMantissa.ofMantissaAndAccuracy, part.ne']
    · have : (2 : ℚ) * r = den := by exact_mod_cast same
      have half : (r : ℚ) / den = 1 / 2 := by
        rw [div_eq_div_iff pos.ne' (by norm_num)]
        linarith
      refine ⟨0, le_refl _, by norm_num, ?_, ?_⟩
      · simp [Nat.compare_eq_eq.mpr same, ExtendedMantissa.ofMantissaAndAccuracy, half]
      · simp [Nat.compare_eq_eq.mpr same, ExtendedMantissa.ofMantissaAndAccuracy]
    · have above : (den : ℚ) < 2 * r := by exact_mod_cast more
      have big : (1 : ℚ) / 2 < r / den := by
        rw [div_lt_div_iff₀ (by norm_num) pos]
        linarith
      have below : (r : ℚ) / den < 1 := by
        rw [div_lt_one pos]
        exact small
      refine ⟨r / den - 1 / 2, by linarith, by linarith, ?_, ?_⟩
      · simp [Nat.compare_eq_gt.mpr more, ExtendedMantissa.ofMantissaAndAccuracy]
      · simp only [Nat.compare_eq_gt.mpr more, ExtendedMantissa.ofMantissaAndAccuracy,
          reduceCtorEq, false_iff]
        intro zero
        linarith

theorem nearest_integer {r : ℤ} (close : |(r : ℚ) - x| ≤ 1 / 2) (k : ℤ) :
    |(r : ℚ) - x| ≤ |(k : ℚ) - x| := by
  by_cases same : k = r
  · rw [same]
  · have apart : (1 : ℚ) ≤ |(k : ℚ) - r| := by
      have : (1 : ℤ) ≤ |k - r| := Int.one_le_abs (sub_ne_zero.mpr same)
      exact_mod_cast this
    have triangle := abs_sub_le (k : ℚ) x r
    rw [abs_sub_comm x r] at triangle
    linarith

theorem two_zpow_pos (e : ℤ) : (0 : ℚ) < 2 ^ e := zpow_pos (by norm_num) e

/-- The nearest multiple of the unit is a nearest float: coarser floats are multiples too, and
    finer ones all lie below the number when its unit is not the least. -/
theorem nearest_of_grid {r : Nat} {t : ℤ} (unit : t = -1074 ∨ (2 : ℚ) ^ 52 * 2 ^ t ≤ q)
    (close : |(r : ℚ) - q / 2 ^ t| ≤ 1 / 2) : Nearest r t q := by
  intro n f bits least
  have pos := two_zpow_pos t
  have scaled : ∀ y : ℚ, |y * 2 ^ t - q| = |y - q / 2 ^ t| * 2 ^ t := by
    intro y
    rw [← abs_of_pos pos, ← abs_mul, sub_mul, abs_of_pos pos, div_mul_cancel₀ _ pos.ne']
  have integer := nearest_integer (r := r) (by exact_mod_cast close)
  rcases le_or_gt t f with coarse | fine
  · have multiple : (n : ℚ) * 2 ^ f = ((n * 2 ^ (f - t).toNat : Nat) : ℤ) * 2 ^ t := by
      push_cast
      rw [mul_assoc, ← zpow_natCast, ← zpow_add₀ (by norm_num)]
      congr 2
      omega
    rw [multiple, scaled, scaled]
    exact mul_le_mul_of_nonneg_right (integer _) pos.le
  · have above : (2 : ℚ) ^ 52 * 2 ^ t ≤ q := unit.resolve_left (by omega)
    have below : (n : ℚ) * 2 ^ f ≤ 2 ^ 52 * 2 ^ t := by
      have count : (n : ℚ) ≤ 2 ^ 53 := by exact_mod_cast bits.le
      have power : (2 : ℚ) ^ f ≤ 2 ^ (t - 1) := zpow_le_zpow_right₀ (by norm_num) (by omega)
      calc (n : ℚ) * 2 ^ f ≤ 2 ^ 53 * 2 ^ (t - 1) :=
            mul_le_mul count power (two_zpow_pos f).le (by positivity)
        _ = 2 ^ 52 * 2 ^ t := by
            rw [zpow_sub₀ (by norm_num)]
            ring
    have edge := mul_le_mul_of_nonneg_right (integer (2 ^ 52)) pos.le
    push_cast at edge
    rw [← scaled, ← scaled] at edge
    refine edge.trans ?_
    rw [abs_sub_comm, abs_of_nonneg (by linarith), abs_sub_comm, abs_of_nonneg (by linarith)]
    linarith

def held (m : Nat) (e : Int) : Float.Model.UnpackedFloat :=
  if h : m = 0 then .zero .positive else .finite .positive m e (Nat.pos_of_ne_zero h)

theorem target_eq (m : Nat) (e : Int) :
    Format.binary64.targetExponent (totalExponent m e) = max (m.log2 + e - 52) (-1074) := by
  simp only [Format.targetExponent, totalExponent, Format.mantissaBits, Format.minExponent]
  norm_num
  omega

/-- After rounding the mantissa may have become 2^53; the second shift makes it canonical. -/
theorem second_shift {r : Nat} {t : Int} (bound : r ≤ 2 ^ 53) (least : -1074 ≤ t)
    (full : 2 ^ 52 ≤ r ∨ t = -1074) : ∃ m e, Canonical m e ∧ (m : ℚ) * 2 ^ e = r * 2 ^ t ∧
      (shiftToTargetExponent Format.binary64 r t .exact).1.mantissa = m ∧
      (shiftToTargetExponent Format.binary64 r t .exact).2 = e := by
  simp only [shiftToTargetExponent, target_eq, shiftToExponent]
  by_cases carry : r = 2 ^ 53
  · have shift : (max ((r.log2 : Int) + t - 52) (-1074) - t).toNat = 1 := by
      rw [carry, Nat.log2_two_pow]
      omega
    refine ⟨2 ^ 52, t + 1, ⟨by norm_num, by omega, .inl (le_refl _)⟩, ?_, ?_, ?_⟩
    · rw [carry, zpow_add₀ (by norm_num)]
      norm_num
      ring
    · rw [shift, carry]
      rfl
    · rw [shift]
      rfl
  · have small : r < 2 ^ 53 := by omega
    have log : r.log2 ≤ 52 := by
      by_cases zero : r = 0
      · simp [zero]
      · have := (Nat.log2_lt zero).mpr small
        omega
    have shift : (max ((r.log2 : Int) + t - 52) (-1074) - t).toNat = 0 := by omega
    refine ⟨r, t, ⟨small, least, full⟩, rfl, ?_, ?_⟩
    · rw [shift]
      rfl
    · rw [shift]
      simp

theorem round_nearest {m : Nat} {e : Int} {acc : Accuracy}
    (approx : Approximates (.ofMantissaAndAccuracy m acc) x)
    (fine : e ≤ -1074 ∨ 52 ≤ m.log2) : ∃ n f, Canonical n f ∧ Nearest n f (x * 2 ^ e) ∧
      roundWithAccuracy Format.binary64 .positive m e acc = held n f := by
  have floor := approximates_floor approx
  have mantissa : (ExtendedMantissa.ofMantissaAndAccuracy m acc).mantissa = m := by
    cases acc with
    | exact => rfl
    | inexact o => cases o <;> rfl
  rw [mantissa] at floor
  obtain ⟨t, target⟩ : ∃ t, max ((m.log2 : Int) + e - 52) (-1074) = t := ⟨_, rfl⟩
  obtain ⟨k, shift⟩ : ∃ k, (t - e).toNat = k := ⟨_, rfl⟩
  have le : e ≤ t := by omega
  have up : e + k = t := by omega
  have first : shiftToTargetExponent Format.binary64 m e acc =
      (ExtendedMantissa.ofMantissaAndAccuracy m acc >>> k, t) := by
    simp only [shiftToTargetExponent, target_eq, shiftToExponent, target, shift, up]
  have shifted := approximates_rounded (approximates_shift k approx)
  obtain ⟨r, rounded⟩ :
      ∃ r, (ExtendedMantissa.ofMantissaAndAccuracy m acc >>> k).roundedMantissa = r := ⟨_, rfl⟩
  rw [rounded] at shifted
  have near := abs_le.mp shifted
  have unitPos : (0 : ℚ) < 2 ^ k := by positivity
  have same : x * 2 ^ e / 2 ^ t = x / 2 ^ k := by
    rw [← up, zpow_add₀ (by norm_num), zpow_natCast]
    have := (two_zpow_pos e).ne'
    field_simp
  have top : x / 2 ^ k < 2 ^ 53 := by
    rw [div_lt_iff₀ unitPos]
    have log : m + 1 ≤ 2 ^ (m.log2 + 1) := Nat.lt_log2_self
    have power : 2 ^ (m.log2 + 1) ≤ 2 ^ (53 + k) := Nat.pow_le_pow_right (by norm_num) (by omega)
    have both : ((m + 1 : Nat) : ℚ) ≤ (2 ^ (53 + k) : Nat) := by exact_mod_cast log.trans power
    push_cast at both
    rw [pow_add] at both
    linarith
  have bound : r ≤ 2 ^ 53 := by
    have : (r : ℚ) < (2 ^ 53 + 1 : Nat) := by
      push_cast
      linarith
    have : r < 2 ^ 53 + 1 := by exact_mod_cast this
    omega
  have large : t ≠ -1074 → (2 : ℚ) ^ 52 ≤ x / 2 ^ k := by
    intro above
    have log : m.log2 = 52 + k := by omega
    have nonzero : m ≠ 0 := by
      intro zero
      rw [zero, Nat.log2_zero] at log
      omega
    have power : 2 ^ (52 + k) ≤ m := log ▸ Nat.log2_self_le nonzero
    have cast : ((2 ^ (52 + k) : Nat) : ℚ) ≤ m := by exact_mod_cast power
    push_cast at cast
    rw [pow_add] at cast
    rw [le_div_iff₀ unitPos]
    linarith
  have full : 2 ^ 52 ≤ r ∨ t = -1074 := by
    by_cases least : t = -1074
    · exact .inr least
    · have : ((2 ^ 52 : Nat) : ℚ) < (r + 1 : Nat) := by
        have := large least
        push_cast
        linarith
      have : 2 ^ 52 < r + 1 := by exact_mod_cast this
      exact .inl (by omega)
  obtain ⟨n, f, canonical, value, mant, exponent⟩ := second_shift bound (by omega) full
  refine ⟨n, f, canonical, ?_, ?_⟩
  · have grid : Nearest r t (x * 2 ^ e) := by
      refine nearest_of_grid ?_ (by rw [same]; exact shifted)
      by_cases least : t = -1074
      · exact .inl least
      · right
        have := (le_div_iff₀ (two_zpow_pos t)).mp (same ▸ large least)
        exact this
    intro i j bits low
    rw [value]
    exact grid i j bits low
  · simp only [roundWithAccuracy, first, rounded, mant, exponent]
    rfl

theorem mul_nearest {m n : Nat} {e f : Int} (hm : 0 < m) (hn : 0 < n) (wide : 52 ≤ (m * n).log2) :
    ∃ k g, Canonical k g ∧ Nearest k g (m * 2 ^ e * (n * 2 ^ f)) ∧
      UnpackedFloat.mul Format.binary64 (.finite .positive m e hm) (.finite .positive n f hn) =
        held k g := by
  obtain ⟨k, g, canonical, nearest, rounds⟩ :=
    round_nearest (e := e + f) (approximates_exact (m * n)) (.inr wide)
  refine ⟨k, g, canonical, ?_, rounds⟩
  have value : ((m * n : Nat) : ℚ) * 2 ^ (e + f) = m * 2 ^ e * (n * 2 ^ f) := by
    push_cast
    rw [zpow_add₀ (by norm_num)]
    ring
  rw [← value]
  exact nearest

theorem div_nearest {m n : Nat} {e f : Int} (hm : 0 < m) (hn : 0 < n) : ∃ k g,
    Canonical k g ∧ Nearest k g (m * 2 ^ e / (n * 2 ^ f)) ∧
      UnpackedFloat.div Format.binary64 (.finite .positive m e hm) (.finite .positive n f hn) =
        held k g := by
  obtain ⟨t, target⟩ : ∃ t, min (e - f) (Format.binary64.targetExponent
    (totalExponent m e - totalExponent n f)) = t := ⟨_, rfl⟩
  obtain ⟨s, shift⟩ : ∃ s, (e - f - t).toNat = s := ⟨_, rfl⟩
  have lower : t = e - f - s := by omega
  have quotient := approximates_quotient (m <<< s) hn
  have fine : t ≤ -1074 ∨ 52 ≤ (m <<< s / n).log2 := by
    by_cases least : t ≤ -1074
    · exact .inl least
    · right
      have enough : n.log2 + 53 ≤ m.log2 + s := by
        simp only [Format.targetExponent, totalExponent, Format.mantissaBits,
          Format.minExponent] at target
        norm_num at target
        omega
      have some : 2 ^ 52 ≤ m <<< s / n := by
        rw [Nat.le_div_iff_mul_le hn, Nat.shiftLeft_eq]
        calc 2 ^ 52 * n ≤ 2 ^ 52 * 2 ^ (n.log2 + 1) :=
              Nat.mul_le_mul_left _ Nat.lt_log2_self.le
          _ = 2 ^ (n.log2 + 53) := by ring
          _ ≤ 2 ^ (m.log2 + s) := Nat.pow_le_pow_right (by norm_num) enough
          _ = 2 ^ m.log2 * 2 ^ s := pow_add _ _ _
          _ ≤ m * 2 ^ s := Nat.mul_le_mul_right _ (Nat.log2_self_le hm.ne')
      exact (Nat.le_log2 (by omega)).mpr some
  obtain ⟨k, g, canonical, nearest, rounds⟩ := round_nearest quotient fine
  refine ⟨k, g, canonical, ?_, ?_⟩
  · have value : ((m <<< s : Nat) : ℚ) / n * 2 ^ t = m * 2 ^ e / (n * 2 ^ f) := by
      have := (two_zpow_pos f).ne'
      have : (n : ℚ) ≠ 0 := by exact_mod_cast hn.ne'
      rw [lower, Nat.shiftLeft_eq, zpow_sub₀ (by norm_num), zpow_sub₀ (by norm_num), zpow_natCast]
      push_cast
      field_simp
    rw [← value]
    exact nearest
  · simp only [UnpackedFloat.div, divCore, target, shift]
    exact rounds

end ScopedFormula
