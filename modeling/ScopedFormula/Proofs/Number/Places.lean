import ScopedFormula.Proofs.Number.Decimal

/- Floats printed with decimal places, read back, print the same: the float read lies no farther
   from the digits than the one printed, and a half is rounded to the same even neighbour. -/
namespace ScopedFormula

/-- The nearest integer, and of two the even one. -/
def NearestEven (d : Nat) (x : ℚ) : Prop :=
  |(d : ℚ) - x| ≤ 1 / 2 ∧ (|(d : ℚ) - x| = 1 / 2 → d % 2 = 0)

theorem nearestEven_unique {c d : Nat} {x : ℚ} (hc : NearestEven c x) (hd : NearestEven d x) :
    c = d := by
  by_contra other
  have apart : (1 : ℚ) ≤ |(c : ℚ) - d| := by
    have : (1 : ℤ) ≤ |(c : ℤ) - d| := Int.one_le_abs (by omega)
    exact_mod_cast this
  have triangle := abs_sub_le (c : ℚ) x d
  rw [abs_sub_comm x] at triangle
  have evenC := hc.2 (by linarith [hc.1, hd.1])
  have evenD := hd.2 (by linarith [hc.1, hd.1])
  have short : |(c : ℚ) - d| ≤ 1 := by linarith [hc.1, hd.1]
  have : |(c : ℤ) - d| ≤ 1 := by exact_mod_cast short
  rw [abs_le] at this
  omega

theorem roundEven_nearest (num : Nat) {den : Nat} (positive : 0 < den) :
    NearestEven (roundEven num den) (num / den) := by
  have pos : (0 : ℚ) < den := by exact_mod_cast positive
  have scaled : ∀ d : Nat, (d : ℚ) - num / den = (d * den - num) / den := by
    intro d
    field_simp
  obtain ⟨above, below⟩ := @roundEven_near num den positive
  have above' : 2 * ((roundEven num den : ℚ) * den) ≤ 2 * num + den := by exact_mod_cast above
  have below' : (2 : ℚ) * num ≤ 2 * (roundEven num den * den) + den := by exact_mod_cast below
  constructor
  · rw [scaled, abs_div, abs_of_pos pos, div_le_iff₀ pos, abs_le]
    constructor <;> linarith
  · intro tie
    rw [scaled, abs_div, abs_of_pos pos, div_eq_div_iff pos.ne' (by norm_num)] at tie
    have whole : |((roundEven num den * den : Nat) : ℤ) - num| * 2 = den := by
      have : |((roundEven num den * den : Nat) : ℚ) - num| * 2 = den := by
        push_cast
        linarith
      exact_mod_cast this
    have split := Nat.div_add_mod' num den
    have small := Nat.mod_lt num positive
    by_cases down : 2 * (num % den) < den ∨ 2 * (num % den) = den ∧ num / den % 2 = 0
    · have value : roundEven num den = num / den := if_pos down
      rw [value, abs_of_nonpos (by omega)] at whole
      rw [value]
      omega
    · have value : roundEven num den = num / den + 1 := if_neg down
      rw [value, Nat.add_mul, abs_of_nonneg (by omega)] at whole
      rw [value]
      omega

theorem places_value (m : Nat) (e : Int) (p : Nat) :
    ((m * 2 ^ e.toNat * 10 ^ p : Nat) : ℚ) / (2 ^ (-e).toNat : Nat) = m * 2 ^ e * 10 ^ p := by
  push_cast
  rcases le_or_gt 0 e with up | down
  · obtain ⟨n, rfl⟩ := Int.eq_ofNat_of_zero_le up
    simp
  · obtain ⟨n, hn⟩ := Int.eq_ofNat_of_zero_le (show 0 ≤ -e by omega)
    have : e = -(n : ℤ) := by omega
    subst this
    simp only [Int.toNat_neg_natCast, pow_zero, mul_one, neg_neg, Int.toNat_natCast, zpow_neg,
      zpow_natCast]
    field_simp

theorem places_nearest (s : Bool) (m : Nat) (e : Int) (p : Nat) :
    NearestEven ((Binary.mk s m e).places p) (m * 2 ^ e * 10 ^ p) := by
  have near := roundEven_nearest (m * 2 ^ e.toNat * 10 ^ p) (Nat.two_pow_pos (-e).toNat)
  rw [places_value] at near
  rwa [Binary.places, Nat.shiftLeft_eq, Nat.one_shiftLeft]

variable {m n : Nat} {e f : Int} {p : Nat}

theorem nearest_finite (bits : m < 2 ^ 53) (range : e ≤ 971) (c : Canonical n f)
    (close : |(n : ℚ) * 2 ^ f - m * 2 ^ e| ≤ 1) : f ≤ 971 := by
  by_contra large
  have full : ((2 ^ 52 : Nat) : ℚ) ≤ n := by exact_mod_cast c.full.resolve_right (by omega)
  have small : (m : ℚ) ≤ (2 ^ 53 - 1 : Nat) := by exact_mod_cast (show m ≤ 2 ^ 53 - 1 by omega)
  have up : (2 : ℚ) ^ (972 : ℤ) ≤ 2 ^ f := zpow_le_zpow_right₀ (by norm_num) (by omega)
  have down : (2 : ℚ) ^ e ≤ 2 ^ (971 : ℤ) := zpow_le_zpow_right₀ (by norm_num) range
  have double : (2 : ℚ) ^ (972 : ℤ) = 2 ^ (971 : ℤ) * 2 := zpow_add_one₀ (by norm_num) 971
  have unit : (1 : ℚ) < 2 ^ (971 : ℤ) := one_lt_zpow₀ (by norm_num) (by norm_num)
  have high : ((2 ^ 52 : Nat) : ℚ) * 2 ^ (972 : ℤ) ≤ n * 2 ^ f :=
    mul_le_mul full up (two_zpow_pos _).le (by positivity)
  have low : (m : ℚ) * 2 ^ e ≤ (2 ^ 53 - 1 : Nat) * 2 ^ (971 : ℤ) :=
    mul_le_mul small down (two_zpow_pos _).le (by positivity)
  have apart := (abs_le.mp close).2
  rw [double] at high
  generalize (2 : ℚ) ^ (971 : ℤ) = u at *
  generalize (n : ℚ) * 2 ^ f = y at *
  generalize (m : ℚ) * 2 ^ e = x at *
  norm_num at high low
  linarith only [high, low, apart, unit]

/-- Rounding a float to decimal places and back to a float keeps the decimal places. -/
theorem places_stable (c : Canonical m e) (range : e ≤ 971) (s : Bool) : ∃ n f, Canonical n f ∧
    f ≤ 971 ∧ Float.ofScientific ((Binary.mk s m e).places p) true p = packed (held n f) ∧
      (Binary.mk false n f).places p = (Binary.mk s m e).places p := by
  obtain ⟨d, digits⟩ : ∃ d, (Binary.mk s m e).places p = d := ⟨_, rfl⟩
  rw [digits]
  obtain ⟨n, f, canonical, nearest, same⟩ := ofScientific_rounds d p
  obtain ⟨half, even⟩ := digits ▸ places_nearest s m e p
  have pos : (0 : ℚ) < 10 ^ p := by positivity
  have scaled : ∀ y : ℚ, |(d : ℚ) - y * 10 ^ p| = |y - d / 10 ^ p| * 10 ^ p := by
    intro y
    rw [abs_sub_comm, ← abs_of_pos pos, ← abs_mul, sub_mul, abs_of_pos pos,
      div_mul_cancel₀ _ pos.ne']
  have nearer : |(d : ℚ) - n * 2 ^ f * 10 ^ p| ≤ |(d : ℚ) - m * 2 ^ e * 10 ^ p| := by
    rw [scaled, scaled]
    exact mul_le_mul_of_nonneg_right (nearest m e c.bits c.least) pos.le
  have close : |(n : ℚ) * 2 ^ f - m * 2 ^ e| ≤ 1 := by
    have grow : (1 : ℚ) ≤ 10 ^ p := one_le_pow₀ (by norm_num)
    have scale : |(n : ℚ) * 2 ^ f - m * 2 ^ e| * 10 ^ p ≤ 1 := by
      rw [← abs_of_pos pos, ← abs_mul, sub_mul]
      have triangle := abs_sub_le ((n : ℚ) * 2 ^ f * 10 ^ p) d (m * 2 ^ e * 10 ^ p)
      rw [abs_sub_comm _ (d : ℚ)] at triangle
      linarith
    exact (le_mul_of_one_le_right (abs_nonneg _) grow).trans scale
  refine ⟨n, f, canonical, nearest_finite c.bits range canonical close, same, ?_⟩
  refine nearestEven_unique (places_nearest false n f p) ⟨nearer.trans half, ?_⟩
  intro tie
  exact even (le_antisymm half (tie ▸ nearer))

def Measured (x : Float) : Prop :=
  ∃ m e, Canonical m e ∧ e ≤ 971 ∧ Binary.ofFloat? x = some ⟨false, m, e⟩

theorem readFloat_measured (w f : List Char) : Measured (readFloat w f) ∨
    Binary.ofFloat? (readFloat w f) = none ∧ specialText (readFloat w f) = "inf" := by
  obtain ⟨m, e, canonical, -, same⟩ := ofScientific_rounds (digitsValue (w ++ f)) f.length
  rw [readFloat, same]
  rcases le_or_gt e 971 with range | large
  · exact .inl ⟨m, e, canonical, range, ofFloat_held canonical range⟩
  · rw [packed_large canonical large]
    exact .inr infinity_text.symm

theorem digitsValue_zeros (n : Nat) (ds : List Char) :
    digitsValue (zeros n ++ ds) = digitsValue ds := by
  induction n with
  | zero => rfl
  | succ n ih => exact ih

theorem digitsValue_toDigits (n : Nat) : digitsValue (Nat.toDigits 10 n) = n := by
  have value := Nat.ofDigitChars_ten_toDigits (n := n)
  rw [Nat.ofDigitChars_eq_foldl] at value
  exact value

theorem placePoint_digits (p n : Nat) : ∃ w f, placePoint p (Nat.toDigits 10 n) = w ++ '.' :: f ∧
    w ≠ [] ∧ (∀ c ∈ w, c.isDigit) ∧ (∀ c ∈ f, c.isDigit) ∧ f.length = p ∧
      digitsValue (w ++ f) = n := by
  obtain ⟨ds, digits⟩ : ∃ ds, Nat.toDigits 10 n = ds := ⟨_, rfl⟩
  obtain ⟨all, padded⟩ : ∃ all, zeros (p + 1 - ds.length) ++ ds = all := ⟨_, rfl⟩
  have long : p < all.length := by
    rw [← padded, List.length_append, zeros, List.length_replicate]
    omega
  have plain : ∀ c ∈ all, c.isDigit := by
    intro c mem
    rw [← padded] at mem
    rcases List.mem_append.mp mem with zero | digit
    · rw [List.eq_of_mem_replicate zero]
      rfl
    · exact Nat.isDigit_of_mem_toDigits (b := 10) (by norm_num) (by norm_num) (digits ▸ digit)
  refine ⟨all.take (all.length - p), all.drop (all.length - p), ?_, ?_, ?_, ?_, ?_, ?_⟩
  · simp only [placePoint, digits, padded]
  · refine List.ne_nil_of_length_pos ?_
    rw [List.length_take]
    omega
  · exact fun c mem => plain c (List.mem_of_mem_take mem)
  · exact fun c mem => plain c (List.mem_of_mem_drop mem)
  · rw [List.length_drop]
    omega
  · rw [List.take_append_drop, ← padded, digitsValue_zeros, ← digits, digitsValue_toDigits]

theorem placesText_measured {x : Float} (value : Binary.ofFloat? x = some ⟨false, m, e⟩) :
    (placesText p x).toList = placePoint p (Nat.toDigits 10 ((Binary.mk false m e).places p)) := by
  simp only [placesText, value, signed, Bool.false_eq_true, ↓reduceIte, String.toList_ofList]

theorem placesText_reads {x : Float} (finite : Measured x) : ∃ b w f,
    Binary.ofFloat? x = some b ∧ (placesText p x).toList = w ++ '.' :: f ∧ w ≠ [] ∧
      (∀ c ∈ w, c.isDigit) ∧ (∀ c ∈ f, c.isDigit) ∧
        readFloat w f = Float.ofScientific (b.places p) true p ∧
          placesText p (readFloat w f) = placesText p x := by
  obtain ⟨m, e, canonical, range, value⟩ := finite
  obtain ⟨w, f, text, present, whole, fraction, length, digits⟩ :=
    placePoint_digits p ((Binary.mk false m e).places p)
  obtain ⟨n, g, canonical', range', same, stable⟩ := places_stable canonical range false
  have reads : readFloat w f = Float.ofScientific ((Binary.mk false m e).places p) true p := by
    rw [readFloat, digits, length]
  have value' := ofFloat_held canonical' range'
  refine ⟨_, w, f, value, ?_, present, whole, fraction, reads, ?_⟩
  · rw [placesText_measured value, text]
  · rw [reads, same, String.ext_iff, placesText_measured value, placesText_measured value', stable]

end ScopedFormula
