import ScopedFormula.Proofs.Number.Comparing
import ScopedFormula.Proofs.Number.Decimal

/- The float nearest to an integer. Rounding keeps the order of integers, and loses nothing up to
   2^53. -/
namespace ScopedFormula
open Float.Model Float.Model.UnpackedFloat

variable {m n k : Nat} {e f : Int} {q r : ℚ} {u : Float.Model.UnpackedFloat} {x : Float}
  {a b : Int64}

/-- Nearest floats stand in the order of the numbers: were it the other way round, each number would
    lie on the far side of the middle between the two floats. -/
theorem nearest_mono (c : Canonical m e) (d : Canonical n f) (left : Nearest m e q)
    (right : Nearest n f r) (less : q < r) : (m : ℚ) * 2 ^ e ≤ n * 2 ^ f := by
  by_contra above
  have first := left n f d.bits d.least
  have second := right m e c.bits c.least
  generalize (m : ℚ) * 2 ^ e = x at *
  generalize (n : ℚ) * 2 ^ f = y at *
  rw [not_le] at above
  have high : x + y ≤ 2 * q := by
    rcases abs_cases (x - q) with a | a <;> rcases abs_cases (y - q) with b | b <;> linarith
  have low : 2 * r ≤ x + y := by
    rcases abs_cases (x - r) with a | a <;> rcases abs_cases (y - r) with b | b <;> linarith
  linarith

theorem unpack_one : Float.exactlyRepresentablePowersOfTen[0].toModel.unpack =
    .finite .positive (2 ^ 52) (-52) (by norm_num) := rfl

theorem ofNat_product {n : Nat} (bits : n < 2 ^ 53) : Float.ofNat n =
    packed (UnpackedFloat.mul Format.binary64 (Float.Model.ofNat n).unpack
      (.finite .positive (2 ^ 52) (-52) (by norm_num))) := by
  have size : n.toUInt64.toNat = n := by
    rw [Nat.toUInt64_eq, UInt64.toNat_ofNat']
    omega
  have whole : n.toUInt64.toFloat = .ofModel (.ofNat n) := by
    rw [UInt64.toFloat, Float.Model.ofUInt64, UnpackedFloat.ofUInt64, size, Float.Model.ofNat]
  change Float.ofScientific n false 0 = _
  rw [Float.ofScientific, dif_pos ⟨bits, by decide⟩]
  change n.toUInt64.toFloat * Float.exactlyRepresentablePowersOfTen[0] = _
  rw [whole, ← unpack_one]
  rfl

theorem ofNat_rounds (n : Nat) : Rounds (Float.ofNat n) n := by
  rcases Nat.lt_or_ge n (2 ^ 53) with bits | large
  · rcases Nat.eq_zero_or_pos n with rfl | pos
    · rw [Nat.cast_zero]
      exact rounds_zero
    · obtain ⟨m₁, e₁, pos₁, value, unpack⟩ := ofNat_exact pos bits
      have wide : 52 ≤ (m₁ * 2 ^ 52).log2 := by
        refine (Nat.le_log2 (by positivity)).mpr ?_
        exact Nat.le_mul_of_pos_left _ pos₁
      obtain ⟨m, e, canonical, near, result⟩ :=
        mul_nearest (e := e₁) (f := -52) pos₁ (show 0 < 2 ^ 52 by norm_num) wide
      have one : ((2 ^ 52 : Nat) : ℚ) * 2 ^ (-52 : ℤ) = 1 := by norm_num
      rw [value, one, mul_one] at near
      refine ⟨m, e, canonical, near, ?_⟩
      rw [ofNat_product bits, unpack, result]
  · have slow : ¬ (n < 2 ^ 53 ∧ 0 ≤ 22) := by omega
    have same : Float.ofNat n = Float.ofScientific n true 0 := by
      change Float.ofScientific n false 0 = _
      rw [Float.ofScientific, Float.ofScientific, dif_neg slow, dif_neg slow]
      rfl
    have rounds := ofScientific_rounds n 0
    rwa [← same, pow_zero, div_one] at rounds

theorem rounds_number (h : Rounds x q) (small : 2 * q < infinite) (least : 0 ≤ q) :
    ∃ m e, Canonical m e ∧ Nearest m e q ∧ x.isNaN = false ∧ floatNumber x = m * 2 ^ e := by
  obtain ⟨m, e, c, near, rfl⟩ := h
  have range : e ≤ 971 := by
    by_contra large
    have zero := near 0 (-1074) (by norm_num) (le_refl _)
    have full : ((2 ^ 52 : Nat) : ℚ) ≤ m := by exact_mod_cast c.full.resolve_right (by omega)
    have high : infinite ≤ m * 2 ^ e :=
      mul_le_mul full (zpow_le_zpow_right₀ (by norm_num) (by omega)) (two_zpow_pos _).le
        (by positivity)
    generalize (m : ℚ) * 2 ^ e = y at *
    rw [Nat.cast_zero, zero_mul, zero_sub, abs_neg, abs_of_nonneg least] at zero
    linarith [(abs_le.mp zero).2]
  have unpack : (packed (held m e)).toModel.unpack = held m e := unpack_held c range
  refine ⟨m, e, c, near, ?_, ?_⟩
  · change (packed (held m e)).toModel.unpack.isNaN = false
    rw [unpack, held]
    split <;> rfl
  · rw [floatNumber, unpack, held]
    split
    · rename_i zero
      rw [zero, Nat.cast_zero, zero_mul]
      rfl
    · rfl

theorem unpack_pack_valued (hu : Valued u) : (Float.Model.pack u).unpack = u := by
  cases hu with
  | infinity s => cases s <;> rfl
  | zero s => cases s <;> rfl
  | finite s pos c range => exact unpack_pack c range

theorem valued_neg (hu : Valued u) : Valued u.neg := by
  cases hu with
  | infinity s => exact .infinity _
  | zero s => exact .zero _
  | finite s pos c range => exact .finite _ pos c range

theorem toward_neg (s : Sign) (q : ℚ) : toward (-s) q = -toward s q := by
  cases s with
  | positive => rfl
  | negative => exact (neg_neg q).symm

theorem number_neg (u : Float.Model.UnpackedFloat) : number u.neg = -number u := by
  cases u with
  | infinity s => exact toward_neg s infinite
  | finite s m e => exact toward_neg s (m * 2 ^ e)
  | zero | notANumber => exact neg_zero.symm

theorem unpack_negated (known : x.isNaN = false) :
    x.neg.toModel.unpack = x.toModel.unpack.neg :=
  unpack_pack_valued (valued_neg (valued_of_known known))

theorem valued_isNaN (hu : Valued u) : u.isNaN = false := by
  cases hu <;> rfl

theorem isNaN_neg (known : x.isNaN = false) : x.neg.isNaN = false := by
  change x.neg.toModel.unpack.isNaN = false
  rw [unpack_negated known]
  exact valued_isNaN (valued_neg (valued_of_known known))

theorem floatNumber_neg (known : x.isNaN = false) : floatNumber x.neg = -floatNumber x := by
  rw [floatNumber, unpack_negated known, number_neg]
  rfl

theorem ofNat_number (small : n ≤ 2 ^ 63) : ∃ m e, Canonical m e ∧ Nearest m e n ∧
    (Float.ofNat n).isNaN = false ∧ floatNumber (Float.ofNat n) = m * 2 ^ e := by
  refine rounds_number (ofNat_rounds n) ?_ (Nat.cast_nonneg n)
  have bound : (n : ℚ) ≤ (2 ^ 63 : Nat) := by exact_mod_cast small
  have unit : (2 : ℚ) ^ (13 : ℤ) ≤ 2 ^ (972 : ℤ) := zpow_le_zpow_right₀ (by norm_num) (by norm_num)
  calc 2 * (n : ℚ) ≤ 2 * (2 ^ 63 : Nat) := by linarith
    _ < (2 ^ 52 : Nat) * 2 ^ (13 : ℤ) := by norm_num
    _ ≤ infinite := mul_le_mul_of_nonneg_left unit (by positivity)

theorem ofNat_nonneg (small : n ≤ 2 ^ 63) : 0 ≤ floatNumber (Float.ofNat n) := by
  obtain ⟨m, e, -, -, -, value⟩ := ofNat_number small
  rw [value]
  exact mul_nonneg (Nat.cast_nonneg m) (two_zpow_pos e).le

theorem ofNat_mono (le : k ≤ n) (small : n ≤ 2 ^ 63) :
    floatNumber (Float.ofNat k) ≤ floatNumber (Float.ofNat n) := by
  rcases Nat.eq_or_lt_of_le le with rfl | less
  · exact le_refl _
  · obtain ⟨m, e, c, near, -, value⟩ := ofNat_number (le.trans small)
    obtain ⟨m', e', c', near', -, value'⟩ := ofNat_number small
    rw [value, value']
    exact nearest_mono c c' near near' (by exact_mod_cast less)

theorem ofNat_number_exact (small : n ≤ 2 ^ 53) : floatNumber (Float.ofNat n) = n := by
  obtain ⟨m, e, -, near, -, value⟩ := ofNat_number (small.trans (by norm_num))
  rw [value]
  rcases Nat.eq_or_lt_of_le small with rfl | bits
  · have even : ((2 ^ 53 : Nat) : ℚ) = (2 ^ 52 : Nat) * 2 ^ (1 : ℤ) := by norm_num
    rw [even] at near ⊢
    exact nearest_exact near (by norm_num) (by norm_num)
  · have whole : (n : ℚ) = n * 2 ^ (0 : ℤ) := by norm_num
    rw [whole] at near ⊢
    exact nearest_exact near bits (by norm_num)

theorem ofNat_isNaN (small : n ≤ 2 ^ 63) : (Float.ofNat n).isNaN = false := by
  obtain ⟨m, e, -, -, known, -⟩ := ofNat_number small
  exact known

theorem nearestFloat_sign (a : Int64) : ∃ n : Nat, n ≤ 2 ^ 63 ∧
    (a.toInt = n ∧ nearestFloat a = Float.ofNat n ∨
      a.toInt = -n ∧ nearestFloat a = (Float.ofNat n).neg) := by
  have low := a.le_toInt
  have high := a.toInt_lt
  unfold nearestFloat
  revert low high
  rcases a.toInt with n | n <;> intro low high
  · rw [Int.ofNat_eq_natCast] at high
    exact ⟨n, by omega, .inl ⟨rfl, rfl⟩⟩
  · exact ⟨n + 1, by omega, .inr ⟨rfl, rfl⟩⟩

theorem nearestFloat_known (a : Int64) : (nearestFloat a).isNaN = false := by
  obtain ⟨n, small, ⟨-, same⟩ | ⟨-, same⟩⟩ := nearestFloat_sign a
  · rw [same]
    exact ofNat_isNaN small
  · rw [same]
    exact isNaN_neg (ofNat_isNaN small)

theorem nearestFloat_number (a : Int64) : ∃ n : Nat, n ≤ 2 ^ 63 ∧
    (a.toInt = n ∧ floatNumber (nearestFloat a) = floatNumber (Float.ofNat n) ∨
      a.toInt = -n ∧ floatNumber (nearestFloat a) = -floatNumber (Float.ofNat n)) := by
  obtain ⟨n, small, ⟨whole, same⟩ | ⟨whole, same⟩⟩ := nearestFloat_sign a
  · exact ⟨n, small, .inl ⟨whole, congrArg floatNumber same⟩⟩
  · refine ⟨n, small, .inr ⟨whole, ?_⟩⟩
    rw [same, floatNumber_neg (ofNat_isNaN small)]

theorem nearestFloat_mono (le : a.toInt ≤ b.toInt) :
    floatNumber (nearestFloat a) ≤ floatNumber (nearestFloat b) := by
  obtain ⟨m, smallA, signA⟩ := nearestFloat_number a
  obtain ⟨n, smallB, signB⟩ := nearestFloat_number b
  have left := ofNat_nonneg smallA
  have right := ofNat_nonneg smallB
  rcases signA with ⟨whole, value⟩ | ⟨whole, value⟩ <;>
    rcases signB with ⟨whole', value'⟩ | ⟨whole', value'⟩ <;> rw [value, value']
  · exact ofNat_mono (by omega) smallB
  · obtain ⟨rfl, rfl⟩ : m = 0 ∧ n = 0 := by omega
    rw [ofNat_number_exact (Nat.zero_le _), Nat.cast_zero, neg_zero]
  · linarith
  · exact neg_le_neg (ofNat_mono (by omega) smallA)

theorem nearestFloat_exact (small : a.toInt.natAbs ≤ 2 ^ 53) :
    floatNumber (nearestFloat a) = a.toInt := by
  obtain ⟨n, -, ⟨whole, value⟩ | ⟨whole, value⟩⟩ := nearestFloat_number a
  · rw [value, ofNat_number_exact (by omega), whole, Int.cast_natCast]
  · rw [value, ofNat_number_exact (by omega), whole, Int.cast_neg, Int.cast_natCast]

end ScopedFormula
