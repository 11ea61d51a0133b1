import ScopedFormula.Number.Decimal
import ScopedFormula.Number.Places
import ScopedFormula.Proofs.Number.Packing

/- Digits with a point are read as a nearest float. Hence a float printed with six places, read
   back, prints the same: the float read lies no farther from the digits than the one printed,
   and a half is rounded to the same even neighbour. -/
namespace ScopedFormula
open Float.Model Float.Model.UnpackedFloat

def Rounds (x : Float) (q : ℚ) : Prop :=
  ∃ m e, Canonical m e ∧ Nearest m e q ∧ x = packed (held m e)

theorem canonical_zero : Canonical 0 (-1074) := ⟨by norm_num, by norm_num, .inr rfl⟩

theorem rounds_zero : Rounds (packed (.zero .positive)) 0 := by
  refine ⟨0, -1074, canonical_zero, ?_, rfl⟩
  intro n f bits least
  simp only [Nat.cast_zero, zero_mul, sub_zero, abs_zero]
  exact abs_nonneg _

theorem rounds_tiny {q : ℚ} (positive : 0 ≤ q) (tiny : 2 * q ≤ 2 ^ (-1074 : ℤ)) :
    Rounds (packed (.zero .positive)) q := by
  refine ⟨0, -1074, canonical_zero, ?_, rfl⟩
  intro n f bits least
  rw [Nat.cast_zero, zero_mul, zero_sub, abs_neg, abs_of_nonneg positive]
  rcases Nat.eq_zero_or_pos n with rfl | some
  · rw [Nat.cast_zero, zero_mul, zero_sub, abs_neg, abs_of_nonneg positive]
  · have power : (2 : ℚ) ^ (-1074 : ℤ) ≤ 2 ^ f := zpow_le_zpow_right₀ (by norm_num) least
    have one : (1 : ℚ) ≤ n := by exact_mod_cast some
    have grow : (2 : ℚ) ^ f ≤ n * 2 ^ f := le_mul_of_one_le_left (two_zpow_pos f).le one
    rw [abs_of_nonneg (by linarith)]
    linarith

theorem nearest_exact {m n : Nat} {e f : Int} (near : Nearest m e (n * 2 ^ f))
    (bits : n < 2 ^ 53) (least : -1074 ≤ f) : (m : ℚ) * 2 ^ e = n * 2 ^ f := by
  have zero := near n f bits least
  rw [sub_self, abs_zero] at zero
  linarith [abs_nonpos_iff.mp zero]

theorem filled {n : Nat} (pos : 0 < n) (bits : n < 2 ^ 53) :
    2 ^ 52 ≤ n * 2 ^ (52 - n.log2) ∧ n * 2 ^ (52 - n.log2) < 2 ^ 53 := by
  have log : n.log2 ≤ 52 := by
    have := (Nat.log2_lt pos.ne').mpr bits
    omega
  constructor
  · calc 2 ^ 52 = 2 ^ n.log2 * 2 ^ (52 - n.log2) := by rw [← pow_add]; congr 1; omega
      _ ≤ n * 2 ^ (52 - n.log2) := Nat.mul_le_mul_right _ (Nat.log2_self_le pos.ne')
  · calc n * 2 ^ (52 - n.log2) < 2 ^ (n.log2 + 1) * 2 ^ (52 - n.log2) :=
          Nat.mul_lt_mul_of_pos_right Nat.lt_log2_self (by positivity)
      _ = 2 ^ 53 := by rw [← pow_add]; congr 1; omega

theorem ofNat_exact {n : Nat} (pos : 0 < n) (bits : n < 2 ^ 53) :
    ∃ (m : Nat) (e : Int) (h : 0 < m), (m : ℚ) * 2 ^ e = n ∧
      (Float.Model.ofNat n).unpack = .finite .positive m e h := by
  have log : n.log2 ≤ 52 := by
    have := (Nat.log2_lt pos.ne').mpr bits
    omega
  obtain ⟨s, shift⟩ : ∃ s, 52 - n.log2 = s := ⟨_, rfl⟩
  obtain ⟨low, high⟩ := filled pos bits
  rw [shift] at low high
  have value : ((n * 2 ^ s : Nat) : ℚ) * 2 ^ (-(s : Int)) = n := by
    push_cast
    rw [mul_assoc, ← zpow_natCast, ← zpow_add₀ (by norm_num)]
    simp
  obtain ⟨m, e, canonical, near, rounds⟩ := round_nearest (e := -(s : Int))
    (approximates_exact (n * 2 ^ s)) (.inr (log2_full low high).ge)
  have same : (m : ℚ) * 2 ^ e = n := (nearest_exact near high (by omega)).trans value
  have some : m ≠ 0 := by
    rintro rfl
    rw [Nat.cast_zero, zero_mul] at same
    have : (0 : ℚ) < n := by exact_mod_cast pos
    linarith
  have range : e ≤ 971 := by
    by_contra large
    have full : 2 ^ 52 ≤ m := canonical.full.resolve_right (by omega)
    have two : (2 : ℚ) ^ (1 : ℤ) ≤ 2 ^ e := zpow_le_zpow_right₀ (by norm_num) (by omega)
    have count : ((2 ^ 52 : Nat) : ℚ) ≤ m := by exact_mod_cast full
    have small : (n : ℚ) < (2 ^ 53 : Nat) := by exact_mod_cast bits
    have product : ((2 ^ 52 : Nat) : ℚ) * 2 ^ (1 : ℤ) ≤ m * 2 ^ e :=
      mul_le_mul count two (by positivity) (by positivity)
    have double : ((2 ^ 52 : Nat) : ℚ) * 2 ^ (1 : ℤ) = (2 ^ 53 : Nat) := by norm_num
    linarith
  refine ⟨m, e, Nat.pos_of_ne_zero some, same, ?_⟩
  have target : Format.binary64.targetExponent (totalExponent n 0) = -(s : Int) := by
    rw [target_eq]
    omega
  have model : Float.Model.ofNat n = .pack (held m e) := by
    rw [Float.Model.ofNat, UnpackedFloat.ofNat, UnpackedFloat.ofInt, UnpackedFloat.normalize,
      Int.compare_eq_gt.mpr (by omega)]
    simp only [UnpackedFloat.round, Int.toNat_natCast, target, decreaseExponent]
    have amount : (0 - -(s : Int)).toNat = s := by omega
    rw [amount, Nat.shiftLeft_eq, zero_sub, rounds]
  rw [model, unpack_held canonical range, held, dif_neg some]

theorem power_held : ∀ k : Fin Float.exactlyRepresentablePowersOfTen.size,
    Float.exactlyRepresentablePowersOfTen[k] =
      packed (held (5 ^ k.val * 2 ^ (52 - (5 ^ k.val).log2))
        (k.val - (52 - (5 ^ k.val).log2 : Nat))) := by
  decide +kernel

theorem power_exact {k : Nat} (small : k < Float.exactlyRepresentablePowersOfTen.size) :
    ∃ (m : Nat) (e : Int) (h : 0 < m), (m : ℚ) * 2 ^ e = 10 ^ k ∧
      Float.exactlyRepresentablePowersOfTen[k].toModel.unpack = .finite .positive m e h := by
  have size : Float.exactlyRepresentablePowersOfTen.size = 23 := rfl
  have pos : 0 < 5 ^ k := by positivity
  have bits : 5 ^ k < 2 ^ 53 := by
    calc 5 ^ k ≤ 5 ^ 22 := Nat.pow_le_pow_right (by norm_num) (by omega)
      _ < 2 ^ 53 := by norm_num
  obtain ⟨low, high⟩ := filled pos bits
  have shifted : 0 < 5 ^ k * 2 ^ (52 - (5 ^ k).log2) := by positivity
  refine ⟨5 ^ k * 2 ^ (52 - (5 ^ k).log2), (k : Int) - (52 - (5 ^ k).log2 : Nat), shifted, ?_, ?_⟩
  · push_cast
    rw [zpow_sub₀ (by norm_num), zpow_natCast, zpow_natCast]
    have : (2 : ℚ) ^ (52 - (5 ^ k).log2) ≠ 0 := by positivity
    field_simp
    rw [← mul_pow]
    norm_num
  · have canonical : Canonical (5 ^ k * 2 ^ (52 - (5 ^ k).log2))
        (k - (52 - (5 ^ k).log2 : Nat)) := ⟨high, by omega, .inl low⟩
    have entry := unpack_held canonical (by omega)
    rw [held, dif_neg shifted.ne'] at entry
    have power := power_held ⟨k, small⟩
    rw [held, dif_neg shifted.ne'] at power
    rw [Fin.getElem_fin] at power
    rw [power]
    exact entry

theorem tiny_of_places {n k : Nat} (far : 2048 + n.log2 < k) :
    2 * ((n : ℚ) / 10 ^ k) ≤ 2 ^ (-1074 : ℤ) := by
  have small : 2 * n * 2 ^ 1074 ≤ 10 ^ k := by
    calc 2 * n * 2 ^ 1074 ≤ 2 * 2 ^ (n.log2 + 1) * 2 ^ 1074 :=
          Nat.mul_le_mul_right _ (Nat.mul_le_mul_left _ Nat.lt_log2_self.le)
      _ = 2 ^ (1 + (n.log2 + 1) + 1074) := by
          rw [Nat.pow_add 2 (1 + (n.log2 + 1)) 1074, Nat.pow_add 2 1 (n.log2 + 1), Nat.pow_one]
      _ ≤ 2 ^ k := Nat.pow_le_pow_right (by norm_num) (by omega)
      _ ≤ 10 ^ k := Nat.pow_le_pow_left (by norm_num) k
  have cast : ((2 * n * 2 ^ 1074 : Nat) : ℚ) ≤ (10 ^ k : Nat) := by exact_mod_cast small
  simp only [Nat.cast_mul, Nat.cast_pow, Nat.cast_ofNat] at cast
  have pos : (0 : ℚ) < 10 ^ k := by positivity
  have unit : (2 : ℚ) ^ (-1074 : ℤ) * 2 ^ 1074 = 1 := by
    rw [← zpow_natCast, ← zpow_add₀ (by norm_num)]
    rfl
  rw [← mul_div_assoc, div_le_iff₀ pos]
  calc 2 * (n : ℚ) = 2 ^ (-1074 : ℤ) * (2 * n * 2 ^ 1074) := by rw [mul_left_comm, unit, mul_one]
    _ ≤ 2 ^ (-1074 : ℤ) * 10 ^ k := mul_le_mul_of_nonneg_left cast (two_zpow_pos _).le

theorem ofScientific_rounds (n k : Nat) :
    Rounds (Float.ofScientific n true k) (n / 10 ^ k) := by
  unfold Float.ofScientific
  split
  · rename_i small
    have below : k < Float.exactlyRepresentablePowersOfTen.size := Nat.lt_succ_of_le small.2
    obtain ⟨m₂, e₂, pos₂, value₂, unpack₂⟩ := power_exact below
    have size : n.toUInt64.toNat = n := by
      rw [Nat.toUInt64_eq, UInt64.toNat_ofNat']
      omega
    have whole : n.toUInt64.toFloat = .ofModel (.ofNat n) := by
      rw [UInt64.toFloat, Float.Model.ofUInt64, UnpackedFloat.ofUInt64, size, Float.Model.ofNat]
    have quotient : (n.toUInt64.toFloat / Float.exactlyRepresentablePowersOfTen[k]) =
        packed (UnpackedFloat.div Format.binary64 (Float.Model.ofNat n).unpack
          (.finite .positive m₂ e₂ pos₂)) := by
      rw [whole, ← unpack₂]
      rfl
    change Rounds (n.toUInt64.toFloat / Float.exactlyRepresentablePowersOfTen[k]) _
    rw [quotient]
    rcases Nat.eq_zero_or_pos n with rfl | pos
    · rw [Nat.cast_zero, zero_div]
      exact rounds_zero
    · obtain ⟨m₁, e₁, pos₁, value₁, unpack₁⟩ := ofNat_exact pos small.1
      obtain ⟨m, e, canonical, near, result⟩ := div_nearest (e := e₁) (f := e₂) pos₁ pos₂
      rw [value₁, value₂] at near
      exact ⟨m, e, canonical, near, by rw [unpack₁, result]⟩
  · change Rounds (packed (UnpackedFloat.ofScientific Format.binary64 n (Int.negOfNat k))) _
    have sign : Int.negOfNat k = -(k : Int) := Int.negOfNat_eq
    have range : (2 : Int) ^ Format.binary64.exponentBits = 2048 := rfl
    rw [sign]
    unfold UnpackedFloat.ofScientific
    rw [range]
    split
    · rename_i zero
      rw [zero, Nat.cast_zero, zero_div]
      exact rounds_zero
    · rename_i some
      rw [if_neg (by omega)]
      split
      · rename_i far
        exact rounds_tiny (by positivity) (tiny_of_places (by omega))
      · split
        · have none : k = 0 := by omega
          subst k
          have pos : 0 < n <<< 53 := by
            rw [Nat.shiftLeft_eq]
            omega
          have wide : 52 ≤ (n <<< 53 * 10 ^ 0).log2 := by
            refine (Nat.le_log2 (by omega)).mpr ?_
            rw [Nat.shiftLeft_eq]
            omega
          obtain ⟨m, e, canonical, near, result⟩ := mul_nearest (e := -53) (f := 0) pos
            (Nat.pow_pos (n := 0) (show 0 < 10 by norm_num)) wide
          have value : ((n <<< 53 : Nat) : ℚ) * 2 ^ (-53 : ℤ) * ((10 ^ 0 : Nat) * 2 ^ (0 : ℤ)) =
              n / 10 ^ 0 := by
            rw [Nat.shiftLeft_eq]
            norm_num
            ring
          rw [value] at near
          exact ⟨m, e, canonical, near, congrArg packed result⟩
        · obtain ⟨m, e, canonical, near, result⟩ := div_nearest (e := 0) (f := 0)
            (Nat.pos_of_ne_zero some) (Nat.pow_pos (n := k) (show 0 < 10 by norm_num))
          push_cast at near
          rw [mul_one, mul_one] at near
          refine ⟨m, e, canonical, near, ?_⟩
          rw [← result]
          simp only [neg_neg, Int.toNat_natCast]

end ScopedFormula
