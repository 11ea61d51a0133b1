import ScopedFormula.Number.Shortest
import ScopedFormula.Proofs.Number.Rounding

/- A rounded number keeps its mantissa and exponent in the bits of the float, or is infinite
   when its exponent is too large for them. -/
namespace ScopedFormula
open Float.Model Float.Model.UnpackedFloat

theorem integerLimit_eq : integerLimit = 2 ^ 63 := rfl

theorem fractionLimit_eq : fractionLimit = 2 ^ 52 := rfl

theorem fieldLimit_eq : fieldLimit = 2 ^ 11 := rfl

theorem components_toNat (e : BitVec 11) (m : BitVec 52) :
    (packComponents Format.binary64 .positive e m).toNat = e.toNat * 2 ^ 52 + m.toNat := by
  have low := m.isLt
  have high := e.isLt
  rw [packComponents, BitVec.toNat_append, ← Nat.shiftLeft_add_eq_or_of_lt low,
    BitVec.toNat_append, ← Nat.shiftLeft_add_eq_or_of_lt high]
  simp [Sign.toBitVec, Nat.shiftLeft_eq]

def packed (u : Float.Model.UnpackedFloat) : Float := .ofModel (.pack u)

theorem packed_toBits (u : Float.Model.UnpackedFloat) :
    (packed u).toBits.toNat = (UnpackedFloat.pack Format.binary64 u).toNat := rfl

theorem log2_full {m : Nat} (low : 2 ^ 52 ≤ m) (high : m < 2 ^ 53) : m.log2 = 52 := by
  have nonzero : m ≠ 0 := by omega
  have := (Nat.le_log2 nonzero).mpr low
  have := (Nat.log2_lt nonzero).mpr high
  omega

variable {m : Nat} {e : Int}

theorem pack_zero : (UnpackedFloat.pack Format.binary64 (.zero .positive)).toNat = 0 := by
  rw [UnpackedFloat.pack, packedZero, components_toNat]
  rfl

variable {s : Sign} {pos : 0 < m}

theorem pack_finite : UnpackedFloat.pack Format.binary64 (.finite s m e pos) =
    if 2 ^ 11 ≤ (e + 1023 + 52).toNat + 1 then packedInfinity Format.binary64 s
    else if m.log2 + 1 = 53 then
      packComponents Format.binary64 s (.ofNat 11 (e + 1023 + 52).toNat) (.ofNat 52 m)
    else packComponents Format.binary64 s 0#11 (.ofNat 52 m) := rfl

theorem pack_large (large : 971 < e) :
    UnpackedFloat.pack Format.binary64 (.finite s m e pos) =
      packedInfinity Format.binary64 s := by
  rw [pack_finite, if_pos (by omega)]

theorem pack_full (low : 2 ^ 52 ≤ m) (high : m < 2 ^ 53) (range : e ≤ 971) :
    UnpackedFloat.pack Format.binary64 (.finite s m e pos) =
      packComponents Format.binary64 s (.ofNat 11 (e + 1075).toNat) (.ofNat 52 m) := by
  have biased : (e + 1023 + 52).toNat = (e + 1075).toNat := by omega
  rw [pack_finite, if_neg (by omega), if_pos (by rw [log2_full low high]), biased]

theorem pack_least (high : m < 2 ^ 52) :
    UnpackedFloat.pack Format.binary64 (.finite s m (-1074) pos) =
      packComponents Format.binary64 s 0#11 (.ofNat 52 m) := by
  have := (Nat.log2_lt pos.ne').mpr high
  rw [pack_finite, if_neg (by decide), if_neg (by omega)]

theorem ofFloat_held (c : Canonical m e) (range : e ≤ 971) :
    Binary.ofFloat? (packed (held m e)) = some ⟨false, m, e⟩ := by
  have bits := c.bits
  unfold held
  split
  · rename_i zero
    have least : e = -1074 := c.full.resolve_left (by omega)
    simp only [Binary.ofFloat?, packed_toBits, pack_zero, zero, least]
    rfl
  · rename_i nonzero
    by_cases low : 2 ^ 52 ≤ m
    · have least := c.least
      simp only [Binary.ofFloat?, packed_toBits, pack_full low bits range, components_toNat,
        BitVec.toNat_ofNat, integerLimit_eq, fractionLimit_eq, fieldLimit_eq]
      have exponent : (e + 1075).toNat % 2 ^ 11 = (e + 1075).toNat := by omega
      have mantissa : m % 2 ^ 52 = m - 2 ^ 52 := by omega
      rw [exponent, mantissa]
      have field : ((e + 1075).toNat * 2 ^ 52 + (m - 2 ^ 52)) / 2 ^ 52 % 2 ^ 11 =
          (e + 1075).toNat := by omega
      have fraction : ((e + 1075).toNat * 2 ^ 52 + (m - 2 ^ 52)) % 2 ^ 52 = m - 2 ^ 52 := by omega
      have sign : ¬ 2 ^ 63 ≤ (e + 1075).toNat * 2 ^ 52 + (m - 2 ^ 52) := by omega
      rw [field, fraction, if_neg (by omega), if_neg (by omega)]
      simp only [sign, decide_false, Option.some.injEq, Binary.mk.injEq, true_and]
      omega
    · have least : e = -1074 := c.full.resolve_left low
      subst e
      have small : m < 2 ^ 52 := by omega
      have fraction : m % 2 ^ 52 = m := Nat.mod_eq_of_lt small
      have field : m / 2 ^ 52 % 2 ^ 11 = 0 := by omega
      have sign : ¬ 2 ^ 63 ≤ m := by omega
      simp only [Binary.ofFloat?, packed_toBits, pack_least small, components_toNat,
        BitVec.toNat_ofNat, Nat.zero_mod, Nat.zero_mul, Nat.zero_add, integerLimit_eq,
        fractionLimit_eq, fieldLimit_eq, fraction, field]
      simp only [sign, decide_false]
      rfl

theorem packed_large (c : Canonical m e) (large : 971 < e) :
    packed (held m e) = packed (.infinity .positive) := by
  have full : 2 ^ 52 ≤ m := c.full.resolve_right (by omega)
  unfold held
  split
  · omega
  · simp only [packed, Float.Model.pack, pack_large large]
    rfl

theorem infinity_text : specialText (packed (.infinity .positive)) = "inf" ∧
    Binary.ofFloat? (packed (.infinity .positive)) = none := by decide

theorem unpackSign_components {spec : Format} (e : BitVec spec.exponentBits)
    (f : BitVec spec.mantissaBitsWithoutImplicit) :
    Sign.ofBitVec (unpackSign (packComponents spec s e f)) = s := by
  have bit : unpackSign (packComponents spec s e f) = s.toBitVec := by
    apply BitVec.eq_of_getLsbD_eq
    intro i small
    have : i = 0 := by omega
    subst i
    simp [unpackSign, packComponents, BitVec.getLsbD_append, BitVec.getElem_append]
  rw [bit]
  cases s <;> rfl

theorem unpack_pack (c : Canonical m e) (range : e ≤ 971) :
    (Float.Model.pack (.finite s m e pos)).unpack = .finite s m e pos := by
  have bits := c.bits
  by_cases low : 2 ^ 52 ≤ m
  · have least := c.least
    have exponent : (BitVec.ofNat 11 (e + 1075).toNat).toNat = (e + 1075).toNat := by
      rw [BitVec.toNat_ofNat]
      omega
    have whole : (1#1 ++ BitVec.ofNat 52 m).toNat = m := by
      rw [BitVec.toNat_append, ← Nat.shiftLeft_add_eq_or_of_lt (BitVec.isLt _),
        BitVec.toNat_ofNat]
      simp only [BitVec.toNat_ofNat, Nat.shiftLeft_eq]
      omega
    have some : BitVec.ofNat 11 (e + 1075).toNat ≠ 0#11 := by
      intro same
      have := congrArg BitVec.toNat same
      rw [exponent, BitVec.toNat_zero] at this
      omega
    have proper : BitVec.ofNat 11 (e + 1075).toNat ≠ -1#11 := by
      intro same
      have := congrArg BitVec.toNat same
      rw [exponent] at this
      change _ = 2047 at this
      omega
    simp only [Float.Model.unpack, Float.Model.pack, pack_full low bits range,
      UnpackedFloat.unpack, unpackMantissa_packComponents, unpackExponent_packComponents,
      unpackSign_components]
    rw [if_neg proper, if_neg some]
    simp only [exponent, whole]
    congr 1
    simp only [Format.exponentBias, Nat.reduceSub, Nat.reducePow]
    omega
  · have least : e = -1074 := c.full.resolve_left low
    subst e
    have small : m < 2 ^ 52 := by omega
    have whole : (BitVec.ofNat 52 m).toNat = m := by
      rw [BitVec.toNat_ofNat, Nat.mod_eq_of_lt small]
    have some : BitVec.ofNat 52 m ≠ 0#52 := by
      intro same
      have := congrArg BitVec.toNat same
      rw [whole, BitVec.toNat_zero] at this
      omega
    have proper : 0#11 ≠ -1#11 := by decide
    simp only [Float.Model.unpack, Float.Model.pack, pack_least small,
      UnpackedFloat.unpack, unpackMantissa_packComponents, unpackExponent_packComponents,
      unpackSign_components]
    rw [if_neg proper, if_pos trivial, dif_neg some]
    simp only [whole]
    rfl

theorem unpack_held (c : Canonical m e) (range : e ≤ 971) :
    (Float.Model.pack (held m e)).unpack = held m e := by
  unfold held
  split
  · rfl
  · exact unpack_pack c range

end ScopedFormula
