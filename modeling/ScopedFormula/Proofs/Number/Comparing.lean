import ScopedFormula.Value.Comparison
import ScopedFormula.Proofs.Number.Packing

/- Floats compare as the numbers they stand for. The model compares exponents first and mantissas
   then, which is the order of the numbers because each mantissa fills its bits. -/
namespace ScopedFormula
open Float.Model Float.Model.UnpackedFloat

inductive Valued : Float.Model.UnpackedFloat → Prop
  | infinity (s : Sign) : Valued (.infinity s)
  | zero (s : Sign) : Valued (.zero s)
  | finite {m : Nat} {e : Int} (s : Sign) (pos : 0 < m) (c : Canonical m e) (range : e ≤ 971) :
      Valued (.finite s m e pos)

variable {m n : Nat} {e f : Int} {u v : Float.Model.UnpackedFloat} {x y : Float}

theorem unpack_valued (b : BitVec 64) : UnpackedFloat.unpack Format.binary64 b = .notANumber ∨
    Valued (UnpackedFloat.unpack Format.binary64 b) := by
  obtain ⟨p, field⟩ : ∃ p : BitVec 11, @unpackExponent Format.binary64 b = p := ⟨_, rfl⟩
  obtain ⟨f, fraction⟩ : ∃ f : BitVec 52, @unpackMantissa Format.binary64 b = f := ⟨_, rfl⟩
  have bias : (Format.binary64.exponentBias : Int) = 1023 := rfl
  simp only [UnpackedFloat.unpack, field, fraction, bias]
  split
  · split
    · exact .inr (.infinity _)
    · exact .inl rfl
  · rename_i proper
    have below : p.toNat ≠ 2047 := fun same => proper (BitVec.eq_of_toNat_eq same)
    split
    · rename_i bottom
      have least : p.toNat = 0 := congrArg BitVec.toNat bottom
      split
      · exact .inr (.zero _)
      · refine .inr (.finite _ _ ⟨?_, ?_, .inr ?_⟩ ?_) <;> omega
    · rename_i some
      have above : p.toNat ≠ 0 := fun same => some (BitVec.eq_of_toNat_eq same)
      have whole : (1#1 ++ f).toNat = 2 ^ 52 + f.toNat := by
        rw [BitVec.toNat_append, ← Nat.shiftLeft_add_eq_or_of_lt f.isLt]
        rfl
      refine .inr (.finite _ _ ⟨?_, ?_, .inl ?_⟩ ?_) <;> omega

theorem valued_of_known (known : x.isNaN = false) : Valued x.toModel.unpack := by
  rcases unpack_valued x.toModel.toBits.toBitVec with none | proper
  · change x.toModel.unpack.isNaN = false at known
    change x.toModel.unpack = _ at none
    rw [none] at known
    contradiction
  · exact proper

theorem unpack_unknown (unknown : x.isNaN = true) : x.toModel.unpack = .notANumber := by
  change x.toModel.unpack.isNaN = true at unknown
  revert unknown
  cases x.toModel.unpack <;> simp [UnpackedFloat.isNaN]

theorem lt_of_exponent (c : Canonical m e) (d : Canonical n f) (less : e < f) :
    (m : ℚ) * 2 ^ e < n * 2 ^ f := by
  have unit := two_zpow_pos e
  have least := c.least
  have bits : (m : ℚ) < 2 ^ (53 : ℤ) := by exact_mod_cast c.bits
  have full : (2 : ℚ) ^ (52 : ℤ) ≤ n := by exact_mod_cast d.full.resolve_right (by omega)
  calc (m : ℚ) * 2 ^ e < 2 ^ (53 : ℤ) * 2 ^ e := mul_lt_mul_of_pos_right bits unit
    _ = 2 ^ (52 : ℤ) * 2 ^ (e + 1) := by
        rw [← zpow_add₀ (by norm_num), ← zpow_add₀ (by norm_num)]
        congr 1
        omega
    _ ≤ n * 2 ^ f := mul_le_mul full (zpow_le_zpow_right₀ (by norm_num) (by omega))
        (two_zpow_pos _).le (by positivity)

def toward (s : Sign) (q : ℚ) : ℚ :=
  match s with
  | .positive => q
  | .negative => -q

def infinite : ℚ := (2 ^ 52 : Nat) * 2 ^ (972 : ℤ)

def number : Float.Model.UnpackedFloat → ℚ
  | .infinity s => toward s infinite
  | .finite s m e _ => toward s (m * 2 ^ e)
  | .zero _ | .notANumber => 0

def floatNumber (x : Float) : ℚ := number x.toModel.unpack

theorem finite_bounds (pos : 0 < m) (c : Canonical m e) (range : e ≤ 971) :
    0 < (m : ℚ) * 2 ^ e ∧ (m : ℚ) * 2 ^ e < infinite := by
  have some : (0 : ℚ) < m := by exact_mod_cast pos
  have beyond : Canonical (2 ^ 52) 972 := ⟨by norm_num, by norm_num, .inl (le_refl _)⟩
  exact ⟨mul_pos some (two_zpow_pos e), lt_of_exponent c beyond (by omega)⟩

theorem compare_canonical (c : Canonical m e) (d : Canonical n f) :
    (compare e f).then (compare m n) = compare ((m : ℚ) * 2 ^ e) (n * 2 ^ f) := by
  rcases lt_trichotomy e f with less | rfl | more
  · rw [compare_lt_iff_lt.mpr less, compare_lt_iff_lt.mpr (lt_of_exponent c d less)]
    rfl
  · have unit := two_zpow_pos e
    rw [compare_eq_iff_eq.mpr rfl, Ordering.eq_then]
    rcases lt_trichotomy m n with less | rfl | more
    · have less' : (m : ℚ) < n := by exact_mod_cast less
      rw [compare_lt_iff_lt.mpr less, compare_lt_iff_lt.mpr (mul_lt_mul_of_pos_right less' unit)]
    · rw [compare_eq_iff_eq.mpr rfl, compare_eq_iff_eq.mpr rfl]
    · have more' : (n : ℚ) < m := by exact_mod_cast more
      rw [compare_gt_iff_gt.mpr more, compare_gt_iff_gt.mpr (mul_lt_mul_of_pos_right more' unit)]
  · rw [compare_gt_iff_gt.mpr more, compare_gt_iff_gt.mpr (lt_of_exponent d c more)]
    rfl

theorem compare_neg (p q : ℚ) : (compare p q).swap = compare (-p) (-q) := by
  rcases lt_trichotomy p q with less | rfl | more
  · rw [compare_lt_iff_lt.mpr less, compare_gt_iff_gt.mpr (neg_lt_neg less)]
    rfl
  · rw [compare_eq_iff_eq.mpr rfl, compare_eq_iff_eq.mpr rfl]
    rfl
  · rw [compare_gt_iff_gt.mpr more, compare_lt_iff_lt.mpr (neg_lt_neg more)]
    rfl

theorem some_compare {o : Ordering} {p q : ℚ} (h : o.Compares p q) :
    some o = some (compare p q) :=
  congrArg some ((compare_iff p q).mpr h).symm

theorem compare_number (hu : Valued u) (hv : Valued v) :
    u.compare v = some (compare (number u) (number v)) := by
  have top : 0 < infinite := mul_pos (by norm_num) (two_zpow_pos _)
  cases hu with
  | infinity s =>
    cases hv with
    | infinity t =>
      cases s <;> cases t
      · exact @some_compare .eq _ _ rfl
      · exact @some_compare .lt _ _ (show -infinite < infinite by linarith)
      · exact @some_compare .gt _ _ (show -infinite < infinite by linarith)
      · exact @some_compare .eq _ _ rfl
    | zero t =>
      cases s <;> refine some_compare ?_ <;> simp only [Ordering.Compares, number, toward] <;>
        linarith
    | @finite n f t pos d range =>
      have bounds := finite_bounds pos d range
      cases s <;> cases t <;> refine some_compare ?_ <;>
        simp only [Ordering.Compares, number, toward] <;> linarith
  | zero s =>
    cases hv with
    | infinity t =>
      cases t <;> refine some_compare ?_ <;> simp only [Ordering.Compares, number, toward] <;>
        linarith
    | zero t => exact @some_compare .eq _ _ rfl
    | @finite n f t pos d range =>
      have bounds := finite_bounds pos d range
      cases t <;> refine some_compare ?_ <;> simp only [Ordering.Compares, number, toward] <;>
        linarith
  | @finite m e s pos c range =>
    have bounds := finite_bounds pos c range
    cases hv with
    | infinity t =>
      cases s <;> cases t <;> refine some_compare ?_ <;>
        simp only [Ordering.Compares, number, toward] <;> linarith
    | zero t =>
      cases s <;> refine some_compare ?_ <;> simp only [Ordering.Compares, number, toward] <;>
        linarith
    | @finite n f t pos' d range' =>
      have bounds' := finite_bounds pos' d range'
      cases s <;> cases t
      · simp only [UnpackedFloat.compare, compare_canonical c d, compare_neg]
        rfl
      · refine @some_compare .lt _ _ (show -(_ * _) < _ * _ by linarith)
      · refine @some_compare .gt _ _ (show -(_ * _) < _ * _ by linarith)
      · simp only [UnpackedFloat.compare, compare_canonical c d]
        rfl

theorem lt_iff_compare : x < y ↔ x.toModel.unpack.compare y.toModel.unpack = some .lt := by
  change decide (x.toModel < y.toModel) = true ↔ _
  rw [decide_eq_true_iff]
  change (x.toModel.unpack.compare y.toModel.unpack == some .lt) = true ↔ _
  rw [beq_iff_eq]

theorem beq_iff_compare :
    (x == y) = true ↔ x.toModel.unpack.compare y.toModel.unpack = some .eq := by
  change (x.toModel.unpack.compare y.toModel.unpack == some .eq) = true ↔ _
  rw [beq_iff_eq]

theorem lt_iff_number (hx : x.isNaN = false) (hy : y.isNaN = false) :
    x < y ↔ floatNumber x < floatNumber y := by
  rw [lt_iff_compare, compare_number (valued_of_known hx) (valued_of_known hy),
    Option.some_inj, compare_lt_iff_lt]
  rfl

theorem beq_iff_number (hx : x.isNaN = false) (hy : y.isNaN = false) :
    (x == y) = true ↔ floatNumber x = floatNumber y := by
  rw [beq_iff_compare, compare_number (valued_of_known hx) (valued_of_known hy),
    Option.some_inj, compare_eq_iff_eq]
  rfl

theorem compare_unknown (unknown : x.isNaN = true ∨ y.isNaN = true) :
    x.toModel.unpack.compare y.toModel.unpack = none := by
  rcases unknown with left | right
  · rw [unpack_unknown left]
    rfl
  · rw [unpack_unknown right]
    cases x.toModel.unpack with
    | infinity s => cases s <;> rfl
    | finite s => cases s <;> rfl
    | _ => rfl

theorem beq_unknown (unknown : x.isNaN = true ∨ y.isNaN = true) : (x == y) = false := by
  rw [Bool.eq_false_iff, ne_eq, beq_iff_compare, compare_unknown unknown]
  exact nofun

theorem orderFloats_known (hx : x.isNaN = false) (hy : y.isNaN = false) :
    orderFloats x y = .ok (compare (floatNumber x) (floatNumber y)) := by
  simp only [orderFloats, lt_iff_number hx hy, lt_iff_number hy hx, beq_iff_number hx hy]
  rcases lt_trichotomy (floatNumber x) (floatNumber y) with less | same | more
  · rw [if_pos less, compare_lt_iff_lt.mpr less]
  · rw [if_neg same.not_lt, if_pos same, compare_eq_iff_eq.mpr same]
  · rw [if_neg more.not_gt, if_neg more.ne', if_pos more, compare_gt_iff_gt.mpr more]

theorem orderFloats_unknown (unknown : x.isNaN = true ∨ y.isNaN = true) :
    orderFloats x y = .error (.unordered x y) := by
  simp only [orderFloats, lt_iff_compare, beq_unknown unknown, compare_unknown unknown,
    compare_unknown unknown.symm, reduceCtorEq, Bool.false_eq_true, if_false]

end ScopedFormula
