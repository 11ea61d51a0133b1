import Mathlib
import ScopedFormula.Value.Operator

/- Powers of a float. Whole exponents in 32 bits make a product of squares, each rounded; all other
   exponents are left to the power function, whose last digits may be others. -/
namespace ScopedFormula

variable {x : Float} {b : Int64}

def squared (x : Float) : Nat → Float
  | 0 => x
  | i + 1 => squared (x * x) i

theorem powerLoop_zero (product factor : Float) : powerLoop product factor 0 = product := by
  rw [powerLoop]
  rfl

theorem powerLoop_step (product factor : Float) (n : Nat) : powerLoop product factor n =
    powerLoop (if n % 2 = 1 then product * factor else product) (factor * factor) (n / 2) := by
  rw [powerLoop]
  by_cases last : n < 2
  · rw [if_pos last, Nat.div_eq_of_lt last, powerLoop_zero]
  · rw [if_neg last]

theorem powerLoop_double (product factor : Float) (n : Nat) :
    powerLoop product factor (2 * n) = powerLoop product (factor * factor) n := by
  have half : 2 * n / 2 = n := by omega
  rw [powerLoop_step, if_neg (by omega), half]

theorem powerLoop_double_add_one (product factor : Float) (n : Nat) :
    powerLoop product factor (2 * n + 1) = powerLoop (product * factor) (factor * factor) n := by
  have half : (2 * n + 1) / 2 = n := by omega
  rw [powerLoop_step, if_pos (by omega), half]

/-- A factor for each bit of the exponent that is set, from the lowest on. -/
theorem powerLoop_bits (product factor : Float) (n : Nat) :
    powerLoop product factor n = (n.bitIndices.map (squared factor)).foldl (· * ·) product := by
  induction n using Nat.strongRecOn generalizing product factor with
  | ind n ih =>
    rcases Nat.eq_zero_or_pos n with rfl | positive
    · rw [powerLoop_zero, Nat.bitIndices_zero, List.map_nil, List.foldl_nil]
    obtain ⟨k, rfl | rfl⟩ := n.even_or_odd'
    · rw [powerLoop_double, ih k (by omega), Nat.bitIndices_two_mul, List.map_map]
      rfl
    · rw [powerLoop_double_add_one, ih k (by omega), Nat.bitIndices_two_mul_add_one,
        List.map_cons, List.foldl_cons, List.map_map]
      rfl

theorem wholePower_neg {n : Int} (negative : n < 0) :
    wholePower x n = 1 / powerLoop 1 x n.natAbs := if_pos negative

theorem wholePower_nonneg {n : Int} (nonneg : 0 ≤ n) :
    wholePower x n = powerLoop 1 x n.natAbs := if_neg (Int.not_lt.mpr nonneg)

theorem wholePower_double (x : Float) (n : Int) : wholePower x (2 * n) = wholePower (x * x) n := by
  have same : (2 * n).natAbs = 2 * n.natAbs := Int.natAbs_mul 2 n
  rcases lt_or_ge n 0 with negative | nonneg
  · rw [wholePower_neg (by omega), wholePower_neg negative, same, powerLoop_double]
  · rw [wholePower_nonneg (by omega), wholePower_nonneg nonneg, same, powerLoop_double]

def squaresProduct (x : Float) (n : Nat) : Float := (n.bitIndices.map (squared x)).foldl (· * ·) 1

theorem wholePower_eq (x : Float) (n : Int) : wholePower x n =
    if n < 0 then 1 / squaresProduct x n.natAbs else squaresProduct x n.natAbs := by
  rw [squaresProduct, ← powerLoop_bits]
  rfl

def ShortExponent (n : Int64) : Prop := -2 ^ 31 ≤ n.toInt ∧ n.toInt < 2 ^ 31

theorem power_short (x : Float) (short : ShortExponent b) :
    (Value.float x).binary .power (.integer b) = .ok (.float (wholePower x b.toInt)) := by
  have given : Arithmetic.floatByInteger .power x b = wholePower x b.toInt := if_pos short
  rw [← given]
  rfl

theorem power_long (x : Float) (long : ¬ShortExponent b) :
    (Value.float x).binary .power (.integer b) =
      (Value.float x).binary .power (.float (nearestFloat b)) := by
  have given : Arithmetic.floatByInteger .power x b = x.pow (nearestFloat b) := if_neg long
  exact congrArg (Except.ok ∘ Value.float) given

/-- With an exponent in 32 bits a power is a product of squares, or the reciprocal of one; so with
    twice an exponent it is the power of the square. With any other exponent it is the power that
    the float nearest to the exponent gives. -/
theorem float_power (x : Float) (b : Int64) :
    (ShortExponent b → (Value.float x).binary .power (.integer b) =
        .ok (.float (if b.toInt < 0 then 1 / squaresProduct x b.toInt.natAbs
          else squaresProduct x b.toInt.natAbs)) ∧
      ∀ a : Int64, b.toInt = 2 * a.toInt →
        (Value.float x).binary .power (.integer b) =
          (Value.float (x * x)).binary .power (.integer a)) ∧
    (¬ShortExponent b → (Value.float x).binary .power (.integer b) =
      (Value.float x).binary .power (.float (nearestFloat b))) := by
  refine ⟨fun short => ⟨?_, fun a double => ?_⟩, power_long x⟩
  · rw [power_short x short, wholePower_eq]
  · have half : ShortExponent a := by
      unfold ShortExponent at short ⊢
      omega
    rw [power_short x short, power_short (x * x) half, double, wholePower_double]

end ScopedFormula
