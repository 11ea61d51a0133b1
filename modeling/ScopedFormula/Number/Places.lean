import ScopedFormula.Number.Shortest

/- Floats with a fixed number of decimal places, rounded from the exact value. -/
namespace ScopedFormula

/-- The integer nearest to num / den; a half goes to the even neighbour. -/
def roundEven (num den : Nat) : Nat :=
  let q := num / den
  let r := num % den
  if 2 * r < den ∨ (2 * r = den ∧ q % 2 = 0) then q else q + 1

theorem roundEven_near {num den : Nat} (h : 0 < den) :
    2 * (roundEven num den * den) ≤ 2 * num + den ∧
      2 * num ≤ 2 * (roundEven num den * den) + den := by
  have split := Nat.div_add_mod num den
  have small := Nat.mod_lt num h
  rw [Nat.mul_comm] at split
  simp only [roundEven]
  split
  · omega
  · rw [Nat.add_mul]
    omega

def Binary.places (b : Binary) (places : Nat) : Nat :=
  roundEven (b.mantissa <<< b.exponent.toNat * Nat.pow 10 places) (1 <<< (-b.exponent).toNat)

def placesText (places : Nat) (x : Float) : String :=
  match Binary.ofFloat? x with
  | none => specialText x
  | some b => signed b.negative (placePoint places (Nat.toDigits 10 (b.places places)))

end ScopedFormula
