import ScopedFormula.Number.Limits

/- Finite floats as sign, mantissa and power of two. The remainder of two floats is exact:
   both are counted in the smaller of their two units. -/
namespace ScopedFormula

/-- The number ± mantissa · 2^exponent. -/
structure Binary where
  negative : Bool
  mantissa : Nat
  exponent : Int
  deriving DecidableEq, Repr

def Binary.ofFloat? (x : Float) : Option Binary :=
  let bits := x.toBits.toNat
  let field : Nat := bits / fractionLimit % fieldLimit
  let fraction := bits % fractionLimit
  let negative : Bool := integerLimit ≤ bits
  if field = fieldLimit - 1 then none
  else if field = 0 then some ⟨negative, fraction, -1074⟩
  else some ⟨negative, fractionLimit + fraction, (field : Int) - 1075⟩

/-- Exact for a mantissa below 2^53 and an exponent from -1074 to 971. -/
def Binary.toFloat (b : Binary) : Float :=
  let sign := if b.negative then integerLimit else 0
  if b.mantissa = 0 then Float.ofBits (UInt64.ofNat sign)
  else
    let shift := min (52 - b.mantissa.log2) (b.exponent + 1074).toNat
    let steps := (b.exponent - shift + 1074).toNat
    Float.ofBits (UInt64.ofNat (sign + b.mantissa <<< shift + steps * fractionLimit))

def Binary.count (b : Binary) (unit : Int) : Nat := b.mantissa <<< (b.exponent - unit).toNat

def notANumber : Float := Float.ofBits 0x7FF8000000000000

/-- What is left of x after taking away y as often as it fits; it has the sign of x. -/
def remainder (x y : Float) : Float :=
  match Binary.ofFloat? x, Binary.ofFloat? y with
  | some a, some b =>
      if b.mantissa = 0 then notANumber
      else
        let unit := min a.exponent b.exponent
        Binary.toFloat ⟨a.negative, a.count unit % b.count unit, unit⟩
  | some _, none => if y.isNaN then notANumber else x
  | none, _ => notANumber

example : remainder 7.5 2.0 = 1.5 := by decide +kernel
example : remainder (-7.5) 2.0 = -1.5 := by decide +kernel
example : remainder (-4.0) 2.0 = -0.0 := by decide +kernel

end ScopedFormula
