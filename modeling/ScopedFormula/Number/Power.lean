import ScopedFormula.Number.Limits

/- Powers of floats with whole exponents, as products. -/
namespace ScopedFormula

/-- Each bit of the exponent that is set, from the lowest on, takes up a factor; the factors are
    squared from bit to bit. -/
def powerLoop (product factor : Float) (n : Nat) : Float :=
  let product := if n % 2 = 1 then product * factor else product
  if n < 2 then product else powerLoop product (factor * factor) (n / 2)
termination_by n

def wholePower (x : Float) (n : Int) : Float :=
  let product := powerLoop 1 x n.natAbs
  if n < 0 then 1 / product else product

end ScopedFormula
