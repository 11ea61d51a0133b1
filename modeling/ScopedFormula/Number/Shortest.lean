import ScopedFormula.Number.Binary

/- The text of a float: the fewest decimal digits that read back to it, of those the nearest
   ones, written without an exponent. -/
namespace ScopedFormula

/-- The number digits · 10^power. -/
structure Decimal where
  digits : Nat
  power : Int
  deriving DecidableEq, Repr

/-- A point of the grid of multiples of 10^power that rounds to the number. The reals that
    round to it reach half a unit up and down, or a quarter down to a smaller binade; the ends
    belong to it when the mantissa is even. Of two points the nearer one is taken, the upper
    one when both are equally near. -/
def Binary.onGrid? (b : Binary) (power : Int) : Option Nat :=
  let unit := Nat.pow 10 (-power).toNat <<< (b.exponent - 2).toNat
  let grid := Nat.pow 10 power.toNat <<< (2 - b.exponent).toNat
  let below := if b.mantissa = fractionLimit ∧ -1074 < b.exponent then 1 else 2
  let value := 4 * b.mantissa * unit
  let low := (4 * b.mantissa - below) * unit
  let high := (4 * b.mantissa + 2) * unit
  let inside (d : Nat) : Bool :=
    if b.mantissa % 2 = 0 then low ≤ d * grid && d * grid ≤ high
    else low < d * grid && d * grid < high
  let d := value / grid
  match inside d, inside (d + 1) with
  | true, true => if 2 * value < (2 * d + 1) * grid then some d else some (d + 1)
  | true, false => some d
  | false, true => some (d + 1)
  | false, false => none

/-- The first grid with a hit, from coarse to fine; 17 digits always suffice. -/
def Binary.search (b : Binary) : Nat → Int → Decimal
  | 0, power => ⟨(b.onGrid? power).getD 0, power⟩
  | n + 1, power =>
      match b.onGrid? power with
      | some d => ⟨d, power⟩
      | none => b.search n (power - 1)

/-- Starts above the first digit, as 30103 / 100000 exceeds the decimal logarithm of 2. -/
def Binary.shortest (b : Binary) : Decimal :=
  b.search 25 (((b.mantissa.log2 + 1 + b.exponent) * 30103).fdiv 100000 + 1)

def zeros (n : Nat) : List Char := List.replicate n '0'

def placePoint (places : Nat) (ds : List Char) : List Char :=
  let ds := zeros (places + 1 - ds.length) ++ ds
  ds.take (ds.length - places) ++ '.' :: ds.drop (ds.length - places)

def Decimal.chars (d : Decimal) : List Char :=
  let ds := Nat.toDigits 10 d.digits
  if 0 ≤ d.power then ds ++ zeros d.power.toNat else placePoint (-d.power).toNat ds

def signed (negative : Bool) (cs : List Char) : String :=
  String.ofList (if negative then '-' :: cs else cs)

def specialText (x : Float) : String :=
  if x.isNaN then "NaN" else if x < 0 then "-inf" else "inf"

def floatText (x : Float) : String :=
  match Binary.ofFloat? x with
  | none => specialText x
  | some b => signed b.negative (if b.mantissa = 0 then ['0'] else b.shortest.chars)

end ScopedFormula
