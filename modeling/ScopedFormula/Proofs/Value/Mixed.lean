import ScopedFormula.Proofs.Value.Comparisons

/- Integers among floats. Beside a float an integer is the float nearest to it, whichever side it
   stands on, so that sums and products of numbers do not depend on the order. -/
namespace ScopedFormula
open Float.Model Float.Model.UnpackedFloat

variable {a b l r l' r' : Value} {k : TokenKind}

theorem sign_mul_comm (s t : Sign) : s * t = t * s := by
  cases s <;> cases t <;> rfl

theorem sign_beq_comm (s t : Sign) : (s == t) = (t == s) := by
  cases s <;> cases t <;> rfl

theorem sign_of_beq {s t : Sign} (same : (s == t) = true) : s = t := by
  cases s <;> cases t <;> first | rfl | contradiction

theorem mul_unpacked_comm (u v : Float.Model.UnpackedFloat) :
    UnpackedFloat.mul Format.binary64 u v = UnpackedFloat.mul Format.binary64 v u := by
  cases u <;> cases v <;> simp only [UnpackedFloat.mul, sign_mul_comm, Nat.mul_comm, Int.add_comm]

theorem either_comm {α : Type} {f : Sign → α} {d : α} (s t : Sign) :
    (if s == t then f s else d) = if t == s then f t else d := by
  rw [sign_beq_comm t s]
  split
  · rename_i same
    rw [sign_of_beq same]
  · rfl

theorem add_unpacked_comm (u v : Float.Model.UnpackedFloat) :
    UnpackedFloat.add Format.binary64 u v = UnpackedFloat.add Format.binary64 v u := by
  cases u with
  | infinity s =>
    cases v with
    | infinity t => exact either_comm s t
    | _ => rfl
  | zero s =>
    cases v with
    | zero t => exact either_comm s t
    | _ => rfl
  | finite s m e pos =>
    cases v with
    | finite t n f pos' =>
      simp only [UnpackedFloat.add]
      rw [min_comm, Int.add_comm]
    | _ => rfl
  | notANumber => cases v <;> rfl

theorem float_add_comm (x y : Float) : x + y = y + x :=
  congrArg packed (add_unpacked_comm x.toModel.unpack y.toModel.unpack)

theorem float_mul_comm (x y : Float) : x * y = y * x :=
  congrArg packed (mul_unpacked_comm x.toModel.unpack y.toModel.unpack)

/-- Arithmetic, equality and order, without the power. -/
def numberOperators : List TokenKind :=
  [.plus, .minus, .asterisk, .slash, .percent, .eq, .notEq, .lt, .ltEq, .gt, .gtEq]

theorem binary_alike (arithmetic : ∀ op ≠ .power, l.arithmetic op r = l'.arithmetic op r')
    (order : l.order r = l'.order r') (equals : ∀ symbol, l.equals symbol r = l'.equals symbol r')
    (mem : k ∈ numberOperators) : l.binary k r = l'.binary k r' := by
  cases k with
  | plus => exact arithmetic .add nofun
  | minus => exact arithmetic .subtract nofun
  | asterisk => exact arithmetic .multiply nofun
  | slash => exact arithmetic .divide nofun
  | percent => exact arithmetic .modulo nofun
  | eq => rw [binary_eq, binary_eq, equals]
  | notEq => rw [binary_notEq, binary_notEq, equals]
  | lt | ltEq | gt | gtEq => rw [binary_relation rfl, binary_relation rfl, order]
  | _ => exact absurd mem (by decide)

def Value.isNumber : Value → Bool
  | .integer _ | .float _ => true
  | _ => false

theorem floatByInteger_eq {op : Arithmetic} (other : op ≠ .power) (x : Float) (n : Int64) :
    op.floatByInteger x n = op.floats x (nearestFloat n) := by
  cases op with
  | power => contradiction
  | _ => rfl

theorem arithmetic_comm (op : Arithmetic) (other : op ≠ .power)
    (integers : ∀ n m, op.integers n m = op.integers m n)
    (floats : ∀ x y, op.floats x y = op.floats y x) (ha : a.isNumber = true)
    (hb : b.isNumber = true) : a.arithmetic op b = b.arithmetic op a := by
  have promoted : ∀ x n, (.ok (.float (op.floats (nearestFloat n) x)) : Except Failure Value) =
      .ok (.float (op.floatByInteger x n)) := by
    intro x n
    rw [floats, floatByInteger_eq other]
  cases a with
  | integer n =>
    cases b with
    | integer m => exact integers n m
    | float y => exact promoted y n
    | _ => contradiction
  | float x =>
    cases b with
    | integer m => exact (promoted x m).symm
    | float y => exact congrArg (Except.ok ∘ Value.float) (floats x y)
    | _ => contradiction
  | _ => contradiction

/-- An integer on either side of a float gives what its nearest float gives there, result or
    failure; and numbers of either kind have one sum and one product, or one failure. -/
theorem promotion_coherent :
    (∀ (n : Int64) (x : Float), ∀ k ∈ numberOperators,
      (Value.integer n).binary k (.float x) = (Value.float (nearestFloat n)).binary k (.float x) ∧
      (Value.float x).binary k (.integer n) = (Value.float x).binary k (.float (nearestFloat n))) ∧
    ∀ a b : Value, a.isNumber = true → b.isNumber = true →
      a.binary .plus b = b.binary .plus a ∧ a.binary .asterisk b = b.binary .asterisk a := by
  constructor
  · intro n x k mem
    constructor
    · exact binary_alike (fun _ _ => rfl) rfl (fun _ => rfl) mem
    · refine binary_alike (fun op other => ?_) rfl (fun _ => rfl) mem
      rw [Value.arithmetic, floatByInteger_eq other, Value.arithmetic]
  · intro a b ha hb
    constructor
    · refine arithmetic_comm .add nofun (fun n m => ?_) float_add_comm ha hb
      exact congrArg (checked "+") (Int.add_comm n.toInt m.toInt)
    · refine arithmetic_comm .multiply nofun (fun n m => ?_) float_mul_comm ha hb
      exact congrArg (checked "*") (Int.mul_comm n.toInt m.toInt)

theorem promotion_coherent_rounded : .minus ∈ numberOperators ∧
    (Value.float 0.5).binary .minus (.integer 9007199254740993) =
      (Value.float 0.5).binary .minus (.float (nearestFloat 9007199254740993)) ∧
    (Value.integer 9223372036854775807).binary .plus (.integer 1) =
      (Value.integer 1).binary .plus (.integer 9223372036854775807) :=
  ⟨by decide, (promotion_coherent.1 9007199254740993 0.5 .minus (by decide)).2,
    (promotion_coherent.2 (.integer 9223372036854775807) (.integer 1) rfl rfl).1⟩

end ScopedFormula
