import ScopedFormula.Value.Operator
import ScopedFormula.Text.Case

/- The standard methods that a host can install. None of them looks at a scope. -/
namespace ScopedFormula

inductive Builtin where
  | max | min | abs | len | upper | lower
  deriving DecidableEq, Repr

def Builtin.name : Builtin → String
  | .max => "max"
  | .min => "min"
  | .abs => "abs"
  | .len => "len"
  | .upper => "upper"
  | .lower => "lower"

def Builtin.all : List Builtin := [.max, .min, .abs, .len, .upper, .lower]

def Builtin.ofName? (name : String) : Option Builtin := Builtin.all.find? (·.name == name)

def Builtin.refuse (b : Builtin) (v : Value) : Failure :=
  .host ("argument to `" ++ b.name ++ "` not supported, got " ++ v.kind)

/-- Keeps the best value so far; a later one replaces it when it wins the comparison, which
    the later one is asked for. -/
def extreme (b : Builtin) (wins : Ordering → Bool) (best : Value) :
    List Value → Except Failure Value
  | [] => .ok best
  | v :: vs =>
      if v.exposes .comparer then do
        let o ← v.order best
        extreme b wins (if wins o then v else best) vs
      else .error (b.refuse v)

def Builtin.extremeOf (b : Builtin) (wins : Ordering → Bool) : List Value → Except Failure Value
  | [] =>
      .error (.host ("wrong number of arguments for " ++ b.name ++ ": want at least 1, got 0"))
  | v :: vs => extreme b wins v vs

def Builtin.single (b : Builtin) (f : Value → Except Failure Value) :
    List Value → Except Failure Value
  | [v] => f v
  | vs =>
      .error (.host ("wrong number of arguments for " ++ b.name ++ ": want=1, got=" ++
        toString vs.length))

def absolute (v : Value) : Except Failure Value :=
  match v with
  | .integer n =>
      if n.toInt.natAbs < integerLimit then .ok (.integer (Int64.ofNat n.toInt.natAbs))
      else .error (.host "integer overflow in `abs`")
  | .float x => .ok (.float x.abs)
  | v => .error (Builtin.abs.refuse v)

def textLength (v : Value) : Except Failure Value :=
  match v with
  | .string s => .ok (.integer (Int64.ofNat s.length))
  | v => .error (Builtin.len.refuse v)

def mapText (b : Builtin) (f : String → String) (v : Value) : Except Failure Value :=
  match v with
  | .string s => .ok (.string (f s))
  | v => .error (b.refuse v)

def Builtin.run (b : Builtin) (args : List Value) : Except Failure Value :=
  match b with
  | .max => b.extremeOf (· == .gt) args
  | .min => b.extremeOf (· == .lt) args
  | .abs => b.single absolute args
  | .len => b.single textLength args
  | .upper => b.single (mapText b upperText) args
  | .lower => b.single (mapText b lowerText) args

end ScopedFormula
