import ScopedFormula.Value.Arithmetic
import ScopedFormula.Value.Comparison

/- Asking a value for one of its capabilities. The operators of the language ask through their
   own rules; this is the host's way to the same answers. -/
namespace ScopedFormula

inductive Answer where
  | value (v : Value)
  | ordering (o : Ordering)
  | truth (b : Bool)

def Capability.arithmetic? : Capability → Option Arithmetic
  | .adder => some .add
  | .subtractor => some .subtract
  | .multiplexor => some .multiply
  | .divider => some .divide
  | .moduler => some .modulo
  | .power => some .power
  | _ => none

def Value.answer (c : Capability) (l r : Value) : Except Failure Answer :=
  match c.arithmetic? with
  | some op => (l.arithmetic op r).map .value
  | none =>
      match c with
      | .negator => l.negate.map .value
      | .comparer => (l.order r).map .ordering
      | .equalityComparer => (l.equals equalitySymbol r).map .truth
      | _ => .ok (.truth (l.truth?.getD false))

def Value.ask? (c : Capability) (l r : Value) : Option (Except Failure Answer) :=
  if l.exposes c then some (l.answer c r) else none

end ScopedFormula
