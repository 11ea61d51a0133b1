import ScopedFormula.Value.Arithmetic
import ScopedFormula.Value.Comparison

/- Operators by token kind, on operands that are already evaluated. Both sides of && and ||
   need a truth; kinds that are no operators support no operands. -/
namespace ScopedFormula

def arithmetic? : TokenKind → Option Arithmetic
  | .plus => some .add
  | .minus => some .subtract
  | .asterisk => some .multiply
  | .slash => some .divide
  | .percent => some .modulo
  | .power => some .power
  | _ => none

def relation? : TokenKind → Option (Ordering → Bool)
  | .lt => some (· == .lt)
  | .ltEq => some (· != .gt)
  | .gt => some (· == .gt)
  | .gtEq => some (· != .lt)
  | _ => none

def Value.unary (op : TokenKind) (v : Value) : Except Failure Value :=
  match op with
  | .minus => v.negate
  | .bang =>
      match v.truth? with
      | some b => .ok (.boolean !b)
      | none => .error (.unaryNotSupported op.text v.kind)
  | _ => .error (.unaryNotSupported op.text v.kind)

def Value.connect (op : TokenKind) (l r : Value) : Except Failure Value :=
  match op, l.truth?, r.truth? with
  | .and, some a, some b => .ok (.boolean (a && b))
  | .or, some a, some b => .ok (.boolean (a || b))
  | _, _, _ => .error (.notSupported op.text l.kind r.kind)

def Value.binary (op : TokenKind) (l r : Value) : Except Failure Value :=
  match arithmetic? op with
  | some a => l.arithmetic a r
  | none =>
      match relation? op with
      | some holds => do
          let o ← l.order r
          return .boolean (holds o)
      | none =>
          if op = .eq ∨ op = .notEq then do
            let equal ← l.equals op.text r
            return .boolean (equal == (op == .eq))
          else l.connect op r

end ScopedFormula
