import ScopedFormula.Value
import ScopedFormula.Number.Power

/- Arithmetic on values. Integers are exact or overflow; an integer beside a float is first
   turned into the nearest float; strings append, dates shift by nanoseconds. -/
namespace ScopedFormula

def checked (op : String) (n : Int) : Except Failure Value :=
  if -integerLimit ≤ n ∧ n < integerLimit then .ok (.integer (Int64.ofInt n))
  else .error (.overflow op)

/-- Powers with an exponent of 2^32 or more overflow. Past 64 the exponent matters only by its
    parity: a base of two or more digits in binary is out of range there, and 0, 1 and -1 have
    just the two powers. -/
def integerPower (a : Int) (b : Nat) : Except Failure Value :=
  if exponentLimit ≤ b then .error (.overflow Arithmetic.power.symbol)
  else checked Arithmetic.power.symbol (a.pow (if b < 64 then b else 64 + b % 2))

/-- A remainder is in range exactly when its quotient is; negative exponents give floats. -/
def Arithmetic.integers (op : Arithmetic) (a b : Int64) : Except Failure Value :=
  match op with
  | .add => checked op.symbol (a.toInt + b.toInt)
  | .subtract => checked op.symbol (a.toInt - b.toInt)
  | .multiply => checked op.symbol (a.toInt * b.toInt)
  | .divide =>
      if b = 0 then .error .divisionByZero else checked op.symbol (a.toInt.tdiv b.toInt)
  | .modulo =>
      if b = 0 then .error .divisionByZero
      else do
        let _ ← checked op.symbol (a.toInt.tdiv b.toInt)
        checked op.symbol (a.toInt.tmod b.toInt)
  | .power =>
      if b < 0 then .ok (.float (Float.pow (nearestFloat a) (nearestFloat b)))
      else integerPower a.toInt b.toInt.toNat

def Arithmetic.floats (op : Arithmetic) (x y : Float) : Float :=
  match op with
  | .add => x + y
  | .subtract => x - y
  | .multiply => x * y
  | .divide => x / y
  | .modulo => remainder x y
  | .power => Float.pow x y

/-- The integer is turned into a float, but not as an exponent in 32 bits. -/
def Arithmetic.floatByInteger (op : Arithmetic) (x : Float) (n : Int64) : Float :=
  match op with
  | .power =>
      if -productLimit ≤ n.toInt ∧ n.toInt < productLimit then wholePower x n.toInt
      else op.floats x (nearestFloat n)
  | _ => op.floats x (nearestFloat n)

def dateShift (op : Arithmetic) (d : Date) (n : Int) : Except Failure Value :=
  match d.shift? n with
  | some e => .ok (.date e)
  | none => .error (.overflow op.symbol)

/-- The nanoseconds from e to d. A difference of -2^63 counts as out of range. -/
def dateDifference (d e : Date) : Except Failure Value :=
  if (d.nanos - e.nanos).natAbs < integerLimit then
    .ok (.integer (Int64.ofInt (d.nanos - e.nanos)))
  else .error (.overflow Arithmetic.subtract.symbol)

def appended? : Value → Option String
  | .null => some ""
  | .integer n => some (integerText n)
  | .float x => some (floatText x)
  | .string s => some s
  | .boolean b => some (booleanText b)
  | _ => none

/-- Subtracting -2^63 nanoseconds from a date overflows, as no integer is its opposite. -/
def Value.arithmetic (op : Arithmetic) (l r : Value) : Except Failure Value :=
  let unsupported := .error (.notSupported op.symbol l.kind r.kind)
  match l, r with
  | .integer a, .integer b => op.integers a b
  | .integer a, .float y => .ok (.float (op.floats (nearestFloat a) y))
  | .float x, .integer b => .ok (.float (op.floatByInteger x b))
  | .float x, .float y => .ok (.float (op.floats x y))
  | .integer a, .string t =>
      if op = .add then .ok (.string (integerText a ++ t)) else unsupported
  | .string s, r =>
      match op, appended? r with
      | .add, some t => .ok (.string (s ++ t))
      | _, _ => unsupported
  | .date d, .integer n =>
      match op with
      | .add => dateShift op d n.toInt
      | .subtract =>
          if n = Int64.minValue then .error (.overflow op.symbol) else dateShift op d (-n.toInt)
      | _ => unsupported
  | .date d, .date e => if op = .subtract then dateDifference d e else unsupported
  | .custom c, r =>
      if c.behavior.exposed.contains op.capability then
        (c.behavior.arithmetic op r.datum).map (·.value c.rules)
      else unsupported
  | _, _ => unsupported

def Value.negate (v : Value) : Except Failure Value :=
  let unsupported := .error (.unaryNotSupported Arithmetic.subtract.symbol v.kind)
  match v with
  | .integer n => checked Arithmetic.subtract.symbol (-n.toInt)
  | .float x => .ok (.float (-x))
  | .custom c =>
      if c.behavior.exposed.contains .negator then c.behavior.negation.map (·.value c.rules)
      else unsupported
  | _ => unsupported

end ScopedFormula
