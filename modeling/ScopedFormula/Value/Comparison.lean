import ScopedFormula.Value

/- Ordering, equality and truth of values. The four relational operators share one ordering,
   which their errors call cmp; a float that is no number has no order. -/
namespace ScopedFormula

def orderSymbol : String := "cmp"

def orderFloats (x y : Float) : Except Failure Ordering :=
  if x < y then .ok .lt
  else if x == y then .ok .eq
  else if y < x then .ok .gt
  else .error (.unordered x y)

def Value.order (l r : Value) : Except Failure Ordering :=
  let unsupported := .error (.notSupported orderSymbol l.kind r.kind)
  match l, r with
  | .integer a, .integer b => .ok (compare a.toInt b.toInt)
  | .integer a, .float y => orderFloats (nearestFloat a) y
  | .float x, .integer b => orderFloats x (nearestFloat b)
  | .float x, .float y => orderFloats x y
  | .string s, .string t => .ok (compare s t)
  | .date d, .date e => .ok (compare d.nanos e.nanos)
  | .custom c, _ =>
      if c.behavior.exposed.contains .comparer then c.behavior.ordering r.datum else unsupported
  | _, _ => unsupported

def equalitySymbol : String := "=="

/-- Contexts have no equality. A value without one is reported under the operator's own
    symbol; a custom value that has one is not told which operator asks. -/
def Value.equals (symbol : String) (l r : Value) : Except Failure Bool :=
  match l, r with
  | .integer a, .integer b => .ok (a == b)
  | .integer a, .float y => .ok (nearestFloat a == y)
  | .float x, .integer b => .ok (x == nearestFloat b)
  | .float x, .float y => .ok (x == y)
  | .string s, .string t => .ok (s == t)
  | .boolean a, .boolean b => .ok (a == b)
  | .null, .null => .ok true
  | .date d, .date e => .ok (d.nanos == e.nanos)
  | .context _, _ => .error (.notSupported symbol l.kind r.kind)
  | .custom c, _ =>
      if c.behavior.exposed.contains .equalityComparer then c.behavior.equality r.datum
      else .error (.notSupported symbol l.kind r.kind)
  | _, _ => .ok false

def Value.truth? : Value → Option Bool
  | .boolean b => some b
  | .null => some false
  | .custom c =>
      if c.behavior.exposed.contains .booleanConverter then some c.behavior.truth else none
  | _ => none

end ScopedFormula
