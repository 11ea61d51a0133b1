import ScopedFormula.Value.Custom

/- Runtime values. A context is a scope, known by its number; a custom value is made by the
   host, which knows its capabilities. -/
namespace ScopedFormula

inductive Value where
  | integer (n : Int64)
  | float (x : Float)
  | string (s : String)
  | boolean (b : Bool)
  | null
  | date (d : Date)
  | context (scope : ScopeId)
  | custom (c : Custom)

instance : Inhabited Value := ⟨.null⟩

def Value.datum : Value → Datum
  | .integer n => .integer n
  | .float x => .float x
  | .string s => .string s
  | .boolean b => .boolean b
  | .null => .null
  | .date d => .date d
  | .context i => .context i
  | .custom c => .custom c.toFace

/-- The value that a host gives; a custom one has the rules of that host. -/
def Datum.value (rules : Face → Behavior) : Datum → Value
  | .integer n => .integer n
  | .float x => .float x
  | .string s => .string s
  | .boolean b => .boolean b
  | .null => .null
  | .date d => .date d
  | .context i => .context i
  | .custom face => .custom ⟨face, rules⟩

def Value.kind (v : Value) : String := v.datum.kind

def Value.text (v : Value) : String := v.datum.text

def Value.exposed : Value → List Capability
  | .integer _ | .float _ =>
      [.adder, .subtractor, .multiplexor, .divider, .moduler, .power, .negator, .comparer,
       .equalityComparer]
  | .string _ => [.adder, .comparer, .equalityComparer]
  | .boolean _ | .null => [.equalityComparer, .booleanConverter]
  | .date _ => [.adder, .subtractor, .comparer, .equalityComparer]
  | .context _ => []
  | .custom c => c.behavior.exposed

def Value.exposes (v : Value) (c : Capability) : Bool := v.exposed.contains c

/-- The host's equality: contexts and custom values are equal only to themselves. -/
def Value.same : Value → Value → Bool
  | .integer a, .integer b => a == b
  | .float x, .float y => x == y
  | .string s, .string t => s == t
  | .boolean a, .boolean b => a == b
  | .null, .null => true
  | .date d, .date e => d == e
  | .context i, .context j => i == j
  | .custom c, .custom d => c.identity == d.identity
  | _, _ => false

def Value.toInteger : Value → Except Failure Int64
  | .integer n => .ok n
  | v => .error (.host ("expected Integer, got " ++ v.kind))

/-- The float nearest to an integer; of two the one with an even mantissa. -/
def nearestFloat (n : Int64) : Float := Float.ofInt n.toInt

def Value.toFloat : Value → Except Failure Float
  | .integer n => .ok (nearestFloat n)
  | .float x => .ok x
  | v => .error (.host ("expected Float, got " ++ v.kind))

def Value.toText : Value → Except Failure String
  | .string s => .ok s
  | v => .error (.host ("expected String, got " ++ v.kind))

def Value.toBoolean : Value → Except Failure Bool
  | .boolean b => .ok b
  | v => .error (.host ("expected Boolean, got " ++ v.kind))

end ScopedFormula
