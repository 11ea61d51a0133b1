import ScopedFormula.Failure
import ScopedFormula.Date

/- What values may be able to do, and the values of a host's own kinds, which do it as the host
   says. -/
namespace ScopedFormula

inductive Arithmetic where
  | add | subtract | multiply | divide | modulo | power
  deriving DecidableEq, Repr

def Arithmetic.symbol : Arithmetic → String
  | .add => "+"
  | .subtract => "-"
  | .multiply => "*"
  | .divide => "/"
  | .modulo => "%"
  | .power => "**"

/-- What a value may be able to do; the left operand is asked for it. -/
inductive Capability where
  | adder | subtractor | multiplexor | divider | moduler | power | negator
  | comparer | equalityComparer | booleanConverter
  deriving DecidableEq, Repr

def Capability.name : Capability → String
  | .adder => "adder"
  | .subtractor => "subtractor"
  | .multiplexor => "multiplexor"
  | .divider => "divider"
  | .moduler => "moduler"
  | .power => "power"
  | .negator => "negator"
  | .comparer => "comparer"
  | .equalityComparer => "equality_comparer"
  | .booleanConverter => "boolean_converter"

def Capability.all : List Capability :=
  [.adder, .subtractor, .multiplexor, .divider, .moduler, .power, .negator, .comparer,
   .equalityComparer, .booleanConverter]

def Arithmetic.capability : Arithmetic → Capability
  | .add => .adder
  | .subtract => .subtractor
  | .multiply => .multiplexor
  | .divide => .divider
  | .modulo => .moduler
  | .power => .power

abbrev ScopeId := Nat

abbrev HostId := Nat

inductive Place where
  | scope (i : ScopeId)
  | host (i : HostId)
  deriving DecidableEq, Repr

/-- What a custom value shows of itself. Its host knows the rest by its number. -/
structure Face where
  identity : Nat
  name : String
  shown : String
  deriving DecidableEq, Repr

inductive Datum where
  | integer (n : Int64)
  | float (x : Float)
  | string (s : String)
  | boolean (b : Bool)
  | null
  | date (d : Date)
  | context (scope : ScopeId)
  | custom (face : Face)
  deriving DecidableEq, Repr

def Datum.kind : Datum → String
  | .integer _ => "Integer"
  | .float _ => "Float"
  | .string _ => "String"
  | .boolean _ => "Boolean"
  | .null => "Null"
  | .date _ => "Date"
  | .context _ => "Context"
  | .custom face => face.name

def integerText (n : Int64) : String := toString n.toInt

def booleanText (b : Bool) : String := if b then "true" else "false"

def Datum.text : Datum → String
  | .integer n => integerText n
  | .float x => floatText x
  | .string s => s
  | .boolean b => booleanText b
  | .null => "nil"
  | .date d => d.text
  | .context _ => "<context>"
  | .custom face => face.shown

/-- The answers of a custom value to its operands, and where its members are looked up. -/
structure Behavior where
  exposed : List Capability
  arithmetic : Arithmetic → Datum → Except Failure Datum
  negation : Except Failure Datum
  ordering : Datum → Except Failure Ordering
  equality : Datum → Except Failure Bool
  truth : Bool
  members : Option Place

/-- The rules are those of its host, for all custom values of that host. -/
structure Custom extends Face where
  rules : Face → Behavior

def Custom.behavior (c : Custom) : Behavior := c.rules c.toFace

end ScopedFormula
