import ScopedFormula.Token.Scan
import ScopedFormula.Expr.Parse
import ScopedFormula.Number.Shortest

/- Everything that can go wrong, as causes; text gives the wording. A failure inside a host's
   variable or method is kept as the reason of the failure outside. -/
namespace ScopedFormula

inductive Failure where
  | scan (e : ScanError)
  | parse (e : ParseError)
  | undefinedName (name : String)
  | undefinedMethod (name : String)
  | notAContext (name kind : String)
  | invalidCallee (found : String)
  | notSupported (op left right : String)
  | unaryNotSupported (op operand : String)
  | divisionByZero
  | unordered (left right : Float)
  | overflow (op : String)
  | invocation (name : String) (reason : Failure)
  | variable (name : String) (reason : Failure)
  | nameExists (name : String)
  | methodExists (name : String)
  | host (text : String)
  | exhausted
  deriving DecidableEq, Repr

def Failure.text : Failure → String
  | .scan e => e.text
  | .parse e => e.text
  | .undefinedName name => "identifier not found: " ++ name
  | .undefinedMethod name => "method not found: " ++ name
  | .notAContext name kind => "cannot resolve " ++ name ++ ": " ++ kind ++ " is not a context"
  | .invalidCallee found => "expected identifier as call target, found " ++ found
  | .notSupported op left right =>
      "operation \"" ++ op ++ "\" not supported for types " ++ left ++ " and " ++ right
  | .unaryNotSupported op operand =>
      "operation \"" ++ op ++ "\" not supported for type " ++ operand
  | .divisionByZero => "division by zero"
  | .unordered left right => "cannot order " ++ floatText left ++ " and " ++ floatText right
  | .overflow op => "integer overflow in \"" ++ op ++ "\""
  | .invocation name reason => "method " ++ name ++ " failed: " ++ reason.text
  | .variable name reason => "variable " ++ name ++ " could not be resolved: " ++ reason.text
  | .nameExists name => "var " ++ name ++ " already exists"
  | .methodExists name => "method " ++ name ++ " already exists"
  | .host text => text
  | .exhausted => "evaluation re-entered too often"

def read (source : String) : Except Failure Expr :=
  match scan source with
  | .error e => .error (.scan e)
  | .ok tokens =>
      match parse tokens with
      | .error e => .error (.parse e)
      | .ok e => .ok e

end ScopedFormula
