import ScopedFormula.Expr
import ScopedFormula.Number.Places

/- The canonical text of an expression: single spaces around binary operators, none after
   prefix operators, a comma and a space between arguments, strings in double quotes and
   floats with six places. Operators are written by kind, whatever their lexeme. -/
namespace ScopedFormula

def floatPlaces : Nat := 6

def booleanLiteral (b : Bool) : String := if b then "True" else "False"

mutual
def Expr.print : Expr → String
  | .string s => "\"" ++ s ++ "\""
  | .integer n => toString n.toInt
  | .float x => placesText floatPlaces x
  | .boolean b => booleanLiteral b
  | .nil => "Nil"
  | .grouping inner => "(" ++ inner.print ++ ")"
  | .unary op operand => op.kind.text ++ operand.print
  | .binary left op right => left.print ++ " " ++ op.kind.text ++ " " ++ right.print
  | .name n => n
  | .member owner n => owner.print ++ "." ++ n
  | .call callee args => callee.print ++ "(" ++ ", ".intercalate (printAll args) ++ ")"

def printAll : List Expr → List String
  | [] => []
  | e :: es => e.print :: printAll es
end

end ScopedFormula
