import ScopedFormula.Token

/- Expression trees. Operators keep the token they were read from; a name may have an owner,
   as b has the owner a in a.b. -/
namespace ScopedFormula

inductive Expr where
  | string (s : String)
  | integer (n : Int64)
  | float (x : Float)
  | boolean (b : Bool)
  | nil
  | grouping (inner : Expr)
  | unary (op : Token) (operand : Expr)
  | binary (left : Expr) (op : Token) (right : Expr)
  | name (n : String)
  | member (owner : Expr) (n : String)
  | call (callee : Expr) (args : List Expr)
  deriving Repr, Inhabited

/-- Binding strength of the binary operators, from 1 for || to 8 for the power. -/
def binaryLevel? : TokenKind → Option Nat
  | .or => some 1
  | .and => some 2
  | .eq | .notEq => some 4
  | .lt | .ltEq | .gt | .gtEq => some 5
  | .plus | .minus => some 6
  | .asterisk | .slash | .percent => some 7
  | .power => some 8
  | _ => none

/-- Prefix ! binds weaker than the comparisons, prefix - stronger than the power. -/
def prefixLevel? : TokenKind → Option Nat
  | .bang => some 3
  | .minus => some 9
  | _ => none

def postfixLevel : Nat := 10

def primaryLevel : Nat := 11

/-- Deepest nesting of groupings, prefix operators, calls and member access in one expression. -/
def maxDepth : Nat := 128

end ScopedFormula
