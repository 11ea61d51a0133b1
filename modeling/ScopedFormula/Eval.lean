import ScopedFormula.Action
import ScopedFormula.Expr.Print

/- Evaluation. Both operands of every operator are evaluated, left before right. A call looks
   up its method before its arguments, which are evaluated in the caller's scope; names behind
   an owner are looked up in the owner's context alone. -/
namespace ScopedFormula

def Value.place (name : String) (owner : Value) : Except Failure Place :=
  match owner with
  | .context i => .ok (.scope i)
  | .custom c =>
      match c.behavior.members with
      | some p => .ok p
      | none => .error (.notAContext name owner.kind)
  | _ => .error (.notAContext name owner.kind)

abbrev Performer := Action → List Value → Effect Value

def Binding.read (perform : Performer) : Binding → Effect Value
  | .value v => return v
  | .lazy a => perform a []

def readName (perform : Performer) (name : String) (place : Place) : Effect Value := do
  let found ← Effect.read (·.binding? name place)
  let b ← Effect.orFail found (.undefinedName name)
  (b.read perform).mapFailure (.variable name)

def findMethod (name : String) (place : Place) : Effect Action := do
  let found ← Effect.read (·.method? name place)
  Effect.orFail found (.undefinedMethod name)

def invoke (perform : Performer) (name : String) (a : Action) (args : List Value) :
    Effect Value :=
  (perform a args).mapFailure (.invocation name)

mutual
def Expr.evalWith (perform : Performer) (scope : ScopeId) : Expr → Effect Value
  | .string s => return .string s
  | .integer n => return .integer n
  | .float x => return .float x
  | .boolean b => return .boolean b
  | .nil => return .null
  | .grouping inner => inner.evalWith perform scope
  | .unary op operand => do
      let v ← operand.evalWith perform scope
      Effect.lift (v.unary op.kind)
  | .binary left op right => do
      let l ← left.evalWith perform scope
      let r ← right.evalWith perform scope
      Effect.lift (l.binary op.kind r)
  | .name n => readName perform n (.scope scope)
  | .member owner n => do
      let o ← owner.evalWith perform scope
      let place ← Effect.lift (o.place n)
      readName perform n place
  | .call (.name n) args => do
      let a ← findMethod n (.scope scope)
      let vs ← evalAll perform scope args
      invoke perform n a vs
  | .call (.member owner n) args => do
      let o ← owner.evalWith perform scope
      let place ← Effect.lift (o.place n)
      let a ← findMethod n place
      let vs ← evalAll perform scope args
      invoke perform n a vs
  | .call callee _ => Effect.fail (.invalidCallee callee.print)

def evalAll (perform : Performer) (scope : ScopeId) : List Expr → Effect (List Value)
  | [] => return []
  | e :: es => do
      let v ← e.evalWith perform scope
      let vs ← evalAll perform scope es
      return v :: vs
end

/-- Evaluates a text in which actions may re-enter evaluation so many levels deep. -/
def evaluateAt : Nat → ScopeId → String → Effect Value
  | 0, _, _ => Effect.fail .exhausted
  | depth + 1, scope, source => do
      let e ← Effect.lift (read source)
      e.evalWith (Action.perform (evaluateAt depth)) scope

def reentryLimit : Nat := 1000

def Action.run (a : Action) (args : List Value) : Effect Value :=
  a.perform (evaluateAt reentryLimit) args

def Expr.eval (e : Expr) (scope : ScopeId) : Effect Value := e.evalWith Action.run scope

def evaluate (scope : ScopeId) (source : String) : Effect Value := do
  let e ← Effect.lift (read source)
  e.eval scope

end ScopedFormula
