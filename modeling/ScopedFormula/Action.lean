import ScopedFormula.Effect

/- Running a host's action. Evaluation of text inside an action is a parameter, so that
   re-entry is bounded in one place. -/
namespace ScopedFormula

def firstArg (args : List Value) : Value := args.head?.getD .null

def secondArg (args : List Value) : Value := args[1]?.getD .null

def lastArg (args : List Value) : Value := args.getLast?.getD .null

def joined (texts : List String) : String := ",".intercalate texts

def sumFrom (total : Int64) : List Value → Except Failure Value
  | [] => .ok (.integer total)
  | v :: vs => do
      let n ← v.toInteger
      let next := total.toInt + n.toInt
      if -integerLimit ≤ next ∧ next < integerLimit then sumFrom (Int64.ofInt next) vs
      else .error (.host "sum overflow")

def Effect.tick (counter : Nat) : Effect Value := fun st =>
  let n := st.ticks[counter]?.getD 0 + 1
  (.ok (.integer (Int64.ofNat n)), { st with ticks := st.ticks.set counter n })

def Effect.append (text : String) : Effect Unit := fun st =>
  (.ok (), { st with log := st.log ++ [text] })

def Action.perform (evaluate : ScopeId → String → Effect Value) (a : Action)
    (args : List Value) : Effect Value :=
  match a with
  | .const v => return v
  | .fail text => Effect.fail (.host text)
  | .last => return lastArg args
  | .count => return .integer (Int64.ofNat args.length)
  | .join => return .string (joined (args.map Value.text))
  | .kinds => return .string (joined (args.map Value.kind))
  | .sum => Effect.lift (sumFrom 0 args)
  | .half => do
      let x ← Effect.lift (firstArg args).toFloat
      return .float (x / 2)
  | .not => do
      let b ← Effect.lift (firstArg args).toBoolean
      return .boolean !b
  | .quote => do
      let s ← Effect.lift (firstArg args).toText
      return .string ("<" ++ s ++ ">")
  | .tick counter => Effect.tick counter
  | .log => do
      Effect.append (joined (args.map Value.text))
      return lastArg args
  | .define scope => do
      let name ← Effect.lift (firstArg args).toText
      let v := secondArg args
      Effect.update (·.defineVar scope name (.value v))
      return v
  | .evaluate scope => do
      let source ← Effect.lift (firstArg args).toText
      evaluate scope source
  | .builtin b => Effect.lift (b.run args)

end ScopedFormula
