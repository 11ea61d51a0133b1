import ScopedFormula.Eval

/- Values, actions and host contexts as a host describes them. Building one makes the scopes,
   host contexts, counters and custom values that it needs, each anew. -/
namespace ScopedFormula

mutual
inductive ValueForm where
  | plain (v : Value)
  | context (vars : List (String × ValueForm)) (methods : List (String × ActionForm))
  | scope (id : String)
  | saved (name : String)
  | custom (name shown : String) (exposed rejected : List Capability) (ordering : Ordering)
      (equal truth : Bool) (members : Option HostForm)

inductive ActionForm where
  | plain (a : Action)
  | const (v : ValueForm)
  | tick
  | define (scope : String)
  | evaluate (scope : String)

/-- Names are looked up among the variables first, then among the lazy ones. -/
inductive HostForm where
  | mk (vars : List (String × ValueForm)) (lazies methods : List (String × ActionForm))
end

structure Names where
  scopes : List (String × ScopeId)
  saved : List (String × Value)

def Names.scope (ns : Names) (id : String) : Effect ScopeId :=
  Effect.orFail (ns.scopes.lookup id) (.host ("unknown scope " ++ id))

def Names.value (ns : Names) (name : String) : Effect Value :=
  Effect.orFail (ns.saved.lookup name) (.host ("unknown value " ++ name))

def defineVars (i : ScopeId) : List (String × Value) → Effect Unit
  | [] => return
  | (name, v) :: rest => do
      Effect.update (·.defineVar i name (.value v))
      defineVars i rest

def defineMethods (i : ScopeId) : List (String × Action) → Effect Unit
  | [] => return
  | (name, a) :: rest => do
      Effect.update (·.defineMethod i name a)
      defineMethods i rest

/-- Answers that are the same for all operands, in a text that names the operand; what is rejected
    fails. -/
def Behavior.listed (name shown : String) (exposed rejected : List Capability)
    (ordering : Ordering) (equal truth : Bool) (members : Option Place) : Behavior where
  exposed := exposed
  arithmetic op r :=
    if rejected.contains op.capability then .error (.notSupported op.symbol name r.kind)
    else .ok (.string (shown ++ "." ++ op.capability.name ++ "(" ++ r.text ++ ")"))
  negation :=
    if rejected.contains .negator then .error (.overflow Arithmetic.subtract.symbol)
    else .ok (.string (shown ++ "." ++ Capability.negator.name ++ "()"))
  ordering r :=
    if rejected.contains .comparer then .error (.notSupported orderSymbol name r.kind)
    else .ok ordering
  equality r :=
    if rejected.contains .equalityComparer then .error (.notSupported equalitySymbol name r.kind)
    else .ok equal
  truth := truth
  members := members

mutual
def ValueForm.build (ns : Names) : ValueForm → Effect Value
  | .plain v => return v
  | .context vars methods => do
      let bs ← buildValues ns vars
      let ms ← buildActions ns methods
      let i ← Effect.allocate (·.addScope none)
      defineVars i bs
      defineMethods i ms
      return .context i
  | .scope id => do
      let i ← ns.scope id
      return .context i
  | .saved name => ns.value name
  | .custom name shown exposed rejected ordering equal truth none => do
      let identity ← Effect.allocate Store.addCustom
      return .custom ⟨⟨identity, name, shown⟩, fun face =>
        .listed face.name face.shown exposed rejected ordering equal truth none⟩
  | .custom name shown exposed rejected ordering equal truth (some members) => do
      let h ← members.build ns
      let identity ← Effect.allocate Store.addCustom
      return .custom ⟨⟨identity, name, shown⟩, fun face =>
        .listed face.name face.shown exposed rejected ordering equal truth (some (.host h))⟩

def ActionForm.build (ns : Names) : ActionForm → Effect Action
  | .plain a => return a
  | .const v => do
      let w ← v.build ns
      return .const w
  | .tick => do
      let counter ← Effect.allocate Store.addCounter
      return .tick counter
  | .define id => do
      let i ← ns.scope id
      return .define i
  | .evaluate id => do
      let i ← ns.scope id
      return .evaluate i

def HostForm.build (ns : Names) : HostForm → Effect HostId
  | .mk vars lazies methods => do
      let vs ← buildValues ns vars
      let ls ← buildActions ns lazies
      let ms ← buildActions ns methods
      Effect.allocate (·.addHost
        ⟨vs.map (fun (n, v) => (n, .value v)) ++ ls.map (fun (n, a) => (n, .lazy a)), ms⟩)

def buildValues (ns : Names) : List (String × ValueForm) → Effect (List (String × Value))
  | [] => return []
  | (name, v) :: rest => do
      let w ← v.build ns
      let ws ← buildValues ns rest
      return (name, w) :: ws

def buildActions (ns : Names) : List (String × ActionForm) → Effect (List (String × Action))
  | [] => return []
  | (name, a) :: rest => do
      let b ← a.build ns
      let bs ← buildActions ns rest
      return (name, b) :: bs
end

end ScopedFormula
