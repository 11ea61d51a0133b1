import ScopedFormula.Session.Form
import ScopedFormula.Store.Describe

/- Sessions: a host's steps on one store, each answered, a failing one too. Scopes, kept values
   and kept trees are known by the names that the host gives them. -/
namespace ScopedFormula

structure Session where
  store : Store
  scopes : List (String × ScopeId)
  saved : List (String × Value)
  trees : List (String × Expr)

def Session.empty : Session := ⟨.empty, [], [], []⟩

inductive Enclosure where
  | none
  | scope (id : String)
  | host (h : HostForm)

inductive TreeForm where
  | named (name : String)
  | given (e : Expr)

inductive Step where
  | scope (id : String) (outer : Enclosure)
  | define (scope name : String) (v : ValueForm)
  | lazy (scope name : String) (a : ActionForm)
  | method (scope name : String) (a : ActionForm)
  | builtins (scope : String)
  | eval (scope source : String) (save : Option String)
  | parse (as source : String)
  | evalTree (scope : String) (tree : TreeForm) (save : Option String)
  | run (scope source : String)
  | resolve (scope name : String) (save : Option String)
  | invoke (scope name : String) (args : List ValueForm) (save : Option String)
  | outer (scope name : String)
  | debug (scope : String)
  | same (left right : ValueForm)
  | log

inductive Reply where
  | done
  | absent
  | value (v : Value)
  | text (s : String)
  | print (s : String)
  | outside (v : Option (Except Failure Value)) (method : Bool)
  | description (s : String) (outer : Bool)
  | same (b : Bool)
  | log (texts : List String)
  | failure (e : Failure)

def Session.names (s : Session) : Names := ⟨s.scopes, s.saved⟩

def Session.perform (s : Session) (x : Effect α) (after : Session → α → Reply × Session) :
    Reply × Session :=
  match x s.store with
  | (.ok a, st) => after { s with store := st } a
  | (.error e, st) => (.failure e, { s with store := st })

def Session.keep (s : Session) (save : Option String) (v : Value) : Session :=
  match save with
  | some name => { s with saved := (name, v) :: s.saved }
  | none => s

def answer (save : Option String) (s : Session) (v : Value) : Reply × Session :=
  (.value v, s.keep save v)

def answerOption (save : Option String) (s : Session) : Option Value → Reply × Session
  | some v => answer save s v
  | none => (.absent, s)

def finished (s : Session) (_ : Unit) : Reply × Session := (.done, s)

def enclosure (ns : Names) : Enclosure → Effect (Option Place)
  | .none => return none
  | .scope id => do
      let i ← ns.scope id
      return some (.scope i)
  | .host h => do
      let i ← h.build ns
      return some (.host i)

def buildArgs (ns : Names) : List ValueForm → Effect (List Value)
  | [] => return []
  | f :: fs => do
      let v ← f.build ns
      let vs ← buildArgs ns fs
      return v :: vs

def Session.tree (s : Session) : TreeForm → Effect Expr
  | .given e => return e
  | .named name => Effect.orFail (s.trees.lookup name) (.host ("unknown tree " ++ name))

/-- The value of a variable that may be missing; its failure is not wrapped. -/
def readAt (name : String) (place : Place) : Effect (Option Value) := do
  match ← Effect.read (·.binding? name place) with
  | some b => some <$> b.read Action.run
  | none => return none

def invokeAt (name : String) (place : Place) (args : List Value) : Effect (Option Value) := do
  match ← Effect.read (·.method? name place) with
  | some a => some <$> a.run args
  | none => return none

def lookOutside (i : ScopeId) (name : String) :
    Effect (Option (Option (Except Failure Value) × Bool)) := fun st =>
  match (st.scope i).outer with
  | none => (.ok none, st)
  | some place =>
      let method := (st.method? name place).isSome
      match readAt name place st with
      | (.ok v, st') => (.ok (some (v.map .ok, method)), st')
      | (.error e, st') => (.ok (some (some (.error e), method)), st')

def Session.step (s : Session) : Step → Reply × Session
  | .scope id outer =>
      s.perform (do
        let place ← enclosure s.names outer
        Effect.allocate (·.addScope place)) fun s i =>
          (.done, { s with scopes := (id, i) :: s.scopes })
  | .define scope name v =>
      s.perform (do
        let i ← s.names.scope scope
        let w ← v.build s.names
        Effect.update (·.defineVar i name (.value w))) finished
  | .lazy scope name a =>
      s.perform (do
        let i ← s.names.scope scope
        let b ← a.build s.names
        Effect.update (·.defineVar i name (.lazy b))) finished
  | .method scope name a =>
      s.perform (do
        let i ← s.names.scope scope
        let b ← a.build s.names
        Effect.update (·.defineMethod i name b)) finished
  | .builtins scope =>
      s.perform (do
        let i ← s.names.scope scope
        fun st => st.install i Builtin.all) finished
  | .eval scope source save =>
      s.perform (do
        let i ← s.names.scope scope
        evaluate i source) (answer save)
  | .parse as source =>
      s.perform (Effect.lift (read source)) fun s e =>
        (.print e.print, { s with trees := (as, e) :: s.trees })
  | .evalTree scope tree save =>
      s.perform (do
        let i ← s.names.scope scope
        let e ← s.tree tree
        e.eval i) (answer save)
  | .run scope source =>
      s.perform (do
        let i ← s.names.scope scope
        evaluate i source) fun s v => (.text v.text, s)
  | .resolve scope name save =>
      s.perform (do
        let i ← s.names.scope scope
        readAt name (.scope i)) (answerOption save)
  | .invoke scope name args save =>
      s.perform (do
        let i ← s.names.scope scope
        let vs ← buildArgs s.names args
        invokeAt name (.scope i) vs) (answerOption save)
  | .outer scope name =>
      s.perform (do
        let i ← s.names.scope scope
        lookOutside i name) fun s r =>
          match r with
          | some (v, method) => (.outside v method, s)
          | none => (.absent, s)
  | .debug scope =>
      s.perform (do
        let i ← s.names.scope scope
        Effect.read (·.scope i)) fun s sc => (.description sc.describe sc.outer.isSome, s)
  | .same left right =>
      s.perform (do
        let l ← left.build s.names
        let r ← right.build s.names
        return l.same r) fun s b => (.same b, s)
  | .log =>
      (.log s.store.log, { s with store := { s.store with log := [] } })

def Session.run (s : Session) : List Step → List Reply × Session
  | [] => ([], s)
  | x :: xs =>
      let (r, s') := s.step x
      let (rs, s'') := s'.run xs
      (r :: rs, s'')

/-- The first failure of the steps, or the reply to the last one. -/
def Session.outcome (s : Session) (last : Reply) : List Step → Reply × Session
  | [] => (last, s)
  | x :: xs =>
      match s.step x with
      | (.failure e, s') => (.failure e, s')
      | (r, s') => s'.outcome r xs

/-- The name of the scope that a value is, the least one if it has several. -/
def Session.scopeName? (s : Session) : Value → Option String
  | .context i =>
      let named := s.scopes.filter fun (id, j) => j == i && s.scopes.lookup id == some i
      (sortNames (named.map Prod.fst)).head?
  | _ => none

end ScopedFormula
