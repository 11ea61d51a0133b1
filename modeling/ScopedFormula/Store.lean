import ScopedFormula.Builtin

/- The store: scopes and host contexts, the counters of ticking actions and the host's log.
   A scope is enclosed by an older scope or by a host context, so a walk outward ends. Scopes
   are never removed, and a name that a scope binds is never bound again in it. -/
namespace ScopedFormula

/-- What a host's method, or a lazy variable when run without arguments, does. -/
inductive Action where
  | const (v : Value)
  | fail (text : String)
  | last
  | count
  | join
  | kinds
  | sum
  | half
  | not
  | quote
  | tick (counter : Nat)
  | log
  | define (scope : ScopeId)
  | evaluate (scope : ScopeId)
  | builtin (b : Builtin)

inductive Binding where
  | value (v : Value)
  | lazy (a : Action)

structure Scope where
  vars : List (String × Binding)
  methods : List (String × Action)
  outer : Option Place

structure Host where
  vars : List (String × Binding)
  methods : List (String × Action)

/-- Customs counts the custom values made so far, and so numbers the next one. -/
structure Store where
  scopes : List Scope
  hosts : List Host
  ticks : List Nat
  customs : Nat
  log : List String

def Store.empty : Store := ⟨[], [], [], 0, []⟩

/-- A number without a scope names an empty one. -/
def Store.scope (st : Store) (i : ScopeId) : Scope := st.scopes[i]?.getD ⟨[], [], none⟩

def Store.host (st : Store) (i : HostId) : Host := st.hosts[i]?.getD ⟨[], []⟩

/-- The nearest binding outward from a scope; an enclosing scope is older than its inner one. -/
def Store.resolve (st : Store) (own : Scope → Option β) (hosted : Host → Option β)
    (i : ScopeId) : Option β :=
  match own (st.scope i) with
  | some b => some b
  | none =>
      match (st.scope i).outer with
      | none => none
      | some (.host h) => hosted (st.host h)
      | some (.scope p) => if p < i then st.resolve own hosted p else none
termination_by i

def Store.binding? (st : Store) (name : String) : Place → Option Binding
  | .scope i => st.resolve (·.vars.lookup name) (·.vars.lookup name) i
  | .host h => (st.host h).vars.lookup name

def Store.method? (st : Store) (name : String) : Place → Option Action
  | .scope i => st.resolve (·.methods.lookup name) (·.methods.lookup name) i
  | .host h => (st.host h).methods.lookup name

def Store.setScope (st : Store) (i : ScopeId) (s : Scope) : Store :=
  { st with scopes := st.scopes.set i s }

def Store.addScope (st : Store) (outer : Option Place) : ScopeId × Store :=
  (st.scopes.length, { st with scopes := st.scopes ++ [⟨[], [], outer⟩] })

def Store.addHost (st : Store) (h : Host) : HostId × Store :=
  (st.hosts.length, { st with hosts := st.hosts ++ [h] })

def Store.addCounter (st : Store) : Nat × Store :=
  (st.ticks.length, { st with ticks := st.ticks ++ [0] })

def Store.addCustom (st : Store) : Nat × Store :=
  (st.customs, { st with customs := st.customs + 1 })

def Store.defineVar (st : Store) (i : ScopeId) (name : String) (b : Binding) :
    Except Failure Store :=
  let s := st.scope i
  match s.vars.lookup name with
  | some _ => .error (.nameExists name)
  | none => .ok (st.setScope i { s with vars := s.vars ++ [(name, b)] })

def Store.defineMethod (st : Store) (i : ScopeId) (name : String) (a : Action) :
    Except Failure Store :=
  let s := st.scope i
  match s.methods.lookup name with
  | some _ => .error (.methodExists name)
  | none => .ok (st.setScope i { s with methods := s.methods ++ [(name, a)] })

/-- Installs builtins up to the first whose name is taken; those before it stay. -/
def Store.install (st : Store) (i : ScopeId) : List Builtin → Except Failure Unit × Store
  | [] => (.ok (), st)
  | b :: bs =>
      match st.defineMethod i b.name (.builtin b) with
      | .ok st' => st'.install i bs
      | .error e => (.error e, st)

end ScopedFormula
