import ScopedFormula.CommandLine
import ScopedFormula.Proofs.Evaluation.Code
import ScopedFormula.Proofs.Scopes.Chain

/- Scopes that hold values and builtins alone, such as those of the command line. There an
   expression has a result that depends on what its names mean and on nothing else, and finding it
   leaves the store as it was. -/
namespace ScopedFormula

/-- Names may be looked up behind the value, or behind what a host makes of it. -/
def Value.owns : Value → Bool
  | .context _ | .custom _ => true
  | _ => false

/-- A value that comes out owns nothing. -/
def Lone (x : Except Failure Value) : Prop := ∀ v, x = .ok v → v.owns = false

variable {v : Value} {f : Failure} {x y : Except Failure Value} {α β : Type}

theorem place_of_lone (lone : v.owns = false) (n : String) :
    v.place n = .error (.notAContext n v.kind) := by
  cases v with
  | context | custom => contradiction
  | _ => rfl

theorem lone_ok (lone : v.owns = false) : Lone (.ok v) := by
  intro w same
  exact Except.ok.inj same ▸ lone

theorem lone_error : Lone (.error f) := by
  intro w none
  contradiction

theorem lone_ite {c : Prop} [Decidable c] (first : Lone x) (second : Lone y) :
    Lone (if c then x else y) := by
  by_cases h : c
  · rwa [if_pos h]
  · rwa [if_neg h]

theorem lone_bind {y : Except Failure α} {k : α → Except Failure Value}
    (each : ∀ a, y = .ok a → Lone (k a)) : Lone (y >>= k) := by
  cases y with
  | error f => exact lone_error
  | ok a => exact each a rfl

theorem lone_mapError (account : Failure → Failure) (lone : Lone x) :
    Lone (x.mapError account) := by
  cases x with
  | error f => exact lone_error
  | ok v => exact lone

theorem lone_checked (op : String) (n : Int) : Lone (checked op n) :=
  lone_ite (lone_ok rfl) lone_error

theorem lone_integers (op : Arithmetic) (a b : Int64) : Lone (op.integers a b) := by
  cases op with
  | add | subtract | multiply => exact lone_checked _ _
  | divide => exact lone_ite lone_error (lone_checked _ _)
  | modulo => exact lone_ite lone_error (lone_bind fun _ _ => lone_checked _ _)
  | power => exact lone_ite (lone_ok rfl) (lone_ite lone_error (lone_checked _ _))

theorem lone_dateShift (op : Arithmetic) (d : Date) (n : Int) : Lone (dateShift op d n) := by
  unfold dateShift
  split
  · exact lone_ok rfl
  · exact lone_error

theorem lone_arithmetic (op : Arithmetic) {l : Value} (lone : l.owns = false) (r : Value) :
    Lone (l.arithmetic op r) := by
  unfold Value.arithmetic
  dsimp only
  split
  · exact lone_integers _ _ _
  · exact lone_ok rfl
  · exact lone_ok rfl
  · exact lone_ok rfl
  · exact lone_ite (lone_ok rfl) lone_error
  · split
    · exact lone_ok rfl
    · exact lone_error
  · split
    · exact lone_dateShift _ _ _
    · exact lone_ite lone_error (lone_dateShift _ _ _)
    · exact lone_error
  · exact lone_ite (lone_ite (lone_ok rfl) lone_error) lone_error
  · contradiction
  · exact lone_error

theorem lone_negate (lone : v.owns = false) : Lone v.negate := by
  cases v with
  | integer n => exact lone_checked _ _
  | float x => exact lone_ok rfl
  | custom c => contradiction
  | _ => exact lone_error

theorem lone_unary (op : TokenKind) (lone : v.owns = false) : Lone (v.unary op) := by
  unfold Value.unary
  split
  · exact lone_negate lone
  · split
    · exact lone_ok rfl
    · exact lone_error
  · exact lone_error

theorem lone_connect (op : TokenKind) (l r : Value) : Lone (l.connect op r) := by
  unfold Value.connect
  split
  · exact lone_ok rfl
  · exact lone_ok rfl
  · exact lone_error

theorem lone_binary (op : TokenKind) {l : Value} (lone : l.owns = false) (r : Value) :
    Lone (l.binary op r) := by
  unfold Value.binary
  split
  · exact lone_arithmetic _ lone r
  · split
    · exact lone_bind fun _ _ => lone_ok rfl
    · exact lone_ite (lone_bind fun _ _ => lone_ok rfl) (lone_connect op l r)

theorem lone_extreme (b : Builtin) (wins : Ordering → Bool) {best : Value} {vs : List Value}
    (first : best.owns = false) (others : ∀ v ∈ vs, v.owns = false) :
    Lone (extreme b wins best vs) := by
  induction vs generalizing best with
  | nil => exact lone_ok first
  | cons v vs ih =>
    have later : ∀ w ∈ vs, w.owns = false := fun w mem => others w (List.mem_cons_of_mem v mem)
    refine lone_ite (lone_bind fun o _ => ih ?_ later) lone_error
    by_cases better : wins o
    · rw [if_pos better]
      exact others v List.mem_cons_self
    · rwa [if_neg better]

theorem lone_extremeOf (b : Builtin) (wins : Ordering → Bool) {vs : List Value}
    (lone : ∀ v ∈ vs, v.owns = false) : Lone (b.extremeOf wins vs) := by
  cases vs with
  | nil => exact lone_error
  | cons v vs =>
    exact lone_extreme b wins (lone v List.mem_cons_self)
      fun w mem => lone w (List.mem_cons_of_mem v mem)

theorem lone_single (b : Builtin) {g : Value → Except Failure Value} (each : ∀ v, Lone (g v))
    (vs : List Value) : Lone (b.single g vs) := by
  unfold Builtin.single
  split
  · exact each _
  · exact lone_error

theorem lone_absolute (v : Value) : Lone (absolute v) := by
  cases v with
  | integer n => exact lone_ite (lone_ok rfl) lone_error
  | float x => exact lone_ok rfl
  | _ => exact lone_error

theorem lone_textLength (v : Value) : Lone (textLength v) := by
  cases v with
  | string s => exact lone_ok rfl
  | _ => exact lone_error

theorem lone_mapText (b : Builtin) (g : String → String) (v : Value) : Lone (mapText b g v) := by
  cases v with
  | string s => exact lone_ok rfl
  | _ => exact lone_error

theorem lone_run (b : Builtin) {vs : List Value} (lone : ∀ v ∈ vs, v.owns = false) :
    Lone (b.run vs) := by
  cases b with
  | max | min => exact lone_extremeOf _ _ lone
  | abs => exact lone_single _ lone_absolute vs
  | len => exact lone_single _ lone_textLength vs
  | upper | lower => exact lone_single _ (lone_mapText _ _) vs

/-- A scope of its own that binds values which own nothing, and builtins. -/
structure Scope.Plain (s : Scope) : Prop where
  vars : ∀ n b, s.vars.lookup n = some b → ∃ v, b = .value v ∧ v.owns = false
  methods : ∀ n a, s.methods.lookup n = some a → ∃ b, a = .builtin b
  outer : s.outer = none

def Scope.value? (s : Scope) (n : String) : Option Value :=
  match s.vars.lookup n with
  | some (.value v) => some v
  | _ => none

def Scope.builtin? (s : Scope) (n : String) : Option Builtin :=
  match s.methods.lookup n with
  | some (.builtin b) => some b
  | _ => none

section
variable (values : String → Option Value) (builtins : String → Option Builtin)

mutual
/-- What an expression comes to when nothing owns a name. -/
def Expr.result : Expr → Except Failure Value
  | .string s => .ok (.string s)
  | .integer n => .ok (.integer n)
  | .float x => .ok (.float x)
  | .boolean b => .ok (.boolean b)
  | .nil => .ok .null
  | .grouping inner => inner.result
  | .unary op operand => do
      let v ← operand.result
      v.unary op.kind
  | .binary left op right => do
      let l ← left.result
      let r ← right.result
      l.binary op.kind r
  | .name n =>
      match values n with
      | some v => .ok v
      | none => .error (.undefinedName n)
  | .member owner n => do
      let o ← owner.result
      .error (.notAContext n o.kind)
  | .call (.name n) args =>
      match builtins n with
      | some b => do
          let vs ← resultAll args
          (b.run vs).mapError (.invocation n)
      | none => .error (.undefinedMethod n)
  | .call (.member owner n) _ => do
      let o ← owner.result
      .error (.notAContext n o.kind)
  | .call callee _ => .error (.invalidCallee callee.print)

def resultAll : List Expr → Except Failure (List Value)
  | [] => .ok []
  | e :: es => do
      let v ← e.result
      let vs ← resultAll es
      .ok (v :: vs)
end
end

variable {st st' : Store} {i : ScopeId} {n : String}
variable {values : String → Option Value} {builtins : String → Option Builtin}

mutual
theorem lone_result (lone : ∀ n v, values n = some v → v.owns = false) :
    ∀ e : Expr, Lone (e.result values builtins)
  | .string _ | .integer _ | .float _ | .boolean _ | .nil => lone_ok rfl
  | .grouping inner => lone_result lone inner
  | .unary op operand => lone_bind fun v known =>
      lone_unary op.kind (lone_result lone operand v known)
  | .binary left op right => lone_bind fun l known => lone_bind fun r _ =>
      lone_binary op.kind (lone_result lone left l known) r
  | .name n => by
    unfold Expr.result
    split
    · rename_i v bound
      exact lone_ok (lone n v bound)
    · exact lone_error
  | .member _ _ | .call (.member _ _) _ => lone_bind fun _ _ => lone_error
  | .call (.name n) args => by
    unfold Expr.result
    split
    · rename_i b found
      apply lone_bind
      intro vs known
      exact lone_mapError _ (lone_run b (lone_resultAll lone args vs known))
    · exact lone_error
  | .call (.string _) _ | .call (.integer _) _ | .call (.float _) _ | .call (.boolean _) _
  | .call .nil _ | .call (.grouping _) _ | .call (.unary ..) _ | .call (.binary ..) _
  | .call (.call ..) _ => lone_error

theorem lone_resultAll (lone : ∀ n v, values n = some v → v.owns = false) :
    ∀ (es : List Expr) (vs : List Value), resultAll values builtins es = .ok vs →
      ∀ v ∈ vs, v.owns = false
  | [], vs, same => by
    cases same
    exact fun v none => nomatch none
  | e :: es, vs, same => by
    unfold resultAll at same
    cases first : e.result values builtins with
    | error f =>
      rw [first] at same
      contradiction
    | ok v =>
      cases rest : resultAll values builtins es with
      | error f =>
        rw [first, rest] at same
        contradiction
      | ok ws =>
        rw [first, rest] at same
        cases same
        intro w mem
        rcases List.mem_cons.mp mem with rfl | later
        · exact lone_result lone e w first
        · exact lone_resultAll lone es ws rest w later
end

theorem bind_still {y : Effect α} {k : α → Effect β} {a : Except Failure α} (first : y st = (a, st))
    {g : α → Except Failure β} (rest : ∀ b, a = .ok b → k b st = (g b, st)) :
    (y >>= k) st = (a >>= g, st) := by
  cases a with
  | error f => exact Effect.bind_of_error first
  | ok b => exact (Effect.bind_of_ok first).trans (rest b rfl)

theorem binding_plain (plain : (st.scope i).Plain) (n : String) :
    st.binding? n (.scope i) = (st.scope i).vars.lookup n := by
  rw [Store.binding?, Store.resolve, plain.outer]
  cases (st.scope i).vars.lookup n <;> rfl

theorem method_plain (plain : (st.scope i).Plain) (n : String) :
    st.method? n (.scope i) = (st.scope i).methods.lookup n := by
  rw [Store.method?, Store.resolve, plain.outer]
  cases (st.scope i).methods.lookup n <;> rfl

theorem value_plain (plain : (st.scope i).Plain) (v : Value)
    (known : (st.scope i).value? n = some v) : v.owns = false := by
  unfold Scope.value? at known
  split at known
  · rename_i w bound
    obtain ⟨u, same, lone⟩ := plain.vars n _ bound
    cases same
    cases known
    exact lone
  · contradiction

theorem readName_plain (plain : (st.scope i).Plain) (n : String) :
    readName Action.run n (.scope i) st =
      ((Expr.name n).result (st.scope i).value? (st.scope i).builtin?, st) := by
  rw [readName_apply, binding_plain plain, Expr.result, Scope.value?]
  cases bound : (st.scope i).vars.lookup n with
  | none => rfl
  | some b =>
    obtain ⟨v, rfl, -⟩ := plain.vars n b bound
    rfl

theorem findMethod_plain (plain : (st.scope i).Plain) (n : String) :
    findMethod n (.scope i) st = match (st.scope i).builtin? n with
      | some b => (.ok (.builtin b), st)
      | none => (.error (.undefinedMethod n), st) := by
  rw [findMethod_apply, method_plain plain, Scope.builtin?]
  cases found : (st.scope i).methods.lookup n with
  | none => rfl
  | some a =>
    obtain ⟨b, rfl⟩ := plain.methods n a found
    rfl

theorem invoke_builtin (n : String) (b : Builtin) (vs : List Value) (st : Store) :
    invoke Action.run n (.builtin b) vs st = ((b.run vs).mapError (.invocation n), st) := by
  have run : (Action.builtin b).run vs st = (b.run vs, st) := rfl
  rw [invoke, Effect.mapFailure, run]
  cases b.run vs <;> rfl

theorem owner_plain (plain : (st.scope i).Plain) {owner : Expr} {o : Value}
    (known : owner.result (st.scope i).value? (st.scope i).builtin? = .ok o) (n : String)
    (k : Place → Effect α) :
    (Effect.lift (o.place n) >>= k) st = (.error (.notAContext n o.kind), st) := by
  rw [place_of_lone (lone_result (fun _ v => value_plain plain v) owner o known)]
  rfl

mutual
/-- Evaluation in a plain scope finds the result and changes nothing. -/
theorem evalWith_plain (plain : (st.scope i).Plain) : ∀ e : Expr, e.evalWith Action.run i st =
    (e.result (st.scope i).value? (st.scope i).builtin?, st)
  | .string _ | .integer _ | .float _ | .boolean _ | .nil => rfl
  | .grouping inner => by
    rw [Expr.evalWith, Expr.result]
    exact evalWith_plain plain inner
  | .unary op operand => by
    rw [Expr.evalWith, Expr.result]
    exact bind_still (evalWith_plain plain operand) fun v _ => rfl
  | .binary left op right => by
    rw [Expr.evalWith, Expr.result]
    apply bind_still (evalWith_plain plain left)
    intro l _
    exact bind_still (evalWith_plain plain right) fun r _ => rfl
  | .name n => by
    rw [Expr.evalWith]
    exact readName_plain plain n
  | .member owner n => by
    rw [Expr.evalWith, Expr.result]
    exact bind_still (evalWith_plain plain owner) fun o known => owner_plain plain known n _
  | .call (.name n) args => by
    have found := findMethod_plain plain n
    rw [Expr.evalWith, Expr.result]
    cases known : (st.scope i).builtin? n with
    | none =>
      rw [known] at found
      exact Effect.bind_of_error found
    | some b =>
      rw [known] at found
      rw [Effect.bind_of_ok found]
      exact bind_still (evalAll_plain plain args) fun vs _ => invoke_builtin n b vs st
  | .call (.member owner n) args => by
    rw [Expr.evalWith, Expr.result]
    exact bind_still (evalWith_plain plain owner) fun o known => owner_plain plain known n _
  | .call (.string _) _ | .call (.integer _) _ | .call (.float _) _ | .call (.boolean _) _
  | .call .nil _ | .call (.grouping _) _ | .call (.unary ..) _ | .call (.binary ..) _
  | .call (.call ..) _ => rfl

theorem evalAll_plain (plain : (st.scope i).Plain) : ∀ es : List Expr,
    evalAll Action.run i es st =
      (resultAll (st.scope i).value? (st.scope i).builtin? es, st)
  | [] => rfl
  | e :: es => by
    rw [evalAll, resultAll]
    apply bind_still (evalWith_plain plain e)
    intro v _
    exact bind_still (evalAll_plain plain es) fun vs _ => rfl
end

theorem evaluate_plain (plain : (st.scope i).Plain) (source : String) :
    (evaluate i source st).2 = st ∧ Lone (evaluate i source st).1 := by
  cases reads : read source with
  | error f =>
    have fails : evaluate i source st = (.error f, st) := by
      rw [evaluate, reads]
      rfl
    rw [fails]
    exact ⟨rfl, lone_error⟩
  | ok e =>
    have evaluated : evaluate i source st = e.evalWith Action.run i st := by
      rw [evaluate, reads]
      rfl
    rw [evaluated, evalWith_plain plain]
    exact ⟨rfl, lone_result (fun _ v => value_plain plain v) e⟩

structure Store.PlainAt (st : Store) (i : ScopeId) : Prop where
  present : i < st.scopes.length
  plain : (st.scope i).Plain

theorem defineVar_plain (known : st.PlainAt i) (lone : v.owns = false)
    (defined : st.defineVar i n (.value v) = .ok st') : st'.PlainAt i ∧
      (st'.scope i).value? = (fun m => if m = n then some v else (st.scope i).value? m) ∧
      (st'.scope i).builtin? = (st.scope i).builtin? := by
  have binds := binds_defineVar known.present defined
  have methods := methods_defineVar defined i
  have vars : ∀ m, (st'.scope i).vars.lookup m =
      if m = n then some (.value v) else (st.scope i).vars.lookup m := by
    intro m
    by_cases same : m = n
    · rw [if_pos same, same]
      exact binds.here
    · rw [if_neg same]
      exact binds.others m same i
  refine ⟨⟨?_, ?_, ?_, ?_⟩, ?_, ?_⟩
  · exact (widens_defineVar defined).count ▸ known.present
  · intro m b bound
    rw [vars m] at bound
    by_cases same : m = n
    · rw [if_pos same] at bound
      cases bound
      exact ⟨v, rfl, lone⟩
    · rw [if_neg same] at bound
      exact known.plain.vars m b bound
  · rw [methods]
    exact known.plain.methods
  · rw [binds.alike.outer]
    exact known.plain.outer
  · funext m
    rw [Scope.value?, vars m]
    by_cases same : m = n
    · rw [if_pos same, if_pos same]
    · rw [if_neg same, if_neg same, Scope.value?]
  · funext m
    rw [Scope.builtin?, Scope.builtin?, methods]

theorem defineBuiltin_plain {b : Builtin} (known : st.PlainAt i)
    (defined : st.defineMethod i n (.builtin b) = .ok st') : st'.PlainAt i := by
  have binds := binds_defineMethod known.present defined
  refine ⟨?_, ?_, ?_, ?_⟩
  · exact (widens_defineMethod defined).count ▸ known.present
  · rw [vars_defineMethod defined]
    exact known.plain.vars
  · intro m a found
    by_cases same : m = n
    · have here : (st'.scope i).methods.lookup m = some (.builtin b) := same ▸ binds.here
      rw [here] at found
      cases found
      exact ⟨b, rfl⟩
    · have other : (st'.scope i).methods.lookup m = (st.scope i).methods.lookup m :=
        binds.others m same i
      exact known.plain.methods m a (other ▸ found)
  · rw [binds.alike.outer]
    exact known.plain.outer

theorem install_plain (known : st.PlainAt i) (bs : List Builtin) :
    (st.install i bs).2.PlainAt i := by
  induction bs generalizing st with
  | nil => exact known
  | cons b bs ih =>
    unfold Store.install
    split
    · rename_i st' defined
      exact ih (defineBuiltin_plain known defined)
    · exact known

theorem defineArguments_plain {vars : List (String × String)} (known : st.PlainAt i)
    (defined : defineArguments i vars st = .ok st') : st'.PlainAt i := by
  induction vars generalizing st with
  | nil =>
    cases defined
    exact known
  | cons p rest ih =>
    obtain ⟨same, lone⟩ := evaluate_plain known.plain p.2
    unfold defineArguments at defined
    split at defined
    · contradiction
    · rename_i v st₁ evaluated
      rw [evaluated] at same lone
      obtain rfl : st₁ = st := same
      split at defined
      · contradiction
      · rename_i st₂ more
        exact ih (defineVar_plain known (lone v rfl) more).1 defined

theorem startStore_plain {r : Request} (started : startStore r = .ok st) :
    st.PlainAt startScope := by
  have empty : (Store.empty.addScope none).2.PlainAt startScope := by
    refine ⟨Nat.one_pos, ?_, ?_, rfl⟩
    · intro n b bound
      contradiction
    · intro n a found
      contradiction
  unfold startStore at started
  dsimp only at started
  apply defineArguments_plain _ started
  by_cases wanted : r.builtins
  · rw [if_pos wanted]
    exact install_plain empty Builtin.all
  · rw [if_neg wanted]
    exact empty

end ScopedFormula
