import ScopedFormula.Eval

/- A tree laid out as a list of instructions on a stack. To evaluate the tree is to run the list
   up to the first instruction that fails. -/
namespace ScopedFormula

inductive Cell where
  | value (v : Value)
  | place (p : Place)
  | method (a : Action)

/-- Here is the place of a name without an owner. An owner is entered for the sake of a name,
    which is then read or found there. -/
inductive Instr where
  | push (v : Value)
  | unary (op : TokenKind)
  | binary (op : TokenKind)
  | here
  | enter (name : String)
  | find (name : String)
  | refuse (callee : Expr)
  | read (site : Expr) (name : String)
  | invoke (site : Expr) (name : String) (count : Nat)

mutual
def Expr.code : Expr → List Instr
  | .string s => [.push (.string s)]
  | .integer n => [.push (.integer n)]
  | .float x => [.push (.float x)]
  | .boolean b => [.push (.boolean b)]
  | .nil => [.push .null]
  | .grouping inner => inner.code
  | .unary op operand => operand.code ++ [.unary op.kind]
  | .binary left op right => left.code ++ (right.code ++ [.binary op.kind])
  | .name n => [.here, .read (.name n) n]
  | .member owner n => owner.code ++ [.enter n, .read (.member owner n) n]
  | .call (.name n) args =>
      .here :: .find n :: (codeAll args ++ [.invoke (.call (.name n) args) n args.length])
  | .call (.member owner n) args =>
      owner.code ++ .enter n :: .find n ::
        (codeAll args ++ [.invoke (.call (.member owner n) args) n args.length])
  | .call callee _ => [.refuse callee]

def codeAll : List Expr → List Instr
  | [] => []
  | e :: es => e.code ++ codeAll es
end

def Cell.value? : Cell → Option Value
  | .value v => some v
  | _ => none

def arguments (s : List Cell) : List Value := (s.filterMap Cell.value?).reverse

def land {α : Type} (onto : α → List Cell) :
    Except Failure α × Store → Except Failure (List Cell) × Store
  | (.ok a, st) => (.ok (onto a), st)
  | (.error f, st) => (.error f, st)

variable (perform : Performer) (scope : ScopeId)

def Instr.exec : Instr → List Cell → Store → Option (Except Failure (List Cell) × Store)
  | .push v, s, st => some (.ok (.value v :: s), st)
  | .unary op, .value v :: s, st => some (land (.value · :: s) (v.unary op, st))
  | .binary op, .value r :: .value l :: s, st => some (land (.value · :: s) (l.binary op r, st))
  | .here, s, st => some (.ok (.place (.scope scope) :: s), st)
  | .enter n, .value o :: s, st => some (land (.place · :: s) (o.place n, st))
  | .find n, .place p :: s, st =>
      match st.method? n p with
      | none => some (.error (.undefinedMethod n), st)
      | some a => some (.ok (.method a :: s), st)
  | .refuse callee, _, st => some (.error (.invalidCallee callee.print), st)
  | .read _ n, .place p :: s, st =>
      match st.binding? n p with
      | none => some (.error (.undefinedName n), st)
      | some (.value v) => some (.ok (.value v :: s), st)
      | some (.lazy a) => some (land (.value · :: s) ((perform a []).mapFailure (.variable n) st))
  | .invoke _ n k, s, st =>
      match s.drop k with
      | .method a :: rest => some (land (.value · :: rest)
          ((perform a (arguments (s.take k))).mapFailure (.invocation n) st))
      | _ => none
  | _, _, _ => none

def run : List Instr → List Cell → Store → Option (Except Failure (List Cell) × Store)
  | [], s, st => some (.ok s, st)
  | i :: is, s, st =>
      match i.exec perform scope s st with
      | some (.ok s', st') => run is s' st'
      | r => r

variable {perform scope} {is js : List Instr} {i : Instr} {s s' : List Cell} {st st' : Store}
variable {f : Failure} {α β : Type} {e : Expr}

theorem run_cons_of_ok (h : i.exec perform scope s st = some (.ok s', st')) :
    run perform scope (i :: is) s st = run perform scope is s' st' := by
  rw [run, h]

theorem run_cons_of_error (h : i.exec perform scope s st = some (.error f, st')) :
    run perform scope (i :: is) s st = some (.error f, st') := by
  rw [run, h]

theorem run_single : run perform scope [i] s st = i.exec perform scope s st := by
  rcases h : i.exec perform scope s st with _ | ⟨f | s', st'⟩
  · rw [run, h]
  · exact run_cons_of_error h
  · exact run_cons_of_ok h

theorem run_append (is js : List Instr) (s : List Cell) (st : Store) :
    run perform scope (is ++ js) s st = match run perform scope is s st with
      | some (.ok s', st') => run perform scope js s' st'
      | r => r := by
  induction is generalizing s st with
  | nil => rfl
  | cons i is ih =>
    rw [List.cons_append, run, run]
    rcases i.exec perform scope s st with _ | ⟨f | s', st'⟩
    · rfl
    · rfl
    · exact ih s' st'

theorem run_bind {x : Effect α} {k : α → Effect β} {onto : α → List Cell} {onto' : β → List Cell}
    (first : run perform scope is s st = some (land onto (x st)))
    (rest : ∀ a st', x st = (.ok a, st') →
      run perform scope js (onto a) st' = some (land onto' (k a st'))) :
    run perform scope (is ++ js) s st = some (land onto' ((x >>= k) st)) := by
  rw [run_append, first]
  rcases h : x st with ⟨f | a, st'⟩
  · rw [Effect.bind_of_error h]
    rfl
  · rw [Effect.bind_of_ok h]
    exact rest a st' h

theorem run_bind_cons {x : Effect α} {k : α → Effect β} {onto : α → List Cell}
    {onto' : β → List Cell} (first : i.exec perform scope s st = some (land onto (x st)))
    (rest : ∀ a st', x st = (.ok a, st') →
      run perform scope js (onto a) st' = some (land onto' (k a st'))) :
    run perform scope (i :: js) s st = some (land onto' ((x >>= k) st)) :=
  run_bind (run_single.trans first) rest

theorem findMethod_apply (n : String) (p : Place) (st : Store) :
    findMethod n p st = Effect.orFail (st.method? n p) (.undefinedMethod n) st := rfl

theorem readName_apply (n : String) (p : Place) (st : Store) :
    readName perform n p st = (Effect.orFail (st.binding? n p) (.undefinedName n) >>=
      fun b => (b.read perform).mapFailure (.variable n)) st := rfl

theorem exec_find (n : String) (p : Place) :
    (Instr.find n).exec perform scope (.place p :: s) st =
      some (land (.method · :: s) (findMethod n p st)) := by
  rw [Instr.exec, findMethod_apply]
  cases st.method? n p <;> rfl

theorem exec_read (site : Expr) (n : String) (p : Place) :
    (Instr.read site n).exec perform scope (.place p :: s) st =
      some (land (.value · :: s) (readName perform n p st)) := by
  rw [Instr.exec, readName_apply]
  rcases st.binding? n p with _ | b
  · rfl
  · cases b <;> rfl

theorem arguments_values (vs : List Value) : arguments (vs.reverse.map .value) = vs := by
  have kept : ∀ ws : List Value, (ws.map Cell.value).filterMap Cell.value? = ws := by
    intro ws
    rw [List.filterMap_map]
    exact List.filterMap_some
  rw [arguments, kept, List.reverse_reverse]

theorem exec_invoke (site : Expr) (n : String) (a : Action) (vs : List Value) :
    (Instr.invoke site n vs.length).exec perform scope
        (vs.reverse.map .value ++ .method a :: s) st =
      some (land (.value · :: s) (invoke perform n a vs st)) := by
  have length : vs.length = (vs.reverse.map Cell.value).length := by simp
  rw [Instr.exec, length, List.drop_left, List.take_left, arguments_values]
  rfl

theorem evalAll_length {args : List Expr} {vs : List Value}
    (h : evalAll perform scope args st = (.ok vs, st')) : vs.length = args.length := by
  induction args generalizing vs st with
  | nil =>
    cases h
    rfl
  | cons e es ih =>
    rw [evalAll, Effect.bind_eq_ok] at h
    obtain ⟨v, st₁, -, h⟩ := h
    obtain ⟨ws, st₂, rest, last⟩ := Effect.bind_eq_ok.mp h
    cases last
    exact congrArg (· + 1) (ih rest)

theorem run_arguments {args : List Expr} (site : Expr) (n : String) (p : Place)
    (each : ∀ s st, run perform scope (codeAll args) s st =
      some (land (·.reverse.map .value ++ s) (evalAll perform scope args st))) :
    run perform scope (.find n :: (codeAll args ++ [.invoke site n args.length])) (.place p :: s)
        st =
      some (land (.value · :: s) ((do
        let a ← findMethod n p
        let vs ← evalAll perform scope args
        invoke perform n a vs) st)) := by
  refine run_bind_cons (exec_find n p) fun a st₁ _ => ?_
  refine run_bind (each _ st₁) fun vs st₂ done => ?_
  rw [run_single, ← evalAll_length done]
  exact exec_invoke site n a vs

mutual
theorem run_code : ∀ (e : Expr) (s : List Cell) (st : Store), run perform scope e.code s st =
    some (land (.value · :: s) (e.evalWith perform scope st))
  | .string _, _, _ | .integer _, _, _ | .float _, _, _ | .boolean _, _, _ | .nil, _, _ => rfl
  | .grouping inner, s, st => by
    rw [Expr.code, Expr.evalWith]
    exact run_code inner s st
  | .unary op operand, s, st => by
    rw [Expr.code, Expr.evalWith]
    exact run_bind (run_code operand s st) fun v st' _ => run_single
  | .binary left op right, s, st => by
    rw [Expr.code, Expr.evalWith]
    refine run_bind (run_code left s st) fun l st₁ _ => ?_
    exact run_bind (run_code right _ st₁) fun r st₂ _ => run_single
  | .name n, s, st => by
    rw [Expr.code, Expr.evalWith, run_cons_of_ok rfl, run_single]
    exact exec_read _ n _
  | .member owner n, s, st => by
    rw [Expr.code, Expr.evalWith]
    refine run_bind (run_code owner s st) fun o st₁ _ => ?_
    refine run_bind_cons rfl fun p st₂ _ => ?_
    exact run_single.trans (exec_read _ n p)
  | .call (.name n) args, s, st => by
    rw [Expr.code, Expr.evalWith, run_cons_of_ok rfl]
    exact run_arguments _ n _ (run_codeAll args)
  | .call (.member owner n) args, s, st => by
    rw [Expr.code, Expr.evalWith]
    refine run_bind (run_code owner s st) fun o st₁ _ => ?_
    refine run_bind_cons rfl fun p st₂ _ => ?_
    exact run_arguments _ n p (run_codeAll args)
  | .call (.string _) _, _, _ | .call (.integer _) _, _, _ | .call (.float _) _, _, _
  | .call (.boolean _) _, _, _ | .call .nil _, _, _ | .call (.grouping _) _, _, _
  | .call (.unary ..) _, _, _ | .call (.binary ..) _, _, _ | .call (.call ..) _, _, _ => rfl

theorem run_codeAll : ∀ (es : List Expr) (s : List Cell) (st : Store),
    run perform scope (codeAll es) s st =
      some (land (·.reverse.map .value ++ s) (evalAll perform scope es st))
  | [], _, _ => rfl
  | e :: es, s, st => by
    rw [codeAll, evalAll]
    refine run_bind (run_code e s st) fun v st₁ _ => ?_
    rw [run_codeAll es (.value v :: s) st₁]
    rcases rest : evalAll perform scope es st₁ with ⟨f | vs, st₂⟩
    · rw [Effect.bind_of_error rest]
      rfl
    · rw [Effect.bind_of_ok rest]
      simp [land, Effect.pure_apply]
end

theorem run_code_of_ok {v : Value} (done : e.evalWith perform scope st = (.ok v, st')) :
    run perform scope e.code s st = some (.ok (.value v :: s), st') := by
  rw [run_code, done]
  rfl

theorem run_code_of_error (fails : e.evalWith perform scope st = (.error f, st')) :
    run perform scope e.code s st = some (.error f, st') := by
  rw [run_code, fails]
  rfl

theorem evalWith_of_run_error (h : run perform scope e.code s st = some (.error f, st')) :
    e.evalWith perform scope st = (.error f, st') := by
  rcases result : e.evalWith perform scope st with ⟨g | v, st₁⟩
  · rw [run_code_of_error result] at h
    cases h
    rfl
  · rw [run_code_of_ok result] at h
    cases h

end ScopedFormula
