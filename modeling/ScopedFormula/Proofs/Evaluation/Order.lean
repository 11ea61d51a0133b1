import ScopedFormula.Proofs.Evaluation.Code

/- The order of evaluation. Only two kinds of instruction can change the store, reading a variable
   and invoking a method; their sites in the tree are visited in order, each once, up to the first
   failure. -/
namespace ScopedFormula

mutual
/-- The nodes where a variable is read or a method is invoked, in order. A call of what is no name
    comes to none. -/
def Expr.sites : Expr → List Expr
  | .grouping inner => inner.sites
  | .unary _ operand => operand.sites
  | .binary left _ right => left.sites ++ right.sites
  | .name n => [.name n]
  | .member owner n => owner.sites ++ [.member owner n]
  | .call (.name n) args => sitesAll args ++ [.call (.name n) args]
  | .call (.member owner n) args =>
      owner.sites ++ (sitesAll args ++ [.call (.member owner n) args])
  | _ => []

def sitesAll : List Expr → List Expr
  | [] => []
  | e :: es => e.sites ++ sitesAll es
end

def Instr.site? : Instr → Option Expr
  | .read site _ | .invoke site _ _ => some site
  | _ => none

variable (perform : Performer) (scope : ScopeId)

/-- An instruction that a run has come to at a site: the store that it found, and the action that
    it had performed there, if any, with its arguments. -/
structure Visit where
  site : Expr
  before : Store
  asked : Option (Action × List Value)

def Visit.after (v : Visit) : Store :=
  match v.asked with
  | none => v.before
  | some (a, args) => (perform a args v.before).2

def Instr.visit? : Instr → List Cell → Store → Option Visit
  | .read site n, .place p :: _, st =>
      match st.binding? n p with
      | some (.lazy a) => some ⟨site, st, some (a, [])⟩
      | _ => some ⟨site, st, none⟩
  | .invoke site _ k, s, st =>
      match s.drop k with
      | .method a :: _ => some ⟨site, st, some (a, arguments (s.take k))⟩
      | _ => none
  | _, _, _ => none

def visits : List Instr → List Cell → Store → List Visit
  | [], _, _ => []
  | i :: is, s, st => (i.visit? s st).toList ++
      match i.exec perform scope s st with
      | some (.ok s', st') => visits is s' st'
      | _ => []

/-- Each visit finds the store that the one before has left, and nothing else changes it. -/
def Follow : Store → List Visit → Store → Prop
  | st, [], st' => st' = st
  | st, v :: vs, st' => v.before = st ∧ Follow (v.after perform) vs st'

variable {perform scope} {is js : List Instr} {i : Instr} {s s' : List Cell} {st st' : Store}
variable {f : Failure} {α β : Type} {e : Expr}

mutual
theorem code_sites : ∀ e : Expr, e.code.filterMap Instr.site? = e.sites
  | .string _ | .integer _ | .float _ | .boolean _ | .nil | .name _ => rfl
  | .grouping inner => by rw [Expr.code, Expr.sites, code_sites inner]
  | .unary _ operand => by
    rw [Expr.code, Expr.sites, List.filterMap_append, code_sites operand]
    exact List.append_nil _
  | .binary left _ right => by
    rw [Expr.code, Expr.sites, List.filterMap_append, List.filterMap_append, code_sites left,
      code_sites right]
    exact congrArg _ (List.append_nil _)
  | .member owner n => by
    rw [Expr.code, Expr.sites, List.filterMap_append, code_sites owner]
    rfl
  | .call (.name n) args => by
    rw [Expr.code, Expr.sites, ← codeAll_sites args]
    exact List.filterMap_append
  | .call (.member owner n) args => by
    rw [Expr.code, Expr.sites, List.filterMap_append, code_sites owner, ← codeAll_sites args]
    exact congrArg _ List.filterMap_append
  | .call (.string _) _ | .call (.integer _) _ | .call (.float _) _ | .call (.boolean _) _
  | .call .nil _ | .call (.grouping _) _ | .call (.unary ..) _ | .call (.binary ..) _
  | .call (.call ..) _ => rfl

theorem codeAll_sites : ∀ es : List Expr, (codeAll es).filterMap Instr.site? = sitesAll es
  | [] => rfl
  | e :: es => by
    rw [codeAll, sitesAll, List.filterMap_append, code_sites e, codeAll_sites es]
end

theorem land_snd (onto : α → List Cell) (r : Except Failure α × Store) :
    (land onto r).2 = r.2 := by
  rcases r with ⟨_ | _, _⟩ <;> rfl

theorem mapFailure_snd (account : Failure → Failure) (x : Effect α) (st : Store) :
    (x.mapFailure account st).2 = (x st).2 := by
  rw [Effect.mapFailure]
  rcases x st with ⟨_ | _, _⟩ <;> rfl

/-- Only at a site the store changes. -/
theorem exec_quiet {r : Except Failure (List Cell)} (quiet : i.site? = none)
    (h : i.exec perform scope s st = some (r, st')) : st' = st := by
  have landed : ∀ {α : Type} {onto : α → List Cell} {x : Except Failure α},
      some (land onto (x, st)) = some (r, st') → st' = st := by
    intro α onto x same
    have := land_snd onto (x, st)
    rw [Option.some.inj same] at this
    exact this
  unfold Instr.exec at h
  split at h
  · cases h
    rfl
  · exact landed h
  · exact landed h
  · cases h
    rfl
  · exact landed h
  · split at h <;> cases h <;> rfl
  · cases h
    rfl
  · contradiction
  · contradiction
  · contradiction

theorem exec_visit {site : Expr} {r : Except Failure (List Cell)} (loud : i.site? = some site)
    (h : i.exec perform scope s st = some (r, st')) :
    ∃ v, i.visit? s st = some v ∧ v.site = site ∧ v.before = st ∧ v.after perform = st' := by
  cases i with
  | read found n =>
    obtain rfl : found = site := Option.some.inj loud
    rcases s with _ | ⟨_ | p | _, s⟩
    · simp [Instr.exec] at h
    · simp [Instr.exec] at h
    · rw [Instr.exec] at h
      rcases bound : st.binding? n p with _ | _ | a <;> rw [bound] at h
      · cases h
        exact ⟨⟨found, st, none⟩, by rw [Instr.visit?, bound], rfl, rfl, rfl⟩
      · cases h
        exact ⟨⟨found, st, none⟩, by rw [Instr.visit?, bound], rfl, rfl, rfl⟩
      · have left := congrArg Prod.snd (Option.some.inj h)
        rw [land_snd, mapFailure_snd] at left
        exact ⟨⟨found, st, some (a, [])⟩, by rw [Instr.visit?, bound], rfl, rfl, left⟩
    · simp [Instr.exec] at h
  | invoke found n k =>
    obtain rfl : found = site := Option.some.inj loud
    rw [Instr.exec] at h
    split at h
    · rename_i a rest dropped
      have left := congrArg Prod.snd (Option.some.inj h)
      rw [land_snd, mapFailure_snd] at left
      exact ⟨⟨found, st, some (a, arguments (s.take k))⟩, by rw [Instr.visit?, dropped], rfl, rfl,
        left⟩
    · contradiction
  | _ => contradiction

theorem visit_eq_none (quiet : i.site? = none) : i.visit? s st = none := by
  cases i <;> first | contradiction | rfl

theorem exec_follow {r : Except Failure (List Cell)}
    (h : i.exec perform scope s st = some (r, st')) :
    (i.visit? s st).toList.map Visit.site = [i].filterMap Instr.site? ∧
      Follow perform st (i.visit? s st).toList st' := by
  rcases at_ : i.site? with _ | site
  · rw [visit_eq_none at_, List.filterMap_cons_none at_]
    exact ⟨rfl, exec_quiet at_ h⟩
  · obtain ⟨v, visited, rfl, before, after⟩ := exec_visit at_ h
    rw [visited, List.filterMap_cons_some at_]
    exact ⟨rfl, before, after.symm⟩

theorem follow_append {us vs : List Visit} {st₁ : Store} (first : Follow perform st us st₁)
    (rest : Follow perform st₁ vs st') : Follow perform st (us ++ vs) st' := by
  induction us generalizing st with
  | nil =>
    obtain rfl : st₁ = st := first
    exact rest
  | cons u us ih => exact ⟨first.1, ih first.2⟩

theorem visits_cons_of_ok (h : i.exec perform scope s st = some (.ok s', st')) :
    visits perform scope (i :: is) s st =
      (i.visit? s st).toList ++ visits perform scope is s' st' := by
  rw [visits, h]

theorem visits_cons_of_error (h : i.exec perform scope s st = some (.error f, st')) :
    visits perform scope (i :: is) s st = (i.visit? s st).toList := by
  rw [visits, h]
  exact List.append_nil _

theorem run_completes (h : run perform scope is s st = some (.ok s', st')) :
    (visits perform scope is s st).map Visit.site = is.filterMap Instr.site? ∧
      Follow perform st (visits perform scope is s st) st' := by
  induction is generalizing s st with
  | nil =>
    cases h
    exact ⟨rfl, rfl⟩
  | cons i is ih =>
    rcases step : i.exec perform scope s st with _ | ⟨f | s₁, st₁⟩
    · rw [run, step] at h
      contradiction
    · rw [run_cons_of_error step] at h
      cases h
    · rw [run_cons_of_ok step] at h
      obtain ⟨sites, follow⟩ := exec_follow step
      obtain ⟨others, rest⟩ := ih h
      rw [visits_cons_of_ok step, List.map_append, sites, others, ← List.filterMap_append]
      exact ⟨rfl, follow_append follow rest⟩

/-- A run that fails has come to the sites up to that of its first failing instruction. -/
theorem run_breaks (h : run perform scope is s st = some (.error f, st')) :
    ∃ before i after s₁ st₁, is = before ++ i :: after ∧
      run perform scope before s st = some (.ok s₁, st₁) ∧
      i.exec perform scope s₁ st₁ = some (.error f, st') ∧
      (visits perform scope is s st).map Visit.site = (before ++ [i]).filterMap Instr.site? ∧
      Follow perform st (visits perform scope is s st) st' := by
  induction is generalizing s st with
  | nil => cases h
  | cons i is ih =>
    rcases step : i.exec perform scope s st with _ | ⟨g | s₁, st₁⟩
    · rw [run, step] at h
      contradiction
    · rw [run_cons_of_error step] at h
      cases h
      rw [visits_cons_of_error step]
      exact ⟨[], i, is, s, st, rfl, rfl, step, exec_follow step⟩
    · rw [run_cons_of_ok step] at h
      obtain ⟨sites, follow⟩ := exec_follow step
      obtain ⟨before, j, after, s₂, st₂, rfl, done, last, others, rest⟩ := ih h
      refine ⟨i :: before, j, after, s₂, st₂, rfl, ?_, last, ?_, ?_⟩
      · exact (run_cons_of_ok step).trans done
      · rw [visits_cons_of_ok step, List.map_append, sites, others, ← List.filterMap_append]
        rfl
      · rw [visits_cons_of_ok step]
        exact follow_append follow rest

theorem visits_append_of_ok (h : run perform scope is s st = some (.ok s', st')) :
    visits perform scope (is ++ js) s st =
      visits perform scope is s st ++ visits perform scope js s' st' := by
  induction is generalizing s st with
  | nil =>
    cases h
    rfl
  | cons i is ih =>
    rcases step : i.exec perform scope s st with _ | ⟨f | s₁, st₁⟩
    · rw [run, step] at h
      contradiction
    · rw [run_cons_of_error step] at h
      cases h
    · rw [run_cons_of_ok step] at h
      rw [List.cons_append, visits_cons_of_ok step, visits_cons_of_ok step, ih h,
        List.append_assoc]

def Expr.callable : Expr → Bool
  | .name _ | .member .. => true
  | _ => false

/-- What is wrong with a tree before its own site and the arguments of its call: the failure, the
    sites that are come to all the same, and the store that they leave. -/
inductive Refused (perform : Performer) (scope : ScopeId) (st : Store) :
    Expr → Failure → List Expr → Store → Prop where
  | callee {callee : Expr} {args : List Expr} (other : callee.callable = false) :
      Refused perform scope st (.call callee args) (.invalidCallee callee.print) [] st
  | method {n : String} {args : List Expr} (missing : st.method? n (.scope scope) = none) :
      Refused perform scope st (.call (.name n) args) (.undefinedMethod n) [] st
  | owner {owner : Expr} {n : String} {v : Value} {f : Failure} {st' : Store}
      (done : owner.evalWith perform scope st = (.ok v, st')) (other : v.place n = .error f) :
      Refused perform scope st (.member owner n) f owner.sites st'
  | calledOwner {owner : Expr} {n : String} {args : List Expr} {v : Value} {f : Failure}
      {st' : Store} (done : owner.evalWith perform scope st = (.ok v, st'))
      (other : v.place n = .error f) :
      Refused perform scope st (.call (.member owner n) args) f owner.sites st'
  | ownedMethod {owner : Expr} {n : String} {args : List Expr} {v : Value} {p : Place}
      {st' : Store} (done : owner.evalWith perform scope st = (.ok v, st'))
      (place : v.place n = .ok p) (missing : st'.method? n p = none) :
      Refused perform scope st (.call (.member owner n) args) (.undefinedMethod n) owner.sites st'

theorem owner_breaks {v : Value} (done : e.evalWith perform scope st = (.ok v, st'))
    (fails : run perform scope is [.value v] st' = some (.error f, st'))
    (none : visits perform scope is [.value v] st' = []) :
    run perform scope (e.code ++ is) [] st = some (.error f, st') ∧
      (visits perform scope (e.code ++ is) [] st).map Visit.site = e.sites := by
  have ran := run_code_of_ok (s := []) done
  constructor
  · rw [run_append, ran]
    exact fails
  · rw [visits_append_of_ok ran, none, List.append_nil, (run_completes ran).1, code_sites]

theorem refused_breaks {sites : List Expr} (h : Refused perform scope st e f sites st') :
    run perform scope e.code [] st = some (.error f, st') ∧
      (visits perform scope e.code [] st).map Visit.site = sites := by
  cases h with
  | @callee callee args other =>
    cases callee <;> first | contradiction | exact ⟨rfl, rfl⟩
  | @method n args missing =>
    have fails : (Instr.find n).exec perform scope [.place (.scope scope)] st =
        some (.error (.undefinedMethod n), st) := by rw [Instr.exec, missing]
    constructor
    · exact (run_cons_of_ok rfl).trans (run_cons_of_error fails)
    · rw [Expr.code, visits_cons_of_ok rfl, visits_cons_of_error fails]
      rfl
  | @owner owner n v f st' done other =>
    have fails : (Instr.enter n).exec perform scope [.value v] st' = some (.error f, st') := by
      rw [Instr.exec, other]
      rfl
    exact owner_breaks done (run_cons_of_error fails) (visits_cons_of_error fails)
  | @calledOwner owner n args v f st' done other =>
    have fails : (Instr.enter n).exec perform scope [.value v] st' = some (.error f, st') := by
      rw [Instr.exec, other]
      rfl
    exact owner_breaks done (run_cons_of_error fails) (visits_cons_of_error fails)
  | @ownedMethod owner n args v p st' done place missing =>
    have enters : (Instr.enter n).exec perform scope [.value v] st' =
        some (.ok [.place p], st') := by
      rw [Instr.exec, place]
      rfl
    have fails : (Instr.find n).exec perform scope [.place p] st' =
        some (.error (.undefinedMethod n), st') := by rw [Instr.exec, missing]
    refine owner_breaks done ((run_cons_of_ok enters).trans (run_cons_of_error fails)) ?_
    rw [visits_cons_of_ok enters, visits_cons_of_error fails]
    rfl

/-- An evaluation runs the code of its tree and visits sites in their order, each in the store that
    the visit before has left; the last one leaves the store of the evaluation. A value is what the
    whole code gives, and then every site has been visited once. A failure is that of the first
    instruction to fail, and the sites up to there have been visited. -/
theorem evaluation_order (perform : Performer) (scope : ScopeId) (e : Expr) (st : Store) :
    (match e.evalWith perform scope st with
      | (.ok v, st') => run perform scope e.code [] st = some (.ok [.value v], st') ∧
          Follow perform st (visits perform scope e.code [] st) st' ∧
          (visits perform scope e.code [] st).map Visit.site = e.sites
      | (.error f, st') => ∃ before i after s st₁, e.code = before ++ i :: after ∧
          run perform scope before [] st = some (.ok s, st₁) ∧
          i.exec perform scope s st₁ = some (.error f, st') ∧
          Follow perform st (visits perform scope e.code [] st) st' ∧
          (visits perform scope e.code [] st).map Visit.site =
            (before ++ [i]).filterMap Instr.site? ∧
          (visits perform scope e.code [] st).map Visit.site <+: e.sites) ∧
    ∀ f sites st', Refused perform scope st e f sites st' →
      e.evalWith perform scope st = (.error f, st') ∧
        (visits perform scope e.code [] st).map Visit.site = sites := by
  constructor
  · rcases result : e.evalWith perform scope st with ⟨f | v, st'⟩
    · obtain ⟨before, i, after, s, st₁, code, done, last, sites, follow⟩ :=
        run_breaks (run_code_of_error (s := []) result)
      refine ⟨before, i, after, s, st₁, code, done, last, follow, sites, ?_⟩
      rw [sites, ← code_sites, code, List.append_cons before i after]
      exact (List.prefix_append _ _).filterMap _
    · have ran := run_code_of_ok (s := []) result
      obtain ⟨sites, follow⟩ := run_completes ran
      exact ⟨ran, follow, sites.trans (code_sites e)⟩
  · intro f sites st' refused
    obtain ⟨fails, visited⟩ := refused_breaks refused
    exact ⟨evalWith_of_run_error fails, visited⟩

def counting (n : Nat) : Store := ⟨[⟨[("t", .lazy (.tick 0))], [], none⟩], [], [n], 0, []⟩

theorem evaluation_order_counting :
    (Expr.call (.member (.name "t") "f") [.name "x"]).evalWith Action.run 0 (counting 0) =
      (.error (.notAContext "f" "Integer"), counting 1) ∧
    (visits Action.run 0 (Expr.call (.member (.name "t") "f") [.name "x"]).code []
      (counting 0)).map Visit.site = [.name "t"] := by
  have bound : (counting 0).binding? "t" (.scope 0) = some (.lazy (.tick 0)) := by
    rw [Store.binding?, Store.resolve]
    rfl
  have looked : Effect.read (·.binding? "t" (.scope 0)) (counting 0) =
      (.ok (some (.lazy (.tick 0))), counting 0) := by
    rw [← bound]
    rfl
  have counted : (Expr.name "t").evalWith Action.run 0 (counting 0) =
      (.ok (.integer 1), counting 1) := by
    rw [Expr.evalWith, readName, Effect.bind_of_ok looked]
    rfl
  exact (evaluation_order Action.run 0 _ (counting 0)).2 _ _ _ (.calledOwner counted rfl)

end ScopedFormula
