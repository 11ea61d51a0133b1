import ScopedFormula.Proofs.Evaluation.Order

/- Names and calls behind an owner. They are looked up where the owner's value has its names and
   nowhere else, while the arguments of a call belong to the scope of the whole expression; so a
   chain of them goes from value to value. -/
namespace ScopedFormula

inductive Link where
  | name (n : String)
  | call (n : String) (args : List Expr)

def Link.label : Link → String
  | .name n => n
  | .call n _ => n

def Link.onto (l : Link) (owner : Expr) : Expr :=
  match l with
  | .name n => .member owner n
  | .call n args => .call (.member owner n) args

def Expr.along (e : Expr) (links : List Link) : Expr :=
  links.foldl (fun owner l => l.onto owner) e

def Value.home? : Value → Option Place
  | .context i => some (.scope i)
  | .custom c => c.behavior.members
  | _ => none

abbrev Meeting : Type := Store × Option (Action × List Value)

def Visit.meeting (v : Visit) : Meeting := (v.before, v.asked)

def Binding.asked? : Binding → Option (Action × List Value)
  | .value _ => none
  | .lazy a => some (a, [])

variable (perform : Performer) (scope : ScopeId)

def met (e : Expr) (st : Store) : List Meeting :=
  (visits perform scope e.code [] st).map Visit.meeting

inductive Argued : Store → List Expr → Except Failure (List Value) → Store → List Meeting → Prop
  where
  | nil {st : Store} : Argued st [] (.ok []) st []
  | fails {e : Expr} {es : List Expr} {f : Failure} {st st' : Store}
      (first : e.evalWith perform scope st = (.error f, st')) :
      Argued st (e :: es) (.error f) st' (met perform scope e st)
  | cons {e : Expr} {es : List Expr} {v : Value} {r : Except Failure (List Value)}
      {st st₁ st' : Store} {ms : List Meeting}
      (first : e.evalWith perform scope st = (.ok v, st₁)) (others : Argued st₁ es r st' ms) :
      Argued st (e :: es) (r.map (v :: ·)) st' (met perform scope e st ++ ms)

/-- What a link comes to behind a value. A name is that plain name in the scope where the value has
    its names, or a name of its host context. A call finds its method there, then has its arguments
    evaluated in the scope of the expression, and invokes the method. -/
inductive Comes : Value → Store → Link → Except Failure Value × Store → List Meeting → Prop where
  | inScope {v : Value} {i : ScopeId} {n : String} {st : Store} (home : v.home? = some (.scope i)) :
      Comes v st (.name n) ((Expr.name n).evalWith perform i st) (met perform i (.name n) st)
  | inHost {v : Value} {h : HostId} {n : String} {st : Store} (home : v.home? = some (.host h)) :
      Comes v st (.name n) (readName perform n (.host h) st)
        [(st, (st.binding? n (.host h)).bind Binding.asked?)]
  | missing {v : Value} {p : Place} {n : String} {args : List Expr} {st : Store}
      (home : v.home? = some p) (none : st.method? n p = none) :
      Comes v st (.call n args) (.error (.undefinedMethod n), st) []
  | argument {v : Value} {p : Place} {n : String} {a : Action} {args : List Expr} {f : Failure}
      {st st' : Store} {ms : List Meeting} (home : v.home? = some p)
      (found : st.method? n p = some a) (fails : Argued perform scope st args (.error f) st' ms) :
      Comes v st (.call n args) (.error f, st') ms
  | invoked {v : Value} {p : Place} {n : String} {a : Action} {args : List Expr}
      {vs : List Value} {st st' : Store} {ms : List Meeting} (home : v.home? = some p)
      (found : st.method? n p = some a) (done : Argued perform scope st args (.ok vs) st' ms) :
      Comes v st (.call n args) (invoke perform n a vs st') (ms ++ [(st', some (a, vs))])
  | apart {v : Value} {l : Link} {st : Store} (none : v.home? = none) :
      Comes v st l (.error (.notAContext l.label v.kind), st) []

/-- A chain comes from value to value, up to its end or to the first failure. -/
inductive Chain : Value → Store → List Link → Except Failure Value × Store → List Meeting → Prop
  where
  | nil {v : Value} {st : Store} : Chain v st [] (.ok v, st) []
  | fails {v : Value} {l : Link} {ls : List Link} {f : Failure} {st st' : Store}
      {ms : List Meeting} (first : Comes perform scope v st l (.error f, st') ms) :
      Chain v st (l :: ls) (.error f, st') ms
  | cons {v w : Value} {l : Link} {ls : List Link} {r : Except Failure Value × Store}
      {st st' : Store} {ms ns : List Meeting}
      (first : Comes perform scope v st l (.ok w, st') ms) (others : Chain w st' ls r ns) :
      Chain v st (l :: ls) r (ms ++ ns)

variable {perform scope} {is js : List Instr} {i : Instr} {s s' u : List Cell}
  {st st' st₁ : Store} {e o : Expr} {es args : List Expr} {v w : Value} {f : Failure}
  {n : String} {p : Place} {l : Link} {ls : List Link} {ms ns : List Meeting}
  {r : Except Failure Value × Store} {α : Type}

theorem land_frame {onto : α → List Cell} {x : Except Failure α × Store}
    {y : Except Failure (List Cell)} (h : land onto x = (y, st')) (u : List Cell) :
    land (onto · ++ u) x = (y.map (· ++ u), st') := by
  obtain ⟨_ | a, st⟩ := x
  · cases h
    rfl
  · cases h
    rfl

/-- An instruction does not look at what is below on the stack. -/
theorem exec_frame {y : Except Failure (List Cell)} (h : i.exec perform scope s st = some (y, st'))
    (u : List Cell) : i.exec perform scope (s ++ u) st = some (y.map (· ++ u), st') ∧
      i.visit? (s ++ u) st = i.visit? s st := by
  unfold Instr.exec at h
  split at h
  · cases h
    exact ⟨rfl, rfl⟩
  · have landed := land_frame (Option.some.inj h) u
    exact ⟨congrArg some landed, rfl⟩
  · have landed := land_frame (Option.some.inj h) u
    exact ⟨congrArg some landed, rfl⟩
  · cases h
    exact ⟨rfl, rfl⟩
  · have landed := land_frame (Option.some.inj h) u
    exact ⟨congrArg some landed, rfl⟩
  · rename_i p below
    rw [List.cons_append, Instr.exec]
    split at h <;> cases h <;> exact ⟨rfl, rfl⟩
  · cases h
    exact ⟨rfl, rfl⟩
  · rename_i n p below
    rw [List.cons_append, Instr.exec]
    refine ⟨?_, rfl⟩
    split at h
    · cases h
      rfl
    · cases h
      rfl
    · exact congrArg some (land_frame (Option.some.inj h) u)
  · rename_i site n k
    split at h
    · -- a call takes its arguments from the stack, and its method from below them
      rename_i a rest dropped
      have inside : k ≤ s.length := by
        have left := congrArg List.length dropped
        rw [List.length_drop, List.length_cons] at left
        omega
      have dropped' : (s ++ u).drop k = .method a :: (rest ++ u) := by
        rw [List.drop_append_of_le_length inside, dropped]
        rfl
      rw [Instr.exec, Instr.visit?, Instr.visit?, dropped, dropped',
        List.take_append_of_le_length inside]
      exact ⟨congrArg some (land_frame (Option.some.inj h) u), rfl⟩
    · contradiction
  · contradiction

theorem visits_frame {y : Except Failure (List Cell)}
    (h : run perform scope is s st = some (y, st')) (u : List Cell) :
    visits perform scope is (s ++ u) st = visits perform scope is s st := by
  induction is generalizing s st with
  | nil => rfl
  | cons i is ih =>
    rcases step : i.exec perform scope s st with _ | ⟨f | s₁, st₁⟩
    · rw [run, step] at h
      contradiction
    · obtain ⟨same, seen⟩ := exec_frame step u
      rw [visits_cons_of_error same, visits_cons_of_error step, seen]
    · obtain ⟨same, seen⟩ := exec_frame step u
      rw [run_cons_of_ok step] at h
      rw [visits_cons_of_ok same, visits_cons_of_ok step, seen, ih h]

theorem visits_append_of_error (h : run perform scope is s st = some (.error f, st')) :
    visits perform scope (is ++ js) s st = visits perform scope is s st := by
  induction is generalizing s st with
  | nil => cases h
  | cons i is ih =>
    rcases step : i.exec perform scope s st with _ | ⟨g | s₁, st₁⟩
    · rw [run, step] at h
      contradiction
    · rw [List.cons_append, visits_cons_of_error step, visits_cons_of_error step]
    · rw [run_cons_of_ok step] at h
      rw [List.cons_append, visits_cons_of_ok step, visits_cons_of_ok step, ih h]

theorem visits_single : visits perform scope [i] s st = (i.visit? s st).toList := by
  rw [visits]
  split
  · exact List.append_nil _
  · exact List.append_nil _

theorem met_code (e : Expr) (s : List Cell) (st : Store) :
    (visits perform scope e.code s st).map Visit.meeting = met perform scope e st :=
  congrArg _ (visits_frame (run_code e [] st) s)

theorem met_of_ok (done : e.evalWith perform scope st = (.ok v, st')) (is : List Instr)
    (s : List Cell) : (visits perform scope (e.code ++ is) s st).map Visit.meeting =
      met perform scope e st ++
        (visits perform scope is (.value v :: s) st').map Visit.meeting := by
  rw [visits_append_of_ok (run_code_of_ok done), List.map_append, met_code]

theorem met_of_error (fails : e.evalWith perform scope st = (.error f, st')) (is : List Instr)
    (s : List Cell) :
    (visits perform scope (e.code ++ is) s st).map Visit.meeting = met perform scope e st := by
  rw [visits_append_of_error (run_code_of_error fails), met_code]

theorem read_meeting (site : Expr) (n : String) (p : Place) (s : List Cell) (st : Store) :
    (visits perform scope [.read site n] (.place p :: s) st).map Visit.meeting =
      [(st, (st.binding? n p).bind Binding.asked?)] := by
  rw [visits_single, Instr.visit?]
  rcases st.binding? n p with _ | _ | a
  · rfl
  · rfl
  · rfl

theorem invoke_meeting (site : Expr) (n : String) (a : Action) (vs : List Value) (s : List Cell)
    (st : Store) :
    (visits perform scope [.invoke site n vs.length]
      (vs.reverse.map .value ++ .method a :: s) st).map Visit.meeting = [(st, some (a, vs))] := by
  have length : vs.length = (vs.reverse.map Cell.value).length := by simp
  rw [visits_single, Instr.visit?, length, List.drop_left, List.take_left, arguments_values]
  rfl

theorem place_home (v : Value) (n : String) :
    v.place n = match v.home? with
      | some p => .ok p
      | none => .error (.notAContext n v.kind) := by
  cases v with
  | custom c =>
    cases members : c.behavior.members <;> simp only [Value.place, Value.home?, members]
  | _ => rfl

theorem enter_home (home : v.home? = some p) : (Instr.enter n).exec perform scope (.value v :: s)
    st = some (.ok (.place p :: s), st) := by
  rw [Instr.exec, place_home, home]
  rfl

theorem enter_apart (none : v.home? = none) : (Instr.enter n).exec perform scope (.value v :: s)
    st = some (.error (.notAContext n v.kind), st) := by
  rw [Instr.exec, place_home, none]
  rfl

theorem exists_argued (perform : Performer) (scope : ScopeId) (es : List Expr) (st : Store) :
    ∃ r st' ms, Argued perform scope st es r st' ms := by
  induction es generalizing st with
  | nil => exact ⟨_, _, _, .nil⟩
  | cons e es ih =>
    rcases result : e.evalWith perform scope st with ⟨f | v, st₁⟩
    · exact ⟨_, _, _, .fails result⟩
    · obtain ⟨r, st', ms, others⟩ := ih st₁
      exact ⟨_, _, _, .cons result others⟩

theorem argued_evalAll {r : Except Failure (List Value)}
    (h : Argued perform scope st es r st' ms) (s : List Cell) :
    evalAll perform scope es st = (r, st') ∧
      (visits perform scope (codeAll es) s st).map Visit.meeting = ms := by
  induction h generalizing s with
  | nil => exact ⟨rfl, rfl⟩
  | fails first =>
    rw [evalAll, codeAll, Effect.bind_of_error first, met_of_error first]
    exact ⟨rfl, rfl⟩
  | @cons e es v r st st₁ st' ms first others ih =>
    obtain ⟨same, seen⟩ := ih (.value v :: s)
    rw [evalAll, codeAll, Effect.bind_of_ok first, met_of_ok first, seen]
    refine ⟨?_, rfl⟩
    cases r with
    | error f => exact Effect.bind_of_error same
    | ok vs => exact Effect.bind_of_ok same

def Link.code (l : Link) (owner : Expr) : List Instr :=
  .enter l.label :: match l with
    | .name n => [.read (.member owner n) n]
    | .call n args =>
        .find n :: (codeAll args ++ [.invoke (.call (.member owner n) args) n args.length])

theorem onto_code (l : Link) (o : Expr) : (l.onto o).code = o.code ++ l.code o := by
  cases l <;> rw [Link.onto, Expr.code] <;> rfl

theorem land_injective {x y : Except Failure Value × Store}
    (h : land ([.value ·]) x = land ([.value ·]) y) : x = y := by
  obtain ⟨_ | _, _⟩ := x <;> obtain ⟨_ | _, _⟩ := y <;> cases h <;> rfl

theorem onto_behind (done : o.evalWith perform scope st = (.ok v, st'))
    (ran : run perform scope (l.code o) [.value v] st' = some (land ([.value ·]) r))
    (seen : (visits perform scope (l.code o) [.value v] st').map Visit.meeting = ms) :
    (l.onto o).evalWith perform scope st = r ∧
      met perform scope (l.onto o) st = met perform scope o st ++ ms := by
  constructor
  · have whole : run perform scope (l.onto o).code [] st =
        some (land ([.value ·]) ((l.onto o).evalWith perform scope st)) := run_code _ _ _
    rw [onto_code, run_append, run_code_of_ok done] at whole
    exact land_injective (Option.some.inj (whole.symm.trans ran))
  · rw [met, onto_code, met_of_ok done, seen]

theorem run_read (perform : Performer) (scope : ScopeId) (home : v.home? = some p) (site : Expr) :
    run perform scope [.enter n, .read site n] [.value v] st =
        some (land ([.value ·]) (readName perform n p st)) ∧
      (visits perform scope [.enter n, .read site n] [.value v] st).map Visit.meeting =
        [(st, (st.binding? n p).bind Binding.asked?)] := by
  constructor
  · rw [run_cons_of_ok (enter_home home), run_single]
    exact exec_read site n p
  · rw [visits_cons_of_ok (enter_home home)]
    exact read_meeting site n p [] st

theorem run_found (perform : Performer) (scope : ScopeId) {a : Action}
    (home : v.home? = some p) (found : st.method? n p = some a) :
    run perform scope (.enter n :: .find n :: is) [.value v] st =
        run perform scope is [.method a] st ∧
      visits perform scope (.enter n :: .find n :: is) [.value v] st =
        visits perform scope is [.method a] st := by
  have finds : (Instr.find n).exec perform scope [.place p] st = some (.ok [.method a], st) := by
    rw [Instr.exec, found]
  constructor
  · rw [run_cons_of_ok (enter_home home), run_cons_of_ok finds]
  · rw [visits_cons_of_ok (enter_home home), visits_cons_of_ok finds]
    rfl

theorem comes_onto (done : o.evalWith perform scope st = (.ok v, st'))
    (h : Comes perform scope v st' l r ms) :
    (l.onto o).evalWith perform scope st = r ∧
      met perform scope (l.onto o) st = met perform scope o st ++ ms := by
  cases h with
  | @inScope i n _ home =>
    obtain ⟨ran, seen⟩ := run_read perform scope home (.member o n)
    apply onto_behind done
    · rw [Expr.evalWith]
      exact ran
    · rw [met, Expr.code, visits_cons_of_ok rfl]
      exact seen.trans (read_meeting ..).symm
  | @inHost h n _ home =>
    obtain ⟨ran, seen⟩ := run_read perform scope home (.member o n)
    exact onto_behind done ran seen
  | @missing p n args _ home none =>
    have fails : (Instr.find n).exec perform scope [.place p] st' =
        some (.error (.undefinedMethod n), st') := by rw [Instr.exec, none]
    apply onto_behind done
    · exact (run_cons_of_ok (enter_home home)).trans (run_cons_of_error fails)
    · rw [Link.code, visits_cons_of_ok (enter_home home), visits_cons_of_error fails]
      rfl
  | @argument p n a args f _ st₁ ms home found fails =>
    obtain ⟨same, seen⟩ := argued_evalAll fails [.method a]
    have ran : run perform scope (codeAll args) [.method a] st' = some (.error f, st₁) := by
      rw [run_codeAll, same]
      rfl
    obtain ⟨runs, sees⟩ := run_found perform scope home found
    apply onto_behind done
    · rw [Link.code, Link.label, runs, run_append, ran]
      rfl
    · rw [Link.code, Link.label, sees, visits_append_of_error ran, seen]
  | @invoked p n a args vs _ st₁ ms home found all =>
    obtain ⟨same, seen⟩ := argued_evalAll all [.method a]
    have ran : run perform scope (codeAll args) [.method a] st' =
        some (.ok (vs.reverse.map .value ++ [.method a]), st₁) := by
      rw [run_codeAll, same]
      rfl
    obtain ⟨runs, sees⟩ := run_found perform scope home found
    apply onto_behind done
    · rw [Link.code, Link.label, runs, run_append, ran, ← evalAll_length same]
      exact run_single.trans (exec_invoke ..)
    · rw [Link.code, Link.label, sees, visits_append_of_ok ran, List.map_append, seen,
        ← evalAll_length same, invoke_meeting]
  | apart none =>
    apply onto_behind done
    · exact run_cons_of_error (enter_apart none)
    · unfold Link.code
      rw [visits_cons_of_error (enter_apart none)]
      rfl

theorem exists_comes (perform : Performer) (scope : ScopeId) (v : Value) (st : Store) (l : Link) :
    ∃ r ms, Comes perform scope v st l r ms := by
  rcases home : v.home? with _ | p
  · exact ⟨_, _, .apart home⟩
  cases l with
  | name n =>
    cases p with
    | scope i => exact ⟨_, _, .inScope home⟩
    | host h => exact ⟨_, _, .inHost home⟩
  | call n args =>
    rcases found : st.method? n p with _ | a
    · exact ⟨_, _, .missing home found⟩
    · obtain ⟨r, st', ms, argued⟩ := exists_argued perform scope args st
      cases r with
      | error f => exact ⟨_, _, .argument home found argued⟩
      | ok vs => exact ⟨_, _, .invoked home found argued⟩

theorem exists_chain (perform : Performer) (scope : ScopeId) (v : Value) (st : Store)
    (ls : List Link) :
    ∃ r ms, Chain perform scope v st ls r ms := by
  induction ls generalizing v st with
  | nil => exact ⟨_, _, .nil⟩
  | cons l ls ih =>
    obtain ⟨⟨_ | w, st'⟩, ms, first⟩ := exists_comes perform scope v st l
    · exact ⟨_, _, .fails first⟩
    · obtain ⟨r, ns, others⟩ := ih w st'
      exact ⟨_, _, .cons first others⟩

theorem along_fails (fails : o.evalWith perform scope st = (.error f, st')) (ls : List Link) :
    (o.along ls).evalWith perform scope st = (.error f, st') ∧
      met perform scope (o.along ls) st = met perform scope o st := by
  induction ls generalizing o with
  | nil => exact ⟨fails, rfl⟩
  | cons l ls ih =>
    have behind : (l.onto o).evalWith perform scope st = (.error f, st') := by
      apply evalWith_of_run_error (s := [])
      rw [onto_code, run_append, run_code_of_error fails]
    obtain ⟨same, seen⟩ := ih behind
    refine ⟨same, seen.trans ?_⟩
    rw [met, onto_code, met_of_error fails]

theorem chain_along (done : o.evalWith perform scope st = (.ok v, st'))
    (h : Chain perform scope v st' ls r ms) :
    (o.along ls).evalWith perform scope st = r ∧
      met perform scope (o.along ls) st = met perform scope o st ++ ms := by
  induction h generalizing o with
  | nil => exact ⟨done, (List.append_nil _).symm⟩
  | fails first =>
    obtain ⟨fails, seen⟩ := comes_onto done first
    obtain ⟨same, all⟩ := along_fails fails _
    exact ⟨same, all.trans seen⟩
  | cons first others ih =>
    obtain ⟨next, seen⟩ := comes_onto done first
    obtain ⟨same, all⟩ := ih next
    refine ⟨same, all.trans ?_⟩
    rw [seen, List.append_assoc]

/-- Rules under which something always comes, and truly, say all there is to it. -/
theorem come_iff {Rules : Except Failure Value × Store → List Meeting → Prop}
    {x : Except Failure Value × Store} {us : List Meeting}
    (truly : ∀ r ms, Rules r ms → x = r ∧ us = ns ++ ms) (always : ∃ r ms, Rules r ms)
    (r : Except Failure Value × Store) (ms : List Meeting) :
    Rules r ms ↔ x = r ∧ us = ns ++ ms := by
  constructor
  · exact truly r ms
  · rintro ⟨rfl, seen⟩
    obtain ⟨r, ms', comes⟩ := always
    obtain ⟨rfl, same⟩ := truly r ms' comes
    rwa [List.append_cancel_left (seen.symm.trans same)]

/-- Behind an owner with a value, a link is evaluated where the value has its names: it comes to
    just what the rules give, after all that the owner has met, and a chain of any length comes to
    what its links give one after the other. Behind an owner that fails nothing is come to. -/
theorem member_access (perform : Performer) (scope : ScopeId) (o : Expr) (st : Store) :
    match o.evalWith perform scope st with
    | (.ok v, st') =>
        (∀ l r ms, Comes perform scope v st' l r ms ↔
          (l.onto o).evalWith perform scope st = r ∧
            met perform scope (l.onto o) st = met perform scope o st ++ ms) ∧
        ∀ ls r ms, Chain perform scope v st' ls r ms ↔
          (o.along ls).evalWith perform scope st = r ∧
            met perform scope (o.along ls) st = met perform scope o st ++ ms
    | (.error f, st') => ∀ ls, (o.along ls).evalWith perform scope st = (.error f, st') ∧
        met perform scope (o.along ls) st = met perform scope o st := by
  rcases result : o.evalWith perform scope st with ⟨f | v, st'⟩
  · exact along_fails result
  · constructor
    · intro l
      apply come_iff
      · intro r ms comes
        exact comes_onto result comes
      · exact exists_comes perform scope v st' l
    · intro ls
      apply come_iff
      · intro r ms chain
        exact chain_along result chain
      · exact exists_chain perform scope v st' ls

def owning : Store :=
  ⟨[⟨[("x", .value (.integer 1))], [("f", .last)], none⟩, ⟨[], [], some (.scope 0)⟩,
    ⟨[("d", .value (.context 1)), ("x", .value (.integer 2))], [("f", .count)], none⟩], [], [], 0,
    []⟩

theorem member_access_owning :
    ((Link.call "f" [.name "x"]).onto (.name "d")).evalWith Action.run 2 owning =
      (.ok (.integer 2), owning) := by
  have read : ∀ {n : String} {i : ScopeId} {v : Value},
      owning.binding? n (.scope i) = some (.value v) →
        (Expr.name n).evalWith Action.run i owning = (.ok v, owning) := by
    intro n i v bound
    rw [Expr.evalWith, readName_apply, bound]
    rfl
  have owner : (Expr.name "d").evalWith Action.run 2 owning = (.ok (.context 1), owning) := by
    apply read
    rw [Store.binding?, Store.resolve]
    rfl
  have argument : (Expr.name "x").evalWith Action.run 2 owning = (.ok (.integer 2), owning) := by
    apply read
    rw [Store.binding?, Store.resolve]
    rfl
  have found : owning.method? "f" (.scope 1) = some .last := by
    simp [Store.method?, Store.resolve, Store.scope, owning]
  have access := member_access Action.run 2 (.name "d") owning
  rw [owner] at access
  exact ((access.1 _ _ _).mp (.invoked rfl found (.cons argument .nil))).1

end ScopedFormula
