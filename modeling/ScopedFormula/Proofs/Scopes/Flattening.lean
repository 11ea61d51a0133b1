import Mathlib
import ScopedFormula.Proofs.Scopes.Chain
import ScopedFormula.Proofs.Scopes.Defining

/- A chain of scopes and the one scope that binds what the chain binds. As long as no name is
   defined, evaluation cannot tell the innermost scope of the chain from that one: it runs through
   the same instructions on stacks that differ in the place of its own names alone. -/
namespace ScopedFormula

variable {st st' : Store} {i f : ScopeId} {ids : List ScopeId} {h : Option HostId} {n : String}
variable {α β : Type}

/-- The scope f is enclosed by nothing. It binds a name to what the first scope of the chain that
    has the name binds it to, or to what the host context at the end does. -/
structure Store.Flattens (st : Store) (ids : List ScopeId) (h : Option HostId) (f : ScopeId) :
    Prop where
  outer : (st.scope f).outer = none
  vars : ∀ n, (st.scope f).vars.lookup n =
    (ids.findSome? fun j => (st.scope j).vars.lookup n).or
      (h.bind fun h => (st.host h).vars.lookup n)
  methods : ∀ n, (st.scope f).methods.lookup n =
    (ids.findSome? fun j => (st.scope j).methods.lookup n).or
      (h.bind fun h => (st.host h).methods.lookup n)

structure Store.Agree (st : Store) (i f : ScopeId) : Prop where
  bindings : ∀ n, st.binding? n (.scope i) = st.binding? n (.scope f)
  methods : ∀ n, st.method? n (.scope i) = st.method? n (.scope f)

theorem agree_symm (agree : st.Agree i f) : st.Agree f i :=
  ⟨fun n => (agree.bindings n).symm, fun n => (agree.methods n).symm⟩

theorem resolve_alone {own : Scope → Option β} {hosted : Host → Option β}
    (alone : (st.scope f).outer = none) : st.resolve own hosted f = own (st.scope f) := by
  rw [Store.resolve, alone]
  cases own (st.scope f) <;> rfl

theorem agree_of_flattens (linked : st.Linked) (chain : st.Outward i ids h)
    (flat : st.Flattens ids h f) : st.Agree i f := by
  constructor
  · intro n
    rw [Store.binding?, Store.binding?, resolve_outward linked chain, resolve_alone flat.outer,
      flat.vars]
  · intro n
    rw [Store.method?, Store.method?, resolve_outward linked chain, resolve_alone flat.outer,
      flat.methods]

/-- No scope and no host context has other names than before. -/
structure Store.SameNames (st st' : Store) : Prop where
  scopes : ∀ j, st'.scope j = st.scope j
  hosts : ∀ k, st'.host k = st.host k

instance : IsPreorder Store Store.SameNames where
  refl _ := ⟨fun _ => rfl, fun _ => rfl⟩
  trans _ _ _ first second :=
    ⟨fun j => (second.scopes j).trans (first.scopes j),
      fun k => (second.hosts k).trans (first.hosts k)⟩

theorem sameNames_of_eq (scopes : st'.scopes = st.scopes) (hosts : st'.hosts = st.hosts) :
    st.SameNames st' := by
  constructor
  · intro j
    rw [Store.scope, Store.scope, scopes]
  · intro k
    rw [Store.host, Store.host, hosts]

theorem resolve_sameNames (same : st.SameNames st') (own : Scope → Option β)
    (hosted : Host → Option β) (j : ScopeId) :
    st'.resolve own hosted j = st.resolve own hosted j := by
  induction j using Nat.strongRecOn with
  | ind j ih =>
    rw [Store.resolve, Store.resolve.eq_def st own, same.scopes j]
    cases own (st.scope j) with
    | some b => rfl
    | none =>
      rcases (st.scope j).outer with _ | p | k
      · rfl
      · dsimp only
        by_cases older : p < j
        · rw [if_pos older, if_pos older, ih p older]
        · rw [if_neg older, if_neg older]
      · exact congrArg hosted (same.hosts k)

theorem agree_sameNames (same : st.SameNames st') (agree : st.Agree i f) : st'.Agree i f := by
  constructor
  · intro n
    rw [Store.binding?, Store.binding?, resolve_sameNames same, resolve_sameNames same]
    exact agree.bindings n
  · intro n
    rw [Store.method?, Store.method?, resolve_sameNames same, resolve_sameNames same]
    exact agree.methods n

inductive Cell.Meets (i f : ScopeId) : Cell → Cell → Prop where
  | same (c : Cell) : Cell.Meets i f c c
  | here : Cell.Meets i f (.place (.scope i)) (.place (.scope f))

def Ends (i f : ScopeId) : Option (Except Failure (List Cell) × Store) →
    Option (Except Failure (List Cell) × Store) → Prop
  | some (.ok s, st), some (.ok t, st') => List.Forall₂ (Cell.Meets i f) s t ∧ st' = st
  | some (.error e, st), some (.error g, st') => g = e ∧ st' = st
  | none, none => True
  | _, _ => False

theorem ends_land {onto onto' : α → List Cell}
    (meet : ∀ a, List.Forall₂ (Cell.Meets i f) (onto a) (onto' a))
    (r : Except Failure α × Store) : Ends i f (some (land onto r)) (some (land onto' r)) := by
  rcases r with ⟨e | a, st⟩
  · exact ⟨rfl, rfl⟩
  · exact ⟨meet a, rfl⟩

variable {perform : Performer} {s t : List Cell}

theorem arguments_meet (meet : List.Forall₂ (Cell.Meets i f) s t) :
    arguments t = arguments s := by
  have values : t.filterMap Cell.value? = s.filterMap Cell.value? := by
    induction meet with
    | nil => rfl
    | cons first _ ih =>
      have same : ∀ {c d : Cell}, c.Meets i f d → d.value? = c.value? := by
        rintro _ _ ⟨⟩ <;> rfl
      rw [List.filterMap_cons, List.filterMap_cons, same first, ih]
  rw [arguments, arguments, values]

theorem findMethod_agree (agree : st.Agree i f) :
    findMethod n (.scope f) st = findMethod n (.scope i) st := by
  rw [findMethod_apply, findMethod_apply, agree.methods]

theorem readName_agree (agree : st.Agree i f) :
    readName perform n (.scope f) st = readName perform n (.scope i) st := by
  rw [readName_apply, readName_apply, agree.bindings]

theorem exec_meets (perform : Performer) (agree : st.Agree i f)
    (meet : List.Forall₂ (Cell.Meets i f) s t) (j : Instr) :
    Ends i f (j.exec perform i s st) (j.exec perform f t st) ∧
      j.visit? t st = j.visit? s st := by
  -- the stacks may differ in a place alone, so only find and read have a case more
  cases j with
  | push v => exact ⟨⟨.cons (.same _) meet, rfl⟩, rfl⟩
  | here => exact ⟨⟨.cons .here meet, rfl⟩, rfl⟩
  | refuse callee => exact ⟨⟨rfl, rfl⟩, rfl⟩
  | unary op | enter m =>
    rcases meet with _ | ⟨⟨v | _ | _⟩ | _, rest⟩
    case cons.same.value => exact ⟨ends_land (fun _ => .cons (.same _) rest) _, rfl⟩
    all_goals exact ⟨trivial, rfl⟩
  | binary op =>
    rcases meet with _ | ⟨⟨r | _ | _⟩ | _, _ | ⟨⟨l | _ | _⟩ | _, rest⟩⟩
    case cons.same.value.cons.same.value =>
      exact ⟨ends_land (fun _ => .cons (.same _) rest) _, rfl⟩
    all_goals exact ⟨trivial, rfl⟩
  | find m =>
    rcases meet with _ | ⟨⟨_ | p | _⟩ | _, rest⟩
    case cons.same.place =>
      rw [exec_find, exec_find]
      exact ⟨ends_land (fun _ => .cons (.same _) rest) _, rfl⟩
    case cons.here =>
      rw [exec_find, exec_find, findMethod_agree agree]
      exact ⟨ends_land (fun _ => .cons (.same _) rest) _, rfl⟩
    all_goals exact ⟨trivial, rfl⟩
  | read site m =>
    rcases meet with _ | ⟨⟨_ | p | _⟩ | _, rest⟩
    case cons.same.place =>
      rw [exec_read, exec_read]
      exact ⟨ends_land (fun _ => .cons (.same _) rest) _, rfl⟩
    case cons.here =>
      rw [exec_read, exec_read, readName_agree agree, Instr.visit?, Instr.visit?, agree.bindings]
      exact ⟨ends_land (fun _ => .cons (.same _) rest) _, rfl⟩
    all_goals exact ⟨trivial, rfl⟩
  | invoke site m k =>
    have below := List.forall₂_drop k meet
    rw [Instr.exec, Instr.exec, Instr.visit?, Instr.visit?,
      arguments_meet (List.forall₂_take k meet)]
    generalize s.drop k = s', t.drop k = t' at below ⊢
    rcases below with _ | ⟨⟨_ | _ | a⟩ | _, rest⟩
    case cons.same.method => exact ⟨ends_land (fun _ => .cons (.same _) rest) _, rfl⟩
    all_goals exact ⟨trivial, rfl⟩

/-- As long as no visit defines a name, both runs go through the same. -/
theorem run_meets {is : List Instr} (agree : st.Agree i f)
    (meet : List.Forall₂ (Cell.Meets i f) s t)
    (quiet : ∀ v ∈ visits perform i is s st, v.before.SameNames (v.after perform)) :
    Ends i f (run perform i is s st) (run perform f is t st) ∧
      visits perform f is t st = visits perform i is s st := by
  induction is generalizing s t st with
  | nil => exact ⟨⟨meet, rfl⟩, rfl⟩
  | cons j is ih =>
    obtain ⟨ends, visited⟩ := exec_meets perform agree meet j
    rcases first : j.exec perform i s st with _ | ⟨e | s₁, st₁⟩ <;>
      rcases second : j.exec perform f t st with _ | ⟨g | t₁, st₂⟩ <;>
      rw [first, second] at ends
    all_goals try contradiction
    · rw [run, run, visits, visits, first, second, visited]
      exact ⟨trivial, rfl⟩
    · rw [run_cons_of_error first, run_cons_of_error second, visits_cons_of_error first,
        visits_cons_of_error second, visited]
      exact ⟨ends, rfl⟩
    · obtain ⟨meet', rfl⟩ := ends
      rw [run_cons_of_ok first, run_cons_of_ok second, visits_cons_of_ok first,
        visits_cons_of_ok second, visited]
      rw [visits_cons_of_ok first] at quiet
      have names : st.SameNames st₂ := (follow_store
        (fun v here => quiet v (List.mem_append_left _ here)) (exec_follow first).2).1
      obtain ⟨rest, others⟩ := ih (agree_sameNames names agree) meet'
        fun v later => quiet v (List.mem_append_right _ later)
      exact ⟨rest, congrArg _ others⟩

def SameCourse (perform : Performer) (i f : ScopeId) (e : Expr) (st : Store) : Prop :=
  e.evalWith perform f st = e.evalWith perform i st ∧
    visits perform f e.code [] st = visits perform i e.code [] st

theorem course_symm {e : Expr} (h : SameCourse perform i f e st) : SameCourse perform f i e st :=
  ⟨h.1.symm, h.2.symm⟩

/-- The names of all scopes are after each visit what they were before it. -/
def NoneDefines (perform : Performer) (vs : List Visit) : Prop :=
  ∀ v ∈ vs, v.before.SameNames (v.after perform)

theorem course_of_agree {e : Expr} (agree : st.Agree i f)
    (quiet : NoneDefines perform (visits perform i e.code [] st)) :
    SameCourse perform i f e st := by
  obtain ⟨ends, visited⟩ := run_meets agree .nil quiet
  refine ⟨?_, visited⟩
  rw [run_code, run_code] at ends
  rcases first : e.evalWith perform i st with ⟨g | v, st₁⟩ <;>
    rcases second : e.evalWith perform f st with ⟨g' | w, st₂⟩ <;>
    rw [first, second] at ends
  · obtain ⟨rfl, rfl⟩ := ends
    rfl
  · contradiction
  · contradiction
  · obtain ⟨_ | ⟨⟨⟩, _⟩, rfl⟩ := ends
    rfl

/-- No method that is given arguments defines a name. Variables are given none, and then there is
    no name to define. -/
def NoMethodDefines (vs : List Visit) : Prop :=
  ∀ v ∈ vs, ∀ a args, v.asked = some (a, args) → args ≠ [] →
    v.before.SameNames (a.run args v.before).2

theorem run_nil_sameNames (a : Action) (st : Store) : st.SameNames (a.run [] st).2 := by
  cases a <;> exact sameNames_of_eq rfl rfl

theorem noneDefines_of_methods {vs : List Visit} (quiet : NoMethodDefines vs) :
    NoneDefines Action.run vs := by
  intro v visited
  refine visit_store fun a args asked => ?_
  by_cases given : args = []
  · subst given
    exact run_nil_sameNames a v.before
  · exact quiet v visited a args asked given

def overlay (inner outer : List (String × β)) : List (String × β) :=
  inner ++ outer.filter fun b => (inner.lookup b.1).isNone

theorem lookup_overlay (inner outer : List (String × β)) (n : String) :
    (overlay inner outer).lookup n = (inner.lookup n).or (outer.lookup n) := by
  rw [overlay, List.lookup_append]
  rcases bound : inner.lookup n with _ | b
  · rw [Option.none_or, Option.none_or]
    induction outer with
    | nil => rfl
    | cons b outer ih =>
      by_cases same : n = b.1
      · obtain ⟨m, c⟩ := b
        obtain rfl : n = m := same
        simp [bound]
      · have apart : (n == b.1) = false := beq_false_of_ne same
        rw [List.lookup_cons, apart, List.filter_cons]
        split
        · rw [List.lookup_cons, apart]
          exact ih
        · exact ih
  · rfl

def Store.overlaid (st : Store) (own : Scope → List (String × β)) (hosted : List (String × β))
    (ids : List ScopeId) : List (String × β) :=
  ids.foldr (fun j names => overlay (own (st.scope j)) names) hosted

theorem lookup_overlaid (st : Store) (own : Scope → List (String × β))
    (hosted : List (String × β)) (ids : List ScopeId) (n : String) :
    (st.overlaid own hosted ids).lookup n =
      (ids.findSome? fun j => (own (st.scope j)).lookup n).or (hosted.lookup n) := by
  induction ids with
  | nil => rfl
  | cons j ids ih =>
    have step : st.overlaid own hosted (j :: ids) =
        overlay (own (st.scope j)) (st.overlaid own hosted ids) := rfl
    rw [step, lookup_overlay, ih, List.findSome?_cons]
    cases (own (st.scope j)).lookup n <;> rfl

def Store.flattened (st : Store) (ids : List ScopeId) (h : Option HostId) : Scope where
  vars := st.overlaid Scope.vars (h.elim [] fun h => (st.host h).vars) ids
  methods := st.overlaid Scope.methods (h.elim [] fun h => (st.host h).methods) ids
  outer := none

def Store.addFlattened (st : Store) (ids : List ScopeId) (h : Option HostId) : Store :=
  (st.addScope none).2.setScope st.scopes.length (st.flattened ids h)

theorem keeps_addFlattened (st : Store) (ids : List ScopeId) (h : Option HostId) :
    st.Keeps (st.addFlattened ids h) := by
  apply keeps_addScope
  · apply widens_setScope
    rw [scope_addScope, if_pos rfl]
    exact ⟨List.nil_prefix, List.nil_prefix, rfl⟩
  · intro j old
    exact spares_setScope (Nat.ne_of_gt old)

theorem outward_keeps (linked : st.Linked) (keeps : st.Keeps st') (chain : st.Outward i ids h)
    (present : i < st.scopes.length) : st'.Outward i ids h := by
  induction chain with
  | free outer => exact .free (keeps.old _ present ▸ outer)
  | hosted outer => exact .hosted (keeps.old _ present ▸ outer)
  | enclosed inside _ ih =>
    have older := linked _ _ inside
    refine .enclosed ?_ (ih (Nat.lt_trans older present))
    rw [Store.Encloses, keeps.old _ present]
    exact inside

theorem findSome?_congr {g k : ScopeId → Option β} (same : ∀ j ∈ ids, g j = k j) :
    ids.findSome? g = ids.findSome? k := by
  induction ids with
  | nil => rfl
  | cons j ids ih =>
    rw [List.findSome?_cons, List.findSome?_cons, same j List.mem_cons_self,
      ih fun l on => same l (List.mem_cons_of_mem j on)]

theorem flattens_addFlattened (linked : st.Linked) (chain : st.Outward i ids h)
    (present : i < st.scopes.length) :
    (st.addFlattened ids h).Flattens ids h st.scopes.length := by
  have keeps := keeps_addFlattened st ids h
  have old : ∀ j ∈ ids, (st.addFlattened ids h).scope j = st.scope j := fun j on =>
    keeps.old j (Nat.lt_of_le_of_lt (outward_le linked chain j on) present)
  have new : (st.addFlattened ids h).scope st.scopes.length = st.flattened ids h := by
    rw [Store.addFlattened, scope_setScope, if_pos]
    exact ⟨rfl, by simp [Store.addScope]⟩
  constructor
  · rw [new]
    rfl
  · intro n
    rw [new, Store.flattened, lookup_overlaid,
      findSome?_congr fun j on => congrArg (fun s : Scope => s.vars.lookup n) (old j on)]
    cases h <;> rfl
  · intro n
    rw [new, Store.flattened, lookup_overlaid,
      findSome?_congr fun j on => congrArg (fun s : Scope => s.methods.lookup n) (old j on)]
    cases h <;> rfl

/-- A chain of scopes can be flattened into a new scope. Whatever scope flattens it, an expression
    comes in both to the same value or failure in the same store, and asks the same of the host,
    unless a name is defined meanwhile. -/
theorem chain_flattening (linked : st.Linked) (chain : st.Outward i ids h) :
    (i < st.scopes.length → st.Keeps (st.addFlattened ids h) ∧
      (st.addFlattened ids h).Outward i ids h ∧
      (st.addFlattened ids h).Flattens ids h st.scopes.length) ∧
    ∀ f, st.Flattens ids h f → ∀ e : Expr,
      (∀ perform, NoneDefines perform (visits perform i e.code [] st) ∨
          NoneDefines perform (visits perform f e.code [] st) → SameCourse perform i f e st) ∧
      (NoMethodDefines (visits Action.run i e.code [] st) ∨
          NoMethodDefines (visits Action.run f e.code [] st) → SameCourse Action.run i f e st) := by
  constructor
  · intro present
    have keeps := keeps_addFlattened st ids h
    exact ⟨keeps, outward_keeps linked keeps chain present,
      flattens_addFlattened linked chain present⟩
  · intro f flat e
    have agree := agree_of_flattens linked chain flat
    have both : ∀ perform, NoneDefines perform (visits perform i e.code [] st) ∨
        NoneDefines perform (visits perform f e.code [] st) → SameCourse perform i f e st := by
      rintro perform (quiet | quiet)
      · exact course_of_agree agree quiet
      · exact course_symm (course_of_agree (agree_symm agree) quiet)
    exact ⟨both, fun quiet => both Action.run
      (quiet.imp noneDefines_of_methods noneDefines_of_methods)⟩

def hidingStore : Store where
  scopes := [⟨[("x", .value (.integer 1)), ("t", .lazy (.tick 0))], [("f", .sum)], none⟩,
    ⟨[("x", .value (.integer 5))], [], some (.scope 0)⟩,
    ⟨[("x", .value (.integer 5)), ("t", .lazy (.tick 0))], [("f", .sum)], none⟩]
  hosts := []
  ticks := [0]
  customs := 0
  log := []

def nestedSum : Expr := .call (.name "f") [.name "x", .name "t"]

theorem nestedSum_asks : (visits Action.run 1 nestedSum.code [] hidingStore).map Visit.asked =
    [none, some (.tick 0, []), some (.sum, [.integer 5, .integer 1])] := by
  cbv

theorem chain_flattening_nested :
    hidingStore.Linked ∧ hidingStore.Outward 1 [1, 0] none ∧ hidingStore.Flattens [1, 0] none 2 ∧
      NoMethodDefines (visits Action.run 1 nestedSum.code [] hidingStore) ∧
      nestedSum.evalWith Action.run 2 hidingStore =
        (.ok (.integer 6), { hidingStore with ticks := [1] }) ∧
      visits Action.run 2 nestedSum.code [] hidingStore =
        visits Action.run 1 nestedSum.code [] hidingStore := by
  have linked : hidingStore.Linked := by
    intro i p inside
    rcases i with _ | _ | _ | i
    · cases inside
    · cases inside
      decide
    · cases inside
    · cases inside
  have chain : hidingStore.Outward 1 [1, 0] none := .enclosed rfl (.free rfl)
  have flat : hidingStore.Flattens [1, 0] none 2 :=
    ⟨rfl, lookup_overlaid hidingStore Scope.vars [] [1, 0],
      lookup_overlaid hidingStore Scope.methods [] [1, 0]⟩
  have quiet : NoMethodDefines (visits Action.run 1 nestedSum.code [] hidingStore) := by
    intro v visited a args asked given
    have among := List.mem_map_of_mem (f := Visit.asked) visited
    rw [nestedSum_asks, asked] at among
    have either : a = .tick 0 ∧ args = [] ∨ a = .sum ∧ args = [.integer 5, .integer 1] := by
      simpa using among
    rcases either with ⟨-, none⟩ | ⟨rfl, -⟩
    · exact absurd none given
    · exact sameNames_of_eq rfl rfl
  obtain ⟨same, visited⟩ := ((chain_flattening linked chain).2 2 flat nestedSum).2 (.inl quiet)
  refine ⟨linked, chain, flat, quiet, ?_, visited⟩
  rw [same]
  cbv

end ScopedFormula
