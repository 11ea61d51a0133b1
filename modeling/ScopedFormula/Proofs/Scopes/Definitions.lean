import ScopedFormula.Proofs.ByteOrder
import ScopedFormula.Proofs.Scopes.Described
import ScopedFormula.Proofs.Scopes.Resolution

/- Definitions in a scope, one after another. Each looks at the names of its own kind in that scope
   and at nothing else, and adds one or changes nothing; so what a scope means and how it is
   described does not depend on the order in which it was given its names. -/
namespace ScopedFormula

variable {st st' : Store} {i j : ScopeId} {n : String} {s : Scope} {β : Type}

inductive Namespace where
  | vars
  | methods
  deriving DecidableEq, Repr

def Scope.own (s : Scope) : Namespace → List String
  | .vars => s.vars.map Prod.fst
  | .methods => s.methods.map Prod.fst

inductive Definition where
  | value (name : String) (v : Value)
  | lazy (name : String) (a : Action)
  | method (name : String) (a : Action)

def Definition.key : Definition → Namespace × String
  | .value n _ | .lazy n _ => (.vars, n)
  | .method n _ => (.methods, n)

def Definition.clash : Definition → Failure
  | .value n _ | .lazy n _ => .nameExists n
  | .method n _ => .methodExists n

def Definition.var? : Definition → Option (String × Binding)
  | .value n v => some (n, .value v)
  | .lazy n a => some (n, .lazy a)
  | .method _ _ => none

def Definition.method? : Definition → Option (String × Action)
  | .value _ _ | .lazy _ _ => none
  | .method n a => some (n, a)

def Definition.make (i : ScopeId) (st : Store) : Definition → Except Failure Store
  | .value n v => st.defineVar i n (.value v)
  | .lazy n a => st.defineVar i n (.lazy a)
  | .method n a => st.defineMethod i n a

def Definition.perform (i : ScopeId) (d : Definition) : Effect Unit :=
  Effect.update fun st => d.make i st

def performAll (i : ScopeId) : List Definition → Effect Unit
  | [] => return
  | d :: ds => do
      d.perform i
      performAll i ds

def Scope.adding (s : Scope) (ds : List Definition) : Scope :=
  { s with
    vars := s.vars ++ ds.filterMap Definition.var?
    methods := s.methods ++ ds.filterMap Definition.method? }

def Definition.FreeIn (d : Definition) (s : Scope) : Prop := d.key.2 ∉ s.own d.key.1

instance (d : Definition) (s : Scope) : Decidable (d.FreeIn s) :=
  inferInstanceAs (Decidable (d.key.2 ∉ s.own d.key.1))

def Store.Distinct (st : Store) : Prop := ∀ i k, ((st.scope i).own k).Nodup

theorem lookup_eq_none {bs : List (String × β)} :
    bs.lookup n = none ↔ n ∉ bs.map Prod.fst := by
  rw [List.lookup_eq_none_iff, List.mem_map]
  constructor
  · rintro apart ⟨b, mem, rfl⟩
    simpa using apart b mem
  · intro absent b mem
    exact bne_iff_ne.mpr fun same => absent ⟨b, mem, same.symm⟩

theorem lookup_eq_some {bs : List (String × β)} {b : β} (nodup : (bs.map Prod.fst).Nodup) :
    bs.lookup n = some b ↔ (n, b) ∈ bs := by
  induction bs with
  | nil => simp
  | cons c bs ih =>
    obtain ⟨fresh, others⟩ := List.nodup_cons.mp nodup
    rw [List.lookup_cons, List.mem_cons, ← ih others]
    by_cases same : n = c.1
    · subst same
      have none : bs.lookup c.1 = none := lookup_eq_none.mpr fresh
      simp [none, Prod.ext_iff, eq_comm]
    · simp [beq_false_of_ne same, Prod.ext_iff, same]

theorem lookup_perm {bs cs : List (String × β)} (perm : bs.Perm cs)
    (nodup : (bs.map Prod.fst).Nodup) (n : String) : bs.lookup n = cs.lookup n := by
  have nodup' : (cs.map Prod.fst).Nodup := (perm.map Prod.fst).nodup_iff.mp nodup
  refine Option.ext fun b => ?_
  rw [lookup_eq_some nodup, lookup_eq_some nodup', perm.mem_iff]

@[simp] theorem adding_nil (s : Scope) : s.adding [] = s := by
  simp [Scope.adding]

theorem adding_append (s : Scope) (ds es : List Definition) :
    s.adding (ds ++ es) = (s.adding ds).adding es := by
  simp [Scope.adding]

@[simp] theorem adding_value (v : Value) :
    s.adding [.value n v] = { s with vars := s.vars ++ [(n, .value v)] } := by
  simp [Scope.adding, List.filterMap_cons, Definition.var?, Definition.method?]

@[simp] theorem adding_lazy (a : Action) :
    s.adding [.lazy n a] = { s with vars := s.vars ++ [(n, .lazy a)] } := by
  simp [Scope.adding, List.filterMap_cons, Definition.var?, Definition.method?]

@[simp] theorem adding_method (a : Action) :
    s.adding [.method n a] = { s with methods := s.methods ++ [(n, a)] } := by
  simp [Scope.adding, List.filterMap_cons, Definition.var?, Definition.method?]

theorem own_adding_one (s : Scope) (d : Definition) (k : Namespace) :
    (s.adding [d]).own k = s.own k ++ if d.key.1 = k then [d.key.2] else [] := by
  cases d <;> cases k <;> simp [Scope.own, Definition.key]

theorem mem_own_adding {ds : List Definition} {k : Namespace} :
    n ∈ (s.adding ds).own k ↔ n ∈ s.own k ∨ (k, n) ∈ ds.map Definition.key := by
  induction ds generalizing s with
  | nil => simp
  | cons d ds ih =>
    rw [← List.singleton_append, adding_append, ih, own_adding_one]
    by_cases same : d.key.1 = k
    · subst same
      simp [Prod.ext_iff, or_assoc]
    · have other : (k, n) ≠ d.key := fun h => same (congrArg Prod.fst h).symm
      simp [same, other]

/-- The definitions are of different names, and the scope has none of them. -/
structure Fresh (s : Scope) (ds : List Definition) : Prop where
  apart : (ds.map Definition.key).Nodup
  free : ∀ d ∈ ds, d.FreeIn s

theorem fresh_cons {d : Definition} {ds : List Definition} (fresh : Fresh s (d :: ds)) :
    d.FreeIn s ∧ Fresh (s.adding [d]) ds := by
  obtain ⟨here, apart⟩ := List.nodup_cons.mp fresh.apart
  refine ⟨fresh.free d List.mem_cons_self, apart, fun e mem => ?_⟩
  rw [Definition.FreeIn, mem_own_adding]
  rintro (taken | again)
  · exact fresh.free e (List.mem_cons_of_mem d mem) taken
  · have same : e.key = d.key := by simpa using again
    exact here (same ▸ List.mem_map_of_mem mem)

theorem fresh_perm {ds es : List Definition} (perm : es.Perm ds) (fresh : Fresh s ds) :
    Fresh s es :=
  ⟨(perm.map _).nodup_iff.mpr fresh.apart, fun d mem => fresh.free d (perm.mem_iff.mp mem)⟩

theorem own_nodup {ds : List Definition} {k : Namespace} (fresh : Fresh s ds)
    (nodup : (s.own k).Nodup) : ((s.adding ds).own k).Nodup := by
  induction ds generalizing s with
  | nil => simpa using nodup
  | cons d ds ih =>
    obtain ⟨free, others⟩ := fresh_cons fresh
    rw [← List.singleton_append, adding_append]
    refine ih others ?_
    rw [own_adding_one]
    split
    · rename_i same
      subst same
      rw [List.nodup_append]
      refine ⟨nodup, by simp, fun a mem b here => ?_⟩
      rw [List.mem_singleton.mp here]
      rintro rfl
      exact free mem
    · simpa using nodup

theorem freeIn_value {v : Value} :
    (Definition.value n v).FreeIn s ↔ s.vars.lookup n = none := lookup_eq_none.symm

theorem freeIn_lazy {a : Action} :
    (Definition.lazy n a).FreeIn s ↔ s.vars.lookup n = none := lookup_eq_none.symm

theorem freeIn_method {a : Action} :
    (Definition.method n a).FreeIn s ↔ s.methods.lookup n = none := lookup_eq_none.symm

theorem make_free {d : Definition} (free : d.FreeIn (st.scope i)) :
    d.make i st = .ok (st.setScope i ((st.scope i).adding [d])) := by
  cases d with
  | value n v => exact defineVar_eq_ok.mpr ⟨freeIn_value.mp free, by rw [adding_value]⟩
  | lazy n a => exact defineVar_eq_ok.mpr ⟨freeIn_lazy.mp free, by rw [adding_lazy]⟩
  | method n a => exact defineMethod_eq_ok.mpr ⟨freeIn_method.mp free, by rw [adding_method]⟩

theorem make_taken {d : Definition} (taken : ¬ d.FreeIn (st.scope i)) :
    d.make i st = .error d.clash := by
  cases d with
  | value n v =>
    obtain ⟨b, bound⟩ := Option.ne_none_iff_exists'.mp (mt freeIn_value.mpr taken)
    simp only [Definition.make, Store.defineVar, bound, Definition.clash]
  | lazy n a =>
    obtain ⟨b, bound⟩ := Option.ne_none_iff_exists'.mp (mt freeIn_lazy.mpr taken)
    simp only [Definition.make, Store.defineVar, bound, Definition.clash]
  | method n a =>
    obtain ⟨b, bound⟩ := Option.ne_none_iff_exists'.mp (mt freeIn_method.mpr taken)
    simp only [Definition.make, Store.defineMethod, bound, Definition.clash]

theorem perform_free {d : Definition} (free : d.FreeIn (st.scope i)) :
    d.perform i st = (.ok (), st.setScope i ((st.scope i).adding [d])) := by
  simp only [Definition.perform, Effect.update, make_free free]

theorem perform_taken {d : Definition} (taken : ¬ d.FreeIn (st.scope i)) :
    d.perform i st = (.error d.clash, st) := by
  simp only [Definition.perform, Effect.update, make_taken taken]

theorem scope_setScope_self (present : i < st.scopes.length) : (st.setScope i s).scope i = s := by
  rw [scope_setScope, if_pos ⟨rfl, present⟩]

theorem setScope_setScope {s' : Scope} : (st.setScope i s).setScope i s' = st.setScope i s' := by
  simp [Store.setScope]

theorem setScope_self : st.setScope i (st.scope i) = st := by
  obtain ⟨scopes, hosts, ticks, customs, log⟩ := st
  simp only [Store.setScope, Store.scope, Store.mk.injEq, and_true]
  by_cases present : i < scopes.length
  · simp [List.getElem?_eq_getElem present]
  · exact List.set_eq_of_length_le (Nat.le_of_not_lt present)

/-- Fresh definitions all succeed, and then whatever comes after them is done. -/
theorem performAll_append {ds es : List Definition} (present : i < st.scopes.length)
    (fresh : Fresh (st.scope i) ds) : performAll i (ds ++ es) st =
      performAll i es (st.setScope i ((st.scope i).adding ds)) := by
  induction ds generalizing st with
  | nil => rw [adding_nil, setScope_self, List.nil_append]
  | cons d ds ih =>
    obtain ⟨free, others⟩ := fresh_cons fresh
    have still : i < (st.setScope i ((st.scope i).adding [d])).scopes.length := by
      simpa [Store.setScope] using present
    rw [List.cons_append, performAll, Effect.bind_of_ok (perform_free free),
      ih still (by rwa [scope_setScope_self present]), scope_setScope_self present,
      setScope_setScope, ← adding_append, List.singleton_append]

theorem performAll_fresh {ds : List Definition} (present : i < st.scopes.length)
    (fresh : Fresh (st.scope i) ds) :
    performAll i ds st = (.ok (), st.setScope i ((st.scope i).adding ds)) := by
  have all : performAll i (ds ++ []) st = _ := performAll_append present fresh
  rw [List.append_nil] at all
  exact all

def Builtin.definition (b : Builtin) : Definition := .method b.name (.builtin b)

theorem install_eq (bs : List Builtin) (st : Store) :
    st.install i bs = performAll i (bs.map Builtin.definition) st := by
  induction bs generalizing st with
  | nil => rfl
  | cons b bs ih =>
    rw [Store.install, List.map_cons, performAll, Effect.bind_apply, Definition.perform,
      Effect.update, Builtin.definition, Definition.make]
    cases st.defineMethod i b.name (.builtin b) with
    | error e => rfl
    | ok st' => exact ih st'

theorem builtins_apart : ((Builtin.all.map Builtin.definition).map Definition.key).Nodup := by
  decide

theorem install_all (present : i < st.scopes.length) :
    ((∀ b ∈ Builtin.all, b.definition.FreeIn (st.scope i)) ∧ st.install i Builtin.all =
      (.ok (), st.setScope i ((st.scope i).adding (Builtin.all.map Builtin.definition)))) ∨
    ∃ before b after, Builtin.all = before ++ b :: after ∧
      (∀ c ∈ before, c.definition.FreeIn (st.scope i)) ∧ ¬ b.definition.FreeIn (st.scope i) ∧
      st.install i Builtin.all = (.error (.methodExists b.name),
        st.setScope i ((st.scope i).adding (before.map Builtin.definition))) := by
  cases found : Builtin.all.find? fun b => ¬ b.definition.FreeIn (st.scope i) with
  | none =>
    have free : ∀ b ∈ Builtin.all, b.definition.FreeIn (st.scope i) :=
      fun b mem => by simpa using List.find?_eq_none.mp found b mem
    refine .inl ⟨free, ?_⟩
    rw [install_eq]
    exact performAll_fresh present ⟨builtins_apart, List.forall_mem_map.mpr free⟩
  | some b =>
    obtain ⟨taken, before, after, split, earlier⟩ := List.find?_eq_some_iff_append.mp found
    have clash : ¬ b.definition.FreeIn (st.scope i) := by simpa using taken
    have free : ∀ c ∈ before, c.definition.FreeIn (st.scope i) := by simpa using earlier
    have apart := builtins_apart
    rw [split, List.map_append, List.map_append] at apart
    have fresh : Fresh (st.scope i) (before.map Builtin.definition) :=
      ⟨(List.nodup_append.mp apart).1, List.forall_mem_map.mpr free⟩
    refine .inr ⟨before, b, after, split, free, clash, ?_⟩
    have still : ¬ b.definition.FreeIn
        ((st.setScope i ((st.scope i).adding (before.map Builtin.definition))).scope i) := by
      rw [scope_setScope_self present, Definition.FreeIn, mem_own_adding]
      exact not_not_intro (.inl (Classical.not_not.mp clash))
    rw [install_eq, split, List.map_append, performAll_append present fresh, List.map_cons,
      performAll, Effect.bind_of_error (perform_taken still)]
    rfl

theorem distinct_of_scopes (same : st'.scopes = st.scopes) (distinct : st.Distinct) :
    st'.Distinct := by
  intro i k
  have equal : st'.scope i = st.scope i := by rw [Store.scope, Store.scope, same]
  exact equal ▸ distinct i k

theorem distinct_addScope {outer : Option Place} (distinct : st.Distinct) :
    (st.addScope outer).2.Distinct := by
  intro i k
  rw [scope_addScope]
  split
  · cases k <;> exact List.nodup_nil
  · exact distinct i k

theorem distinct_adding {ds : List Definition} (fresh : Fresh (st.scope i) ds)
    (distinct : st.Distinct) : (st.setScope i ((st.scope i).adding ds)).Distinct := by
  intro j k
  rw [scope_setScope]
  split
  · exact own_nodup fresh (distinct i k)
  · exact distinct j k

theorem distinct_make {d : Definition} (made : d.make i st = .ok st') (distinct : st.Distinct) :
    st'.Distinct := by
  by_cases free : d.FreeIn (st.scope i)
  · rw [make_free free] at made
    cases made
    exact distinct_adding ⟨by simp, by simpa using free⟩ distinct
  · rw [make_taken free] at made
    cases made

theorem distinct_defineVar {b : Binding} (defined : st.defineVar i n b = .ok st')
    (distinct : st.Distinct) : st'.Distinct := by
  cases b with
  | value v => exact distinct_make (d := .value n v) defined distinct
  | lazy a => exact distinct_make (d := .lazy n a) defined distinct

theorem distinct_defineMethod {a : Action} (defined : st.defineMethod i n a = .ok st')
    (distinct : st.Distinct) : st'.Distinct :=
  distinct_make (d := .method n a) defined distinct

def Store.KeepsDistinct (st st' : Store) : Prop := st.Distinct → st'.Distinct

instance : IsPreorder Store Store.KeepsDistinct where
  refl _ distinct := distinct
  trans _ _ _ first second distinct := second (first distinct)

theorem builds_distinct : Builds Store.KeepsDistinct := by
  refine ⟨distinct_of_scopes, fun bs ms st distinct => ?_⟩
  have named : Store.KeepsDistinct (st.addScope none).2 (newContext bs ms st).2 :=
    newContext_store (r := Store.KeepsDistinct) (fun _ _ _ _ => distinct_defineVar)
      (fun _ _ _ _ => distinct_defineMethod) bs ms
  exact named (distinct_addScope distinct)

theorem step_distinct (s : Session) (x : Step) :
    s.store.KeepsDistinct (s.step x).2.store := by
  apply step_store
  · exact builds_distinct
  · intro st outer _ _
    exact distinct_addScope
  · intro i n b st st' _
    exact distinct_defineVar
  · intro i n a st st' _
    exact distinct_defineMethod
  · intro a args st _
    exact performAt_store (r := Store.KeepsDistinct) distinct_of_scopes distinct_defineVar
      reentryLimit a args st

theorem run_keeps_distinct (s : Session) (xs : List Step) :
    s.store.KeepsDistinct (s.run xs).2.store := by
  induction xs generalizing s with
  | nil => exact refl_of _ s.store
  | cons x xs ih => exact trans_of _ (step_distinct s x) (ih (s.step x).2)

theorem empty_distinct : Session.empty.store.Distinct := by
  intro i k
  have none : Session.empty.store.scope i = ⟨[], [], none⟩ := scope_of_ge (Nat.zero_le i)
  rw [none]
  cases k <;> exact List.nodup_nil

theorem run_distinct (steps : List Step) : (Session.empty.run steps).2.store.Distinct := by
  have kept := run_keeps_distinct Session.empty steps
  exact kept empty_distinct

/-- The same names mean the same from everywhere, and every scope is described alike. -/
structure Store.Agrees (st st' : Store) : Prop where
  binding : ∀ n p, st'.binding? n p = st.binding? n p
  method : ∀ n p, st'.method? n p = st.method? n p
  described : ∀ j, (st'.scope j).describe = (st.scope j).describe

theorem describe_perm {s' : Scope} (vars : s'.vars.Perm s.vars)
    (methods : s'.methods.Perm s.methods) (outer : s'.outer = s.outer) :
    s'.describe = s.describe := by
  have varNames : sortNames (s'.vars.map Prod.fst) = sortNames (s.vars.map Prod.fst) :=
    sortNames_congr (vars.map Prod.fst)
  have methodNames : sortNames (s'.methods.map Prod.fst) = sortNames (s.methods.map Prod.fst) :=
    sortNames_congr (methods.map Prod.fst)
  unfold Scope.describe
  rw [varNames, methodNames, outer]

theorem agrees_setScope {t t' : Scope} (linked : (st.setScope i t).Linked)
    (nodup : ∀ k, (t'.own k).Nodup) (vars : t'.vars.Perm t.vars)
    (methods : t'.methods.Perm t.methods) (outer : t'.outer = t.outer) :
    (st.setScope i t).Agrees (st.setScope i t') := by
  have each : ∀ {γ : Type} (part : Scope → γ), part t' = part t →
      ∀ k, part ((st.setScope i t').scope k) = part ((st.setScope i t).scope k) := by
    intro γ part same k
    rw [scope_setScope, scope_setScope]
    split
    · exact same
    · rfl
  have alike : (st.setScope i t).Alike (st.setScope i t') := ⟨each Scope.outer outer, rfl⟩
  refine ⟨fun n p => ?_, fun n p => ?_, each Scope.describe (describe_perm vars methods outer)⟩
  · cases p with
    | scope j =>
      exact resolve_alike linked alike (each _ (lookup_perm vars (nodup .vars) n)) j
    | host h => rfl
  · cases p with
    | scope j =>
      exact resolve_alike linked alike (each _ (lookup_perm methods (nodup .methods) n)) j
    | host h => rfl

/-- The description lists the own names, each once and in the order of their bytes, and they can be
    read from it. -/
def Scope.Listed (s : Scope) : Prop :=
  ∃ vars methods : List String,
    s.describe = "Environment \x7b vars: " ++ quotedList vars ++ ", methods: " ++
      quotedList methods ++ ", outer: " ++ booleanText s.outer.isSome ++ " \x7d" ∧
    readDescription s.describe = some (vars, methods, s.outer.isSome) ∧
    (vars.Pairwise fun a b => utf8Bytes a < utf8Bytes b) ∧
    (methods.Pairwise fun a b => utf8Bytes a < utf8Bytes b) ∧
    (∀ n, n ∈ vars ↔ n ∈ s.own .vars) ∧ ∀ n, n ∈ methods ↔ n ∈ s.own .methods

theorem listed_of_distinct (distinct : st.Distinct) (j : ScopeId) : (st.scope j).Listed :=
  ⟨sortNames ((st.scope j).own .vars), sortNames ((st.scope j).own .methods), rfl,
    readDescription_describe _, sortNames_sorted (distinct j .vars),
    sortNames_sorted (distinct j .methods),
    fun _ => (sortNames_perm _).mem_iff, fun _ => (sortNames_perm _).mem_iff⟩

theorem linked_setScope (outer : s.outer = (st.scope i).outer) (linked : st.Linked) :
    (st.setScope i s).Linked :=
  linked_alike ⟨setScope_same Scope.outer outer, rfl⟩ linked

theorem agrees_adding {ds es : List Definition} (perm : es.Perm ds) (linked : st.Linked)
    (distinct : st.Distinct) (fresh : Fresh (st.scope i) ds) :
    (st.setScope i ((st.scope i).adding ds)).Agrees (st.setScope i ((st.scope i).adding es)) := by
  refine agrees_setScope (linked_setScope rfl linked) ?_ ?_ ?_ rfl
  · exact fun k => own_nodup (fresh_perm perm fresh) (distinct i k)
  · exact (perm.filterMap _).append_left _
  · exact (perm.filterMap _).append_left _

/-- In a session's store, whatever the steps and at every visit of an evaluation, no scope has a
    name twice, and each is described by its own names in the order of their bytes. There a
    definition succeeds if and only if the scope has no such name of its own, and changes nothing if
    it fails. The builtins are installed up to the first whose name is taken. Definitions of
    different names that are not taken succeed in every order, and the order does not show. -/
theorem definitions_once :
    (∀ steps, (Session.empty.run steps).2.store.Linked ∧
      (Session.empty.run steps).2.store.Distinct) ∧
    ∀ st : Store, st.Linked → st.Distinct →
      (∀ (depth : Nat) (scope : ScopeId) (e : Expr),
        ∀ v ∈ visits (Action.perform (evaluateAt depth)) scope e.code [] st,
          v.before.Linked ∧ v.before.Distinct) ∧
      (∀ j, (st.scope j).Listed) ∧
      ∀ i < st.scopes.length,
        (∀ d : Definition,
          (d.FreeIn (st.scope i) →
            d.perform i st = (.ok (), st.setScope i ((st.scope i).adding [d]))) ∧
          (¬ d.FreeIn (st.scope i) → d.perform i st = (.error d.clash, st))) ∧
        (((∀ b ∈ Builtin.all, b.definition.FreeIn (st.scope i)) ∧ st.install i Builtin.all =
            (.ok (), st.setScope i ((st.scope i).adding (Builtin.all.map Builtin.definition)))) ∨
          ∃ before b after, Builtin.all = before ++ b :: after ∧
            (∀ c ∈ before, c.definition.FreeIn (st.scope i)) ∧
            ¬ b.definition.FreeIn (st.scope i) ∧
            st.install i Builtin.all = (.error (.methodExists b.name),
              st.setScope i ((st.scope i).adding (before.map Builtin.definition)))) ∧
        ∀ ds, Fresh (st.scope i) ds →
          (st.setScope i ((st.scope i).adding ds)).Linked ∧
          (st.setScope i ((st.scope i).adding ds)).Distinct ∧
          ∀ es, es.Perm ds →
            performAll i es st = (.ok (), st.setScope i ((st.scope i).adding es)) ∧
            (st.setScope i ((st.scope i).adding ds)).Agrees
              (st.setScope i ((st.scope i).adding es)) ∧
            ∀ j, ((st.setScope i ((st.scope i).adding es)).scope j).Listed := by
  refine ⟨fun steps => ⟨run_linked steps, run_distinct steps⟩, fun st linked distinct => ?_⟩
  refine ⟨fun depth scope e v visited => ⟨?_, ?_⟩, listed_of_distinct distinct,
    fun i present => ⟨fun d => ⟨perform_free, perform_taken⟩, install_all present, ?_⟩⟩
  · exact linked_widens (visits_widen visited) linked
  · have kept : st.KeepsDistinct v.before :=
      visits_store (r := Store.KeepsDistinct) distinct_of_scopes distinct_defineVar visited
    exact kept distinct
  · intro ds fresh
    refine ⟨linked_setScope rfl linked, distinct_adding fresh distinct, fun es perm => ?_⟩
    have again := fresh_perm perm fresh
    refine ⟨performAll_fresh present again, agrees_adding perm linked distinct fresh, ?_⟩
    exact listed_of_distinct (distinct_adding again distinct)

def assorted : List Definition := [.method "x" (.const .null), .value "y" .null, .lazy "z" .last]

theorem definitions_once_inner : enclosedStore.Linked ∧ enclosedStore.Distinct ∧
    1 < enclosedStore.scopes.length ∧ Fresh (enclosedStore.scope 1) assorted ∧
    (Definition.value "x" .null).perform 1 enclosedStore =
      (.error (.nameExists "x"), enclosedStore) ∧
    (performAll 1 assorted.reverse enclosedStore).1 = .ok () ∧
    (enclosedStore.setScope 1 ((enclosedStore.scope 1).adding assorted)).Agrees
      (enclosedStore.setScope 1 ((enclosedStore.scope 1).adding assorted.reverse)) := by
  obtain ⟨linked, distinct⟩ : enclosedStore.Linked ∧ enclosedStore.Distinct := definitions_once.1
    [.scope "a" .none, .scope "b" (.scope "a"), .define "b" "x" (.plain .null)]
  have present : 1 < enclosedStore.scopes.length := by decide
  have fresh : Fresh (enclosedStore.scope 1) assorted := ⟨by decide, by decide⟩
  obtain ⟨-, -, define⟩ := definitions_once.2 enclosedStore linked distinct
  obtain ⟨single, -, all⟩ := define 1 present
  obtain ⟨done, agrees, -⟩ := (all assorted fresh).2.2 assorted.reverse (List.reverse_perm assorted)
  exact ⟨linked, distinct, present, fresh, (single _).2 (by decide), congrArg Prod.fst done, agrees⟩

end ScopedFormula
