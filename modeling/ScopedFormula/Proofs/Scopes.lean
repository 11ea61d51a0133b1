import Mathlib.Order.Defs.Unbundled
import ScopedFormula.Effect

/- What a computation may do to the scopes of a store: define names in them, or add new ones. -/
namespace ScopedFormula

variable {st st' : Store} {i j : ScopeId} {n : String} {s : Scope} {α β : Type}

theorem scope_setScope (st : Store) (i j : ScopeId) (s : Scope) : (st.setScope i s).scope j =
    if i = j ∧ i < st.scopes.length then s else st.scope j := by
  rw [Store.scope, Store.setScope, List.getElem?_set]
  by_cases same : i = j
  · by_cases present : i < st.scopes.length
    · simp [same ▸ present, same]
    · have absent : ¬ j < st.scopes.length := same ▸ present
      simp [Store.scope, same, absent]
  · simp [Store.scope, same]

theorem scope_of_ge (absent : st.scopes.length ≤ i) : st.scope i = ⟨[], [], none⟩ := by
  simp [Store.scope, List.getElem?_eq_none absent]

theorem scope_addScope (st : Store) (outer : Option Place) (i : ScopeId) :
    (st.addScope outer).2.scope i =
      if i = st.scopes.length then ⟨[], [], outer⟩ else st.scope i := by
  rw [Store.scope, Store.addScope]
  rcases Nat.lt_trichotomy i st.scopes.length with old | rfl | absent
  · simp [Store.scope, List.getElem?_append_left old, Nat.ne_of_lt old]
  · simp
  · have long : (st.scopes ++ [(⟨[], [], outer⟩ : Scope)]).length ≤ i := by
      rw [List.length_append]
      exact absent
    rw [if_neg (Nat.ne_of_gt absent), scope_of_ge (Nat.le_of_lt absent),
      List.getElem?_eq_none long]
    rfl

theorem defineVar_eq_ok {b : Binding} : st.defineVar i n b = .ok st' ↔
    (st.scope i).vars.lookup n = none ∧
      st' = st.setScope i { st.scope i with vars := (st.scope i).vars ++ [(n, b)] } := by
  rw [Store.defineVar]
  cases (st.scope i).vars.lookup n <;> simp [eq_comm]

theorem defineMethod_eq_ok {a : Action} : st.defineMethod i n a = .ok st' ↔
    (st.scope i).methods.lookup n = none ∧
      st' = st.setScope i { st.scope i with methods := (st.scope i).methods ++ [(n, a)] } := by
  rw [Store.defineMethod]
  cases (st.scope i).methods.lookup n <;> simp [eq_comm]

structure Scope.Extends (s s' : Scope) : Prop where
  vars : s.vars <+: s'.vars
  methods : s.methods <+: s'.methods
  outer : s'.outer = s.outer

theorem extends_refl (s : Scope) : s.Extends s :=
  ⟨List.prefix_rfl, List.prefix_rfl, rfl⟩

theorem extends_trans {s t u : Scope} (first : s.Extends t) (second : t.Extends u) :
    s.Extends u :=
  ⟨first.vars.trans second.vars, first.methods.trans second.methods,
    second.outer.trans first.outer⟩

theorem lookup_of_prefix {xs ys : List (String × β)} {b : β} (h : xs <+: ys)
    (bound : xs.lookup n = some b) : ys.lookup n = some b := by
  obtain ⟨zs, rfl⟩ := h
  rw [List.lookup_append, bound]
  rfl

structure Store.Widens (st st' : Store) : Prop where
  count : st'.scopes.length = st.scopes.length
  own : ∀ i, (st.scope i).Extends (st'.scope i)

instance : IsPreorder Store Store.Widens where
  refl st := ⟨rfl, fun i => extends_refl (st.scope i)⟩
  trans _ _ _ first second :=
    ⟨second.count.trans first.count, fun i => extends_trans (first.own i) (second.own i)⟩

theorem widens_setScope (h : (st.scope i).Extends s) : st.Widens (st.setScope i s) := by
  refine ⟨List.length_set, fun j => ?_⟩
  rw [scope_setScope]
  split
  · rename_i here
    exact here.1 ▸ h
  · exact extends_refl _

theorem widens_defineVar {b : Binding} (h : st.defineVar i n b = .ok st') : st.Widens st' := by
  obtain ⟨-, rfl⟩ := defineVar_eq_ok.mp h
  exact widens_setScope ⟨List.prefix_append _ _, List.prefix_rfl, rfl⟩

theorem widens_defineMethod {a : Action} (h : st.defineMethod i n a = .ok st') :
    st.Widens st' := by
  obtain ⟨-, rfl⟩ := defineMethod_eq_ok.mp h
  exact widens_setScope ⟨List.prefix_rfl, List.prefix_append _ _, rfl⟩

theorem widens_of_scopes (same : st'.scopes = st.scopes) : st.Widens st' := by
  refine ⟨congrArg _ same, fun i => ?_⟩
  rw [Store.scope, Store.scope, same]
  exact extends_refl _

/-- The scopes that there were are as they were; a new one stands alone. -/
structure Store.Keeps (st st' : Store) : Prop where
  count : st.scopes.length ≤ st'.scopes.length
  old : ∀ i < st.scopes.length, st'.scope i = st.scope i
  alone : ∀ i, st.scopes.length ≤ i → (st'.scope i).outer = none

instance : IsPreorder Store Store.Keeps where
  refl st := ⟨Nat.le_refl _, fun _ _ => rfl, fun i absent => by rw [scope_of_ge absent]⟩
  trans st st₁ st₂ first second := by
    refine ⟨Nat.le_trans first.count second.count, fun i old => ?_, fun i absent => ?_⟩
    · exact (second.old i (Nat.lt_of_lt_of_le old first.count)).trans (first.old i old)
    · rcases Nat.lt_or_ge i st₁.scopes.length with old | new
      · rw [second.old i old]
        exact first.alone i absent
      · exact second.alone i new

theorem keeps_of_scopes (same : st'.scopes = st.scopes) : st.Keeps st' := by
  have equal : ∀ i, st'.scope i = st.scope i := fun i => by rw [Store.scope, Store.scope, same]
  refine ⟨Nat.le_of_eq (congrArg _ same.symm), fun i _ => equal i, fun i absent => ?_⟩
  rw [equal, scope_of_ge absent]

def Store.Spares (i : ScopeId) (st st' : Store) : Prop :=
  i < st.scopes.length → i < st'.scopes.length ∧ st'.scope i = st.scope i

instance : IsPreorder Store (Store.Spares i) where
  refl _ present := ⟨present, rfl⟩
  trans _ _ _ first second present := by
    obtain ⟨still, equal⟩ := first present
    obtain ⟨last, same⟩ := second still
    exact ⟨last, same.trans equal⟩

theorem spares_of_keeps (h : st.Keeps st') : st.Spares i st' :=
  fun present => ⟨Nat.lt_of_lt_of_le present h.count, h.old i present⟩

theorem spares_of_scopes (same : st'.scopes = st.scopes) : st.Spares i st' :=
  spares_of_keeps (keeps_of_scopes same)

theorem spares_addScope {outer : Option Place} : st.Spares i (st.addScope outer).2 := by
  intro present
  constructor
  · rw [Store.addScope, List.length_append]
    exact Nat.lt_succ_of_lt present
  · rw [scope_addScope, if_neg (Nat.ne_of_lt present)]

theorem spares_setScope (other : j ≠ i) : st.Spares i (st.setScope j s) := by
  intro present
  constructor
  · rwa [Store.setScope, List.length_set]
  · rw [scope_setScope, if_neg fun same => other same.1]

theorem spares_defineVar {b : Binding} (other : j ≠ i) (h : st.defineVar j n b = .ok st') :
    st.Spares i st' := by
  obtain ⟨-, rfl⟩ := defineVar_eq_ok.mp h
  exact spares_setScope other

theorem spares_defineMethod {a : Action} (other : j ≠ i) (h : st.defineMethod j n a = .ok st') :
    st.Spares i st' := by
  obtain ⟨-, rfl⟩ := defineMethod_eq_ok.mp h
  exact spares_setScope other

theorem keeps_addScope {st₁ : Store} (added : (st.addScope none).2.Widens st₁)
    (others : ∀ j < st.scopes.length, (st.addScope none).2.Spares j st₁) : st.Keeps st₁ := by
  have count : st₁.scopes.length = st.scopes.length + 1 := by
    rw [added.count, Store.addScope, List.length_append]
    rfl
  refine ⟨by omega, fun i old => ?_, fun i absent => ?_⟩
  · obtain ⟨present, equal⟩ := (spares_addScope old : i < _ ∧ _)
    exact (others i old present).2.trans equal
  · rw [(added.own i).outer, scope_addScope]
    split
    · rfl
    · rw [scope_of_ge absent]

/-- Every scope is enclosed by older ones. -/
def Store.Linked (st : Store) : Prop := ∀ i p, (st.scope i).outer = some (.scope p) → p < i

theorem linked_widens (h : st.Widens st') (linked : st.Linked) : st'.Linked :=
  fun i p outer => linked i p ((h.own i).outer ▸ outer)

theorem linked_keeps (h : st.Keeps st') (linked : st.Linked) : st'.Linked := by
  intro i p outer
  rcases Nat.lt_or_ge i st.scopes.length with old | new
  · exact linked i p (h.old i old ▸ outer)
  · rw [h.alone i new] at outer
    contradiction

theorem linked_addScope {outer : Option Place} (linked : st.Linked)
    (old : ∀ j, outer = some (.scope j) → j < st.scopes.length) :
    (st.addScope outer).2.Linked := by
  intro i p inside
  rw [scope_addScope] at inside
  split at inside
  · rename_i new
    exact new ▸ old p inside
  · exact linked i p inside

structure Store.Grows (st st' : Store) : Prop where
  count : st.scopes.length ≤ st'.scopes.length
  own : ∀ i < st.scopes.length, (st.scope i).Extends (st'.scope i)

instance : IsPreorder Store Store.Grows where
  refl st := ⟨Nat.le_refl _, fun i _ => extends_refl (st.scope i)⟩
  trans _ _ _ first second := ⟨Nat.le_trans first.count second.count,
    fun i old => extends_trans (first.own i old)
      (second.own i (Nat.lt_of_lt_of_le old first.count))⟩

theorem grows_of_widens (h : st.Widens st') : st.Grows st' :=
  ⟨Nat.le_of_eq h.count.symm, fun i _ => h.own i⟩

theorem grows_of_keeps (h : st.Keeps st') : st.Grows st' :=
  ⟨h.count, fun i old => h.old i old ▸ extends_refl _⟩

theorem grows_addScope {outer : Option Place} : st.Grows (st.addScope outer).2 := by
  constructor
  · rw [Store.addScope, List.length_append]
    exact Nat.le_succ _
  · intro i old
    rw [(spares_addScope old).2]
    exact extends_refl _

variable {r : Store → Store → Prop} [IsPreorder Store r] {x : Effect α} {f : α → Effect β}

theorem bind_store (first : r st (x st).2)
    (rest : ∀ a st', x st = (.ok a, st') → r st' (f a st').2) : r st ((x >>= f) st).2 := by
  rcases h : x st with ⟨e | a, st'⟩
  · rw [Effect.bind_of_error h]
    rwa [h] at first
  · rw [Effect.bind_of_ok h]
    rw [h] at first
    exact trans_of r first (rest a st' h)

theorem orFail_store (o : Option α) (e : Failure) (st : Store) : (Effect.orFail o e st).2 = st := by
  cases o <;> rfl

theorem orFail_eq_ok {o : Option α} {e : Failure} {a : α} :
    Effect.orFail o e st = (.ok a, st') ↔ o = some a ∧ st' = st := by
  cases o <;> simp [Effect.orFail, Effect.pure, Effect.fail, eq_comm]

theorem update_store {g : Store → Except Failure Store} (h : ∀ st', g st = .ok st' → r st st') :
    r st (Effect.update g st).2 := by
  rw [Effect.update]
  rcases result : g st with e | st'
  · exact refl_of r st
  · exact h st' result

end ScopedFormula
