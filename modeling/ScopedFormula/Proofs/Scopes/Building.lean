import ScopedFormula.Proofs.Scopes
import ScopedFormula.Session

/- Describing a value, an action or a host context makes new scopes, and leaves those that there
   were alone. -/
namespace ScopedFormula

variable {r : Store → Store → Prop} [IsPreorder Store r] {st st' : Store} {i j : ScopeId}
variable {α : Type}

theorem defineVars_store (each : ∀ n v st st', st.defineVar i n (.value v) = .ok st' → r st st')
    (bs : List (String × Value)) (st : Store) : r st (defineVars i bs st).2 := by
  induction bs generalizing st with
  | nil => exact refl_of r st
  | cons b bs ih => exact bind_store (update_store (each _ _ st)) fun _ st' _ => ih st'

theorem defineMethods_store (each : ∀ n a st st', st.defineMethod i n a = .ok st' → r st st')
    (ms : List (String × Action)) (st : Store) : r st (defineMethods i ms st).2 := by
  induction ms generalizing st with
  | nil => exact refl_of r st
  | cons m ms ih => exact bind_store (update_store (each _ _ st)) fun _ st' _ => ih st'

def newContext (bs : List (String × Value)) (ms : List (String × Action)) : Effect Value := do
  let i ← Effect.allocate (·.addScope none)
  defineVars i bs
  defineMethods i ms
  return .context i

/-- Once the scope is there, only this scope is given names. -/
theorem newContext_store
    (vars : ∀ n v st₁ st₂, st₁.defineVar st.scopes.length n (.value v) = .ok st₂ → r st₁ st₂)
    (methods : ∀ n a st₁ st₂, st₁.defineMethod st.scopes.length n a = .ok st₂ → r st₁ st₂)
    (bs : List (String × Value)) (ms : List (String × Action)) :
    r (st.addScope none).2 (newContext bs ms st).2 := by
  refine bind_store (defineVars_store vars bs (st.addScope none).2) fun _ st₁ _ => ?_
  exact bind_store (defineMethods_store methods ms st₁) fun _ st₂ _ => refl_of r st₂

theorem context_keeps (bs : List (String × Value)) (ms : List (String × Action)) (st : Store) :
    st.Keeps (newContext bs ms st).2 := by
  apply keeps_addScope
  · exact newContext_store (fun _ _ _ _ => widens_defineVar) (fun _ _ _ _ => widens_defineMethod)
      bs ms
  · intro j old
    have other : st.scopes.length ≠ j := Nat.ne_of_gt old
    exact newContext_store (fun _ _ _ _ => spares_defineVar other)
      (fun _ _ _ _ => spares_defineMethod other) bs ms

theorem names_store {ns : Names} {id : String} {k : ScopeId → Effect α}
    (rest : ∀ i, ns.scopes.lookup id = some i → r st (k i st).2) :
    r st ((ns.scope id >>= k) st).2 := by
  refine bind_store ?_ fun i st' found => ?_
  · exact (orFail_store _ _ st).symm ▸ refl_of r st
  · obtain ⟨known, rfl⟩ := orFail_eq_ok.mp found
    exact rest i known

structure Builds (r : Store → Store → Prop) : Prop where
  same : ∀ {st st'}, st'.scopes = st.scopes → r st st'
  context : ∀ bs ms st, r st (newContext bs ms st).2

omit [IsPreorder Store r] in
theorem builds_of_keeps (h : ∀ {st st'}, st.Keeps st' → r st st') : Builds r :=
  ⟨fun same => h (keeps_of_scopes same), fun bs ms st => h (context_keeps bs ms st)⟩

mutual
theorem value_store (builds : Builds r) (ns : Names) :
    ∀ (v : ValueForm) (st : Store), r st (v.build ns st).2
  | .plain _, st => refl_of r st
  | .context vars methods, st => by
    rw [ValueForm.build]
    refine bind_store (values_store builds ns vars st) fun bs st₁ _ => ?_
    exact bind_store (actions_store builds ns methods st₁) fun ms st₂ _ => builds.context bs ms st₂
  | .scope id, st => by
    rw [ValueForm.build]
    exact names_store fun _ _ => refl_of r st
  | .saved name, st => (orFail_store _ _ st).symm ▸ refl_of r st
  | .custom _ _ _ _ _ _ _ none, st => builds.same rfl
  | .custom _ _ _ _ _ _ _ (some members), st => by
    rw [ValueForm.build]
    exact bind_store (host_store builds ns members st) fun h st' _ => builds.same rfl

theorem action_store (builds : Builds r) (ns : Names) :
    ∀ (a : ActionForm) (st : Store), r st (a.build ns st).2
  | .plain _, st => refl_of r st
  | .const v, st => by
    rw [ActionForm.build]
    exact bind_store (value_store builds ns v st) fun _ st' _ => refl_of r st'
  | .tick, st => builds.same rfl
  | .define id, st => by
    rw [ActionForm.build]
    exact names_store fun _ _ => refl_of r st
  | .evaluate id, st => by
    rw [ActionForm.build]
    exact names_store fun _ _ => refl_of r st

theorem host_store (builds : Builds r) (ns : Names) :
    ∀ (h : HostForm) (st : Store), r st (h.build ns st).2
  | .mk vars lazies methods, st => by
    rw [HostForm.build]
    refine bind_store (values_store builds ns vars st) fun _ st₁ _ => ?_
    refine bind_store (actions_store builds ns lazies st₁) fun _ st₂ _ => ?_
    exact bind_store (actions_store builds ns methods st₂) fun _ st₃ _ => builds.same rfl

theorem values_store (builds : Builds r) (ns : Names) :
    ∀ (vs : List (String × ValueForm)) (st : Store), r st (buildValues ns vs st).2
  | [], st => refl_of r st
  | (_, v) :: vs, st => by
    rw [buildValues]
    refine bind_store (value_store builds ns v st) fun _ st₁ _ => ?_
    exact bind_store (values_store builds ns vs st₁) fun _ st₂ _ => refl_of r st₂

theorem actions_store (builds : Builds r) (ns : Names) :
    ∀ (as : List (String × ActionForm)) (st : Store), r st (buildActions ns as st).2
  | [], st => refl_of r st
  | (_, a) :: as, st => by
    rw [buildActions]
    refine bind_store (action_store builds ns a st) fun _ st₁ _ => ?_
    exact bind_store (actions_store builds ns as st₁) fun _ st₂ _ => refl_of r st₂
end

theorem args_store (builds : Builds r) (ns : Names) (fs : List ValueForm) (st : Store) :
    r st (buildArgs ns fs st).2 := by
  induction fs generalizing st with
  | nil => exact refl_of r st
  | cons f fs ih =>
    refine bind_store (value_store builds ns f st) fun _ st₁ _ => ?_
    exact bind_store (ih st₁) fun _ st₂ _ => refl_of r st₂

theorem enclosure_store (builds : Builds r) (ns : Names) (outer : Enclosure) (st : Store) :
    r st (enclosure ns outer st).2 := by
  cases outer with
  | none => exact refl_of r st
  | scope id => exact names_store fun _ _ => refl_of r st
  | host h => exact bind_store (host_store builds ns h st) fun _ st' _ => refl_of r st'

theorem enclosure_keeps (ns : Names) (outer : Enclosure) (st : Store) :
    st.Keeps (enclosure ns outer st).2 :=
  enclosure_store (builds_of_keeps id) ns outer st

theorem enclosure_known {ns : Names} {outer : Enclosure}
    (built : enclosure ns outer st = (.ok (some (.scope j)), st')) :
    ∃ id, ns.scopes.lookup id = some j := by
  cases outer with
  | none => cases built
  | scope id =>
    obtain ⟨i, st₁, found, last⟩ := Effect.bind_eq_ok.mp built
    cases last
    exact ⟨id, (orFail_eq_ok.mp found).1⟩
  | host h =>
    obtain ⟨i, st₁, -, last⟩ := Effect.bind_eq_ok.mp built
    cases last

end ScopedFormula
