import ScopedFormula.Proofs.Scopes

/- The scopes around a scope. Links lead to older scopes, so a walk outward comes to an end, and
   looking up a name is to take the first scope of the walk that has it. -/
namespace ScopedFormula

variable {st st' : Store} {i j p : ScopeId} {ids ids' : List ScopeId} {h h' : Option HostId}
variable {n m : String} {β : Type} {own : Scope → Option β} {hosted : Host → Option β}

def Store.Encloses (st : Store) (i j : ScopeId) : Prop := (st.scope j).outer = some (.scope i)

theorem encloses_wellFounded (linked : st.Linked) : WellFounded st.Encloses :=
  Subrelation.wf (fun inside => linked _ _ inside) Nat.lt_wfRel.wf

/-- From a scope outward: the scopes in order, and the host context that encloses the last. -/
inductive Store.Outward (st : Store) : ScopeId → List ScopeId → Option HostId → Prop where
  | free {i : ScopeId} (outer : (st.scope i).outer = none) : st.Outward i [i] none
  | hosted {i : ScopeId} {h : HostId} (outer : (st.scope i).outer = some (.host h)) :
      st.Outward i [i] (some h)
  | enclosed {i p : ScopeId} {ids : List ScopeId} {h : Option HostId} (inside : st.Encloses p i)
      (rest : st.Outward p ids h) : st.Outward i (i :: ids) h

theorem exists_outward (linked : st.Linked) (i : ScopeId) : ∃ ids h, st.Outward i ids h := by
  induction i using (encloses_wellFounded linked).induction with
  | _ i ih =>
    rcases outer : (st.scope i).outer with _ | p | h
    · exact ⟨[i], none, .free outer⟩
    · obtain ⟨ids, h, rest⟩ := ih p outer
      exact ⟨i :: ids, h, .enclosed outer rest⟩
    · exact ⟨[i], some h, .hosted outer⟩

theorem outward_unique (first : st.Outward i ids h) (second : st.Outward i ids' h') :
    ids' = ids ∧ h' = h := by
  induction first generalizing ids' h' with
  | free outer =>
    cases second with
    | free => exact ⟨rfl, rfl⟩
    | hosted outer' => cases outer.symm.trans outer'
    | enclosed inside => cases outer.symm.trans inside
  | hosted outer =>
    cases second with
    | free outer' => cases outer.symm.trans outer'
    | hosted outer' =>
      cases outer.symm.trans outer'
      exact ⟨rfl, rfl⟩
    | enclosed inside => cases outer.symm.trans inside
  | enclosed inside _ ih =>
    cases second with
    | free outer' => cases inside.symm.trans outer'
    | hosted outer' => cases inside.symm.trans outer'
    | enclosed inside' rest =>
      cases inside.symm.trans inside'
      obtain ⟨rfl, rfl⟩ := ih rest
      exact ⟨rfl, rfl⟩

theorem outward_le (linked : st.Linked) (chain : st.Outward i ids h) : ∀ j ∈ ids, j ≤ i := by
  induction chain with
  | free | hosted =>
    intro j mem
    exact Nat.le_of_eq (List.mem_singleton.mp mem)
  | enclosed inside _ ih =>
    intro j mem
    rcases List.mem_cons.mp mem with rfl | further
    · exact Nat.le_refl j
    · exact Nat.le_trans (ih j further) (Nat.le_of_lt (linked _ _ inside))

theorem outward_nodup (linked : st.Linked) (chain : st.Outward i ids h) : ids.Nodup := by
  induction chain with
  | free | hosted => exact List.pairwise_singleton _ _
  | enclosed inside rest ih =>
    refine List.nodup_cons.mpr ⟨fun again => ?_, ih⟩
    exact Nat.not_le_of_lt (linked _ _ inside) (outward_le linked rest _ again)

/-- The first scope of the chain that has the name decides, and after all of them the host. -/
theorem resolve_outward (linked : st.Linked) (chain : st.Outward i ids h) :
    st.resolve own hosted i =
      (ids.findSome? fun j => own (st.scope j)).or (h.bind fun h => hosted (st.host h)) := by
  induction chain with
  | @free i outer =>
    rw [Store.resolve, outer, List.findSome?_singleton]
    cases own (st.scope i) <;> rfl
  | @hosted i h outer =>
    rw [Store.resolve, outer, List.findSome?_singleton]
    cases own (st.scope i) <;> rfl
  | @enclosed i p ids h inside rest ih =>
    rw [Store.resolve, List.findSome?_cons, (inside : (st.scope i).outer = _)]
    cases own (st.scope i)
    · rw [← ih]
      exact if_pos (linked i p inside)
    · rfl

/-- The scope i lies outward from j, and no scope before it has the name. -/
def Store.Sees (st : Store) (own : Scope → Option β) (j i : ScopeId) : Prop :=
  ∃ before after h, st.Outward j (before ++ i :: after) h ∧
    ∀ k ∈ before, own (st.scope k) = none

structure Store.Alike (st st' : Store) : Prop where
  outer : ∀ i, (st'.scope i).outer = (st.scope i).outer
  hosts : st'.hosts = st.hosts

theorem outward_alike (alike : st.Alike st') (chain : st.Outward i ids h) :
    st'.Outward i ids h := by
  induction chain with
  | free outer => exact .free ((alike.outer _).trans outer)
  | hosted outer => exact .hosted ((alike.outer _).trans outer)
  | enclosed inside _ ih => exact .enclosed ((alike.outer _).trans inside) ih

theorem linked_alike (alike : st.Alike st') (linked : st.Linked) : st'.Linked :=
  fun i p inside => linked i p ((alike.outer i).symm.trans inside)

theorem host_alike (alike : st.Alike st') (h : HostId) : st'.host h = st.host h := by
  rw [Store.host, Store.host, alike.hosts]

theorem resolve_alike (linked : st.Linked) (alike : st.Alike st')
    (same : ∀ k, own (st'.scope k) = own (st.scope k)) (j : ScopeId) :
    st'.resolve own hosted j = st.resolve own hosted j := by
  obtain ⟨ids, h, chain⟩ := exists_outward linked j
  rw [resolve_outward linked chain,
    resolve_outward (linked_alike alike linked) (outward_alike alike chain)]
  simp only [same, host_alike alike]

section
variable {f g : ScopeId → Option β} {b : β} (here : g i = some b)
variable (elsewhere : ∀ k, k ≠ i → g k = f k)
include here elsewhere

theorem findSome?_seen {before : List ScopeId} (after : List ScopeId)
    (clear : ∀ k ∈ before, f k = none) : (before ++ i :: after).findSome? g = some b := by
  induction before with
  | nil => rw [List.nil_append, List.findSome?_cons, here]
  | cons k before ih =>
    rw [List.cons_append, List.findSome?_cons]
    by_cases same : k = i
    · rw [same, here]
    · rw [elsewhere k same, clear k List.mem_cons_self]
      exact ih fun l later => clear l (List.mem_cons_of_mem k later)

theorem findSome?_hidden (hidden : ∀ before after, ids = before ++ i :: after →
    ¬ ∀ k ∈ before, f k = none) : ids.findSome? g = ids.findSome? f := by
  induction ids with
  | nil => rfl
  | cons k ids ih =>
    have other : k ≠ i := by
      rintro rfl
      exact hidden [] ids rfl fun _ none => nomatch none
    rw [List.findSome?_cons, List.findSome?_cons, elsewhere k other]
    rcases bound : f k with _ | c
    · refine ih fun before after split clear => ?_
      refine hidden (k :: before) after (congrArg _ split) fun l mem => ?_
      rcases List.mem_cons.mp mem with rfl | later
      · exact bound
      · exact clear l later
    · rfl
end

theorem resolve_defined {b : β} (hosted : Host → Option β) (linked : st.Linked)
    (alike : st.Alike st')
    (here : own (st'.scope i) = some b)
    (elsewhere : ∀ k, k ≠ i → own (st'.scope k) = own (st.scope k)) (j : ScopeId) :
    (st.Sees own j i → st'.resolve own hosted j = some b) ∧
      (¬ st.Sees own j i → st'.resolve own hosted j = st.resolve own hosted j) := by
  obtain ⟨ids, h, chain⟩ := exists_outward linked j
  rw [resolve_outward linked chain,
    resolve_outward (linked_alike alike linked) (outward_alike alike chain)]
  constructor
  · rintro ⟨before, after, h', split, clear⟩
    obtain ⟨rfl, -⟩ := outward_unique chain split
    rw [findSome?_seen (g := fun k => own (st'.scope k)) here elsewhere after clear]
    rfl
  · intro hidden
    simp only [host_alike alike]
    rw [findSome?_hidden (g := fun k => own (st'.scope k)) here elsewhere]
    rintro before after rfl clear
    exact hidden ⟨before, after, h, chain, clear⟩

structure Store.Binds (own : String → Scope → Option β) (i : ScopeId) (n : String) (b : β)
    (st st' : Store) : Prop where
  alike : st.Alike st'
  here : own n (st'.scope i) = some b
  elsewhere : ∀ k, k ≠ i → own n (st'.scope k) = own n (st.scope k)
  others : ∀ m, m ≠ n → ∀ k, own m (st'.scope k) = own m (st.scope k)

/-- From where the name is seen it means b; any other lookup is as before. -/
def Reveals (before after : String → Place → Option β) (n : String) (b : β)
    (seen : ScopeId → Prop) : Prop :=
  ∀ m j, (m = n ∧ seen j → after m (.scope j) = some b) ∧
    (¬ (m = n ∧ seen j) → after m (.scope j) = before m (.scope j))

variable {own : String → Scope → Option β} {hosted : String → Host → Option β} {b : β}

theorem resolve_binds (linked : st.Linked) (binds : st.Binds own i n b st') (m : String)
    (j : ScopeId) :
    (m = n ∧ st.Sees (own n) j i → st'.resolve (own m) (hosted m) j = some b) ∧
      (¬ (m = n ∧ st.Sees (own n) j i) →
        st'.resolve (own m) (hosted m) j = st.resolve (own m) (hosted m) j) := by
  by_cases same : m = n
  · subst same
    obtain ⟨seen, hidden⟩ :=
      resolve_defined (hosted m) linked binds.alike binds.here binds.elsewhere j
    exact ⟨fun h => seen h.2, fun h => hidden fun sees => h ⟨rfl, sees⟩⟩
  · refine ⟨fun h => absurd h.1 same, fun _ => ?_⟩
    exact resolve_alike linked binds.alike (binds.others m same) j

theorem lookup_snoc_self {bs : List (String × β)} (fresh : bs.lookup n = none) :
    (bs ++ [(n, b)]).lookup n = some b := by
  rw [List.lookup_append, fresh]
  simp

theorem lookup_snoc_other {bs : List (String × β)} (other : m ≠ n) :
    (bs ++ [(n, b)]).lookup m = bs.lookup m := by
  have apart : (m == n) = false := beq_false_of_ne other
  rw [List.lookup_append, List.lookup_cons, apart]
  exact Option.or_none

theorem setScope_same {γ : Type} (part : Scope → γ) {t : Scope}
    (same : part t = part (st.scope i)) (k : ScopeId) :
    part ((st.setScope i t).scope k) = part (st.scope k) := by
  rw [scope_setScope]
  split
  · rename_i here
    rw [same, here.1]
  · rfl

theorem binds_setScope {t : Scope} (present : i < st.scopes.length)
    (same : t.outer = (st.scope i).outer) (here : own n t = some b)
    (others : ∀ m, m ≠ n → own m t = own m (st.scope i)) :
    st.Binds own i n b (st.setScope i t) := by
  refine ⟨⟨setScope_same Scope.outer same, rfl⟩, ?_, fun k other => ?_, fun m other => ?_⟩
  · rw [scope_setScope, if_pos ⟨rfl, present⟩, here]
  · rw [scope_setScope, if_neg fun h => other h.1.symm]
  · exact setScope_same (own m) (others m other)

theorem binds_defineVar {b : Binding} (present : i < st.scopes.length)
    (defined : st.defineVar i n b = .ok st') : st.Binds (fun m t => t.vars.lookup m) i n b st' := by
  obtain ⟨fresh, rfl⟩ := defineVar_eq_ok.mp defined
  exact binds_setScope present rfl (lookup_snoc_self fresh) fun _ => lookup_snoc_other

theorem binds_defineMethod {a : Action} (present : i < st.scopes.length)
    (defined : st.defineMethod i n a = .ok st') :
    st.Binds (fun m t => t.methods.lookup m) i n a st' := by
  obtain ⟨fresh, rfl⟩ := defineMethod_eq_ok.mp defined
  exact binds_setScope present rfl (lookup_snoc_self fresh) fun _ => lookup_snoc_other

theorem methods_defineVar {b : Binding} (defined : st.defineVar i n b = .ok st') (k : ScopeId) :
    (st'.scope k).methods = (st.scope k).methods := by
  obtain ⟨-, rfl⟩ := defineVar_eq_ok.mp defined
  apply setScope_same Scope.methods
  rfl

theorem vars_defineMethod {a : Action} (defined : st.defineMethod i n a = .ok st')
    (k : ScopeId) : (st'.scope k).vars = (st.scope k).vars := by
  obtain ⟨-, rfl⟩ := defineMethod_eq_ok.mp defined
  apply setScope_same Scope.vars
  rfl

end ScopedFormula
