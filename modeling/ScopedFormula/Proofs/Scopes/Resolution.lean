import ScopedFormula.Proofs.Scopes.Chain
import ScopedFormula.Proofs.Scopes.Growth

/- Names in the sessions that a host can reach. The scopes that a host has a name for exist, so a
   new scope is enclosed by an older one, and no later step can change that. -/
namespace ScopedFormula

variable {s : Session} {st : Store} {α : Type}

def Store.KeepsLinks (st st' : Store) : Prop := st.Linked → st'.Linked

instance : IsPreorder Store Store.KeepsLinks where
  refl _ linked := linked
  trans _ _ _ first second linked := second (first linked)

structure Session.Sound (s : Session) : Prop where
  linked : s.store.Linked
  known : ∀ id i, s.scopes.lookup id = some i → i < s.store.scopes.length

theorem step_linked (sound : s.Sound) (x : Step) : (s.step x).2.store.Linked := by
  have links : s.store.KeepsLinks (s.step x).2.store := by
    apply step_store
    · exact builds_of_keeps linked_keeps
    · intro st outer kept named linked
      refine linked_addScope linked fun j enclosed => ?_
      obtain ⟨id, found⟩ := named j enclosed
      exact Nat.lt_of_lt_of_le (sound.known id j found) kept.count
    · intro i n b st st' _ defined
      exact linked_widens (widens_defineVar defined)
    · intro i n a st st' _ defined
      exact linked_widens (widens_defineMethod defined)
    · intro a args st _
      exact linked_widens (perform_widens reentryLimit a args st)
  exact links sound.linked

theorem performed_scopes {x : Effect α} {after : Session → α → Reply × Session}
    (stays : ∀ s a, (after s a).2.scopes = s.scopes) :
    (s.perform x after).2.scopes = s.scopes := by
  rw [Session.perform]
  rcases x s.store with ⟨f | a, st⟩
  · rfl
  · exact stays _ a

theorem step_scopes (s : Session) (x : Step) : (s.step x).2.scopes = s.scopes ∨
    ∃ id i, (s.step x).2.scopes = (id, i) :: s.scopes ∧
      i < (s.step x).2.store.scopes.length := by
  cases x with
  | scope id outer =>
    rw [Session.step, Session.perform]
    rcases made : (enclosure s.names outer >>= fun place =>
      Effect.allocate (·.addScope place)) s.store with ⟨f | i, st⟩
    · exact .inl rfl
    · refine .inr ⟨id, i, rfl, ?_⟩
      obtain ⟨place, st₁, -, last⟩ := Effect.bind_eq_ok.mp made
      cases last
      simp [Store.addScope]
  | eval | evalTree => exact .inl (performed_scopes fun s v => (keep_same s _ v).2)
  | resolve | invoke => exact .inl (performed_scopes fun s o => (answerOption_same _ s o).2)
  | outer => exact .inl (performed_scopes (by rintro _ (_ | ⟨_, _⟩) <;> rfl))
  | log => exact .inl rfl
  | _ => exact .inl (performed_scopes fun _ _ => rfl)

theorem step_sound (sound : s.Sound) (x : Step) : (s.step x).2.Sound := by
  refine ⟨step_linked sound x, fun id j found => ?_⟩
  have old : s.scopes.lookup id = some j → j < (s.step x).2.store.scopes.length :=
    fun known => Nat.lt_of_lt_of_le (sound.known id j known) (step_grows s x).count
  rcases step_scopes s x with same | ⟨new, i, more, made⟩
  · exact old (same ▸ found)
  · rw [more, List.lookup_cons] at found
    split at found
    · cases found
      exact made
    · exact old found

theorem run_sound (sound : s.Sound) (xs : List Step) : (s.run xs).2.Sound := by
  induction xs generalizing s with
  | nil => exact sound
  | cons x xs ih => exact ih (step_sound sound x)

theorem empty_sound : Session.empty.Sound := by
  constructor
  · intro i p inside
    cases inside
  · intro id i found
    cases found

theorem run_linked (steps : List Step) : (Session.empty.run steps).2.store.Linked :=
  (run_sound empty_sound steps).linked

/-- What the names mean in a scope: the nearest scope of its chain that binds one, else the host
    context at the end. -/
structure Store.Nearest (st : Store) (j : ScopeId) (ids : List ScopeId) (h : Option HostId) :
    Prop where
  chain : st.Outward j ids h
  unique : ∀ ids' h', st.Outward j ids' h' → ids' = ids ∧ h' = h
  nodup : ids.Nodup
  binding : ∀ n, st.binding? n (.scope j) =
    (ids.findSome? fun k => (st.scope k).vars.lookup n).or
      (h.bind fun h => (st.host h).vars.lookup n)
  method : ∀ n, st.method? n (.scope j) =
    (ids.findSome? fun k => (st.scope k).methods.lookup n).or
      (h.bind fun h => (st.host h).methods.lookup n)

theorem exists_nearest (linked : st.Linked) (j : ScopeId) : ∃ ids h, st.Nearest j ids h := by
  obtain ⟨ids, h, chain⟩ := exists_outward linked j
  refine ⟨ids, h, chain, fun _ _ => outward_unique chain, outward_nodup linked chain, ?_, ?_⟩
  · exact fun n => resolve_outward linked chain
  · exact fun n => resolve_outward linked chain

/-- In a session's store, whatever the steps and at every visit of an evaluation, the links are
    those of a forest. There a name means what the nearest scope binds it to, and a definition
    shows from the scopes that see it, for its own name and among its own kind. -/
theorem name_resolution :
    (∀ steps, (Session.empty.run steps).2.store.Linked) ∧
    ∀ st : Store, st.Linked →
      WellFounded st.Encloses ∧
      (∀ (depth : Nat) (scope : ScopeId) (e : Expr),
        ∀ v ∈ visits (Action.perform (evaluateAt depth)) scope e.code [] st, v.before.Linked) ∧
      (∀ j, ∃ ids h, st.Nearest j ids h) ∧
      (∀ i n b st', i < st.scopes.length → st.defineVar i n b = .ok st' → st'.Linked ∧
        Reveals st.binding? st'.binding? n b (st.Sees (fun t => t.vars.lookup n) · i) ∧
        ∀ m j, st'.method? m (.scope j) = st.method? m (.scope j)) ∧
      ∀ i n a st', i < st.scopes.length → st.defineMethod i n a = .ok st' → st'.Linked ∧
        Reveals st.method? st'.method? n a (st.Sees (fun t => t.methods.lookup n) · i) ∧
        ∀ m j, st'.binding? m (.scope j) = st.binding? m (.scope j) := by
  refine ⟨run_linked, fun st linked => ⟨encloses_wellFounded linked, ?_, exists_nearest linked,
    ?_, ?_⟩⟩
  · intro depth scope e v visited
    exact linked_widens (visits_widen visited) linked
  · intro i n b st' present defined
    have binds := binds_defineVar present defined
    refine ⟨linked_alike binds.alike linked, resolve_binds linked binds, fun m j => ?_⟩
    exact resolve_alike linked binds.alike (fun k => by rw [methods_defineVar defined k]) j
  · intro i n a st' present defined
    have binds := binds_defineMethod present defined
    refine ⟨linked_alike binds.alike linked, resolve_binds linked binds, fun m j => ?_⟩
    exact resolve_alike linked binds.alike (fun k => by rw [vars_defineMethod defined k]) j

def enclosedStore : Store :=
  ⟨[⟨[], [], none⟩, ⟨[("x", .value .null)], [], some (.scope 0)⟩], [], [], 0, []⟩

def enclosedStoreWidened : Store :=
  ⟨[⟨[("y", .value .null)], [], none⟩, ⟨[("x", .value .null)], [], some (.scope 0)⟩], [], [], 0,
    []⟩

theorem name_resolution_inner : enclosedStore.Linked ∧ 0 < enclosedStore.scopes.length ∧
    enclosedStore.defineVar 0 "y" (.value .null) = .ok enclosedStoreWidened ∧
    enclosedStoreWidened.binding? "y" (.scope 1) = some (.value .null) := by
  have linked : enclosedStore.Linked := name_resolution.1
    [.scope "a" .none, .scope "b" (.scope "a"), .define "b" "x" (.plain .null)]
  have present : 0 < enclosedStore.scopes.length := by decide
  have defined : enclosedStore.defineVar 0 "y" (.value .null) = .ok enclosedStoreWidened := rfl
  have sees : enclosedStore.Sees (fun t => t.vars.lookup "y") 1 0 := by
    refine ⟨[1], [], none, .enclosed rfl (.free rfl), fun k mem => ?_⟩
    obtain rfl := List.mem_singleton.mp mem
    rfl
  obtain ⟨-, -, -, define, -⟩ := name_resolution.2 enclosedStore linked
  exact ⟨linked, present, defined, ((define _ _ _ _ present defined).2.1 "y" 1).1 ⟨rfl, sees⟩⟩

end ScopedFormula
