import ScopedFormula.Proofs.Scopes.Building
import ScopedFormula.Proofs.Scopes.Defining

/- What the steps of a session do to its scopes. A step defines names in the scope that it names,
   or asks for actions that come to define some; nothing else changes a scope that there is. -/
namespace ScopedFormula

variable {r : Store → Store → Prop} [IsPreorder Store r] {s : Session} {x : Step}
variable {st : Store} {i : ScopeId} {a : Action} {args : List Value} {p : Place}
variable {α β : Type}

def Step.DefinesIn (s : Session) (i : ScopeId) : Step → Prop
  | .define id _ _ | .lazy id _ _ | .method id _ _ | .builtins id => s.scopes.lookup id = some i
  | _ => False

/-- The step asks for the action, with these arguments and in this store: at some visit of an
    evaluation, or as what a name is bound to. -/
def Step.Asks (s : Session) (a : Action) (args : List Value) (st : Store) : Step → Prop
  | .eval id source _ | .run id source => ∃ i e v, s.scopes.lookup id = some i ∧
      read source = .ok e ∧ v ∈ visits Action.run i e.code [] s.store ∧
      v.asked = some (a, args) ∧ v.before = st
  | .evalTree id tree _ => ∃ i e v, s.scopes.lookup id = some i ∧
      s.tree tree s.store = (.ok e, s.store) ∧ v ∈ visits Action.run i e.code [] s.store ∧
      v.asked = some (a, args) ∧ v.before = st
  | .resolve id name _ => ∃ i, s.scopes.lookup id = some i ∧
      s.store.binding? name (.scope i) = some (.lazy a) ∧ args = [] ∧ s.store = st
  | .invoke id name fs _ => ∃ i, s.scopes.lookup id = some i ∧
      buildArgs s.names fs s.store = (.ok args, st) ∧ st.method? name (.scope i) = some a
  | .outer id name => ∃ i p, s.scopes.lookup id = some i ∧
      (s.store.scope i).outer = some p ∧ s.store.binding? name p = some (.lazy a) ∧
      args = [] ∧ s.store = st
  | _ => False

/-- Only so can a step change the names of a scope. -/
def Step.Writes (s : Session) (i : ScopeId) (x : Step) : Prop :=
  x.DefinesIn s i ∨ ∃ a args st, x.Asks s a args st ∧ Defines i reentryLimit a args st

theorem performed {x : Effect α} {after : Session → α → Reply × Session}
    (stays : ∀ s a, (after s a).2.store = s.store) :
    (s.perform x after).2.store = (x s.store).2 := by
  rw [Session.perform]
  rcases x s.store with ⟨f | a, st⟩
  · rfl
  · exact stays _ a

theorem keep_same (s : Session) (save : Option String) (v : Value) :
    (s.keep save v).store = s.store ∧ (s.keep save v).scopes = s.scopes := by
  cases save <;> exact ⟨rfl, rfl⟩

theorem answerOption_same (save : Option String) (s : Session) (o : Option Value) :
    (answerOption save s o).2.store = s.store ∧ (answerOption save s o).2.scopes = s.scopes := by
  cases o
  · exact ⟨rfl, rfl⟩
  · exact keep_same s save _

theorem install_store (each : ∀ n a st st', st.defineMethod i n a = .ok st' → r st st')
    (bs : List Builtin) (st : Store) : r st (st.install i bs).2 := by
  induction bs generalizing st with
  | nil => exact refl_of r st
  | cons b bs ih =>
    rw [Store.install]
    rcases defined : st.defineMethod i b.name (.builtin b) with f | st'
    · exact refl_of r st
    · exact trans_of r (each _ _ st st' defined) (ih st')

theorem tree_store (s : Session) (t : TreeForm) (st : Store) : (s.tree t st).2 = st := by
  cases t
  · exact orFail_store _ _ st
  · rfl

theorem map_store (f : α → β) (x : Effect α) (st : Store) : ((f <$> x) st).2 = (x st).2 := by
  change ((x >>= fun a => pure (f a)) st).2 = (x st).2
  rw [Effect.bind_apply]
  rcases x st with ⟨_ | _, _⟩ <;> rfl

theorem readAt_store {name : String}
    (asked : ∀ a, st.binding? name p = some (.lazy a) → r st (a.run [] st).2) :
    r st (readAt name p st).2 := by
  have looked : Effect.read (·.binding? name p) st = (.ok (st.binding? name p), st) := rfl
  rw [readAt, Effect.bind_of_ok looked]
  rcases bound : st.binding? name p with _ | v | a
  · exact refl_of r st
  · exact refl_of r st
  · rw [map_store]
    exact asked a bound

theorem invokeAt_store {name : String}
    (asked : ∀ a, st.method? name p = some a → r st (a.run args st).2) :
    r st (invokeAt name p args st).2 := by
  have looked : Effect.read (·.method? name p) st = (.ok (st.method? name p), st) := rfl
  rw [invokeAt, Effect.bind_of_ok looked]
  rcases found : st.method? name p with _ | a
  · exact refl_of r st
  · rw [map_store]
    exact asked a found

theorem lookOutside_store {name : String} (asked : ∀ p a, (st.scope i).outer = some p →
    st.binding? name p = some (.lazy a) → r st (a.run [] st).2) :
    r st (lookOutside i name st).2 := by
  rw [lookOutside]
  rcases outer : (st.scope i).outer with _ | p
  · exact refl_of r st
  · have left := readAt_store (asked p · outer)
    rcases h : readAt name p st with ⟨_ | _, st'⟩
    · simpa only [h] using left
    · simpa only [h] using left

/-- What a step can do. -/
theorem step_store (s : Session) (x : Step) (builds : Builds r)
    (adds : ∀ {st outer}, s.store.Keeps st →
      (∀ j, outer = some (.scope j) → ∃ id, s.scopes.lookup id = some j) →
      r st (st.addScope outer).2)
    (vars : ∀ i n b st st', x.DefinesIn s i → st.defineVar i n b = .ok st' → r st st')
    (methods : ∀ i n a st st', x.DefinesIn s i → st.defineMethod i n a = .ok st' → r st st')
    (asks : ∀ a args st, x.Asks s a args st → r st (a.run args st).2) :
    r s.store (s.step x).2.store := by
  cases x with
  | scope id outer =>
    rw [Session.step, performed fun _ _ => rfl]
    refine bind_store (enclosure_store builds s.names outer s.store) fun place st built => ?_
    have kept := enclosure_keeps s.names outer s.store
    rw [built] at kept
    refine adds kept fun j enclosed => ?_
    exact enclosure_known (enclosed ▸ built)
  | define scope name v =>
    rw [Session.step, performed fun _ _ => rfl]
    refine names_store fun i known => ?_
    refine bind_store (value_store builds s.names v _) fun w st _ => ?_
    exact update_store fun st' defined => vars i name _ st st' known defined
  | lazy scope name a =>
    rw [Session.step, performed fun _ _ => rfl]
    refine names_store fun i known => ?_
    refine bind_store (action_store builds s.names a _) fun b st _ => ?_
    exact update_store fun st' defined => vars i name _ st st' known defined
  | method scope name a =>
    rw [Session.step, performed fun _ _ => rfl]
    refine names_store fun i known => ?_
    refine bind_store (action_store builds s.names a _) fun b st _ => ?_
    exact update_store fun st' defined => methods i name _ st st' known defined
  | builtins scope =>
    rw [Session.step, performed fun _ _ => rfl]
    refine names_store fun i known => ?_
    exact install_store (fun n a st st' => methods i n a st st' known) _ _
  | eval scope source save =>
    rw [Session.step, performed fun s v => (keep_same s save v).1]
    refine names_store fun i known => lift_store fun e parsed => ?_
    refine evalWith_store fun v visited a args asked => ?_
    exact asks a args _ ⟨i, e, v, known, parsed, visited, asked, rfl⟩
  | parse as source =>
    rw [Session.step, performed fun _ _ => rfl]
    exact refl_of r _
  | evalTree scope tree save =>
    rw [Session.step, performed fun s v => (keep_same s save v).1]
    refine names_store fun i known => bind_store ?_ fun e st found => ?_
    · exact (tree_store s tree s.store).symm ▸ refl_of r _
    · obtain rfl : s.store = st := (tree_store s tree s.store).symm.trans (congrArg Prod.snd found)
      refine evalWith_store fun v visited a args asked => ?_
      exact asks a args _ ⟨i, e, v, known, found, visited, asked, rfl⟩
  | run scope source =>
    rw [Session.step, performed fun _ _ => rfl]
    refine names_store fun i known => lift_store fun e parsed => ?_
    refine evalWith_store fun v visited a args asked => ?_
    exact asks a args _ ⟨i, e, v, known, parsed, visited, asked, rfl⟩
  | resolve scope name save =>
    rw [Session.step, performed fun s o => (answerOption_same save s o).1]
    refine names_store fun i known => readAt_store fun a bound => ?_
    exact asks a [] _ ⟨i, known, bound, rfl, rfl⟩
  | invoke scope name fs save =>
    rw [Session.step, performed fun s o => (answerOption_same save s o).1]
    refine names_store fun i known => ?_
    refine bind_store (args_store builds s.names fs _) fun vs st built => ?_
    exact invokeAt_store fun a found => asks a vs st ⟨i, known, built, found⟩
  | outer scope name =>
    rw [Session.step, performed (by rintro _ (_ | ⟨_, _⟩) <;> rfl)]
    refine names_store fun i known => lookOutside_store fun p a outer bound => ?_
    exact asks a [] _ ⟨i, p, known, outer, bound, rfl, rfl⟩
  | debug scope =>
    rw [Session.step, performed fun _ _ => rfl]
    exact names_store fun _ _ => refl_of r _
  | same left right =>
    rw [Session.step, performed fun _ _ => rfl]
    refine bind_store (value_store builds s.names left _) fun _ st _ => ?_
    exact bind_store (value_store builds s.names right st) fun _ st' _ => refl_of r st'
  | log => exact builds.same rfl

theorem step_grows (s : Session) (x : Step) : s.store.Grows (s.step x).2.store := by
  apply step_store
  · exact builds_of_keeps grows_of_keeps
  · intro st outer _ _
    exact grows_addScope
  · intro i n b st st' _ defined
    exact grows_of_widens (widens_defineVar defined)
  · intro i n a st st' _ defined
    exact grows_of_widens (widens_defineMethod defined)
  · intro a args st _
    exact grows_of_widens (perform_widens reentryLimit a args st)

theorem step_spares (quiet : ¬ x.Writes s i) : s.store.Spares i (s.step x).2.store := by
  apply step_store
  · exact builds_of_keeps spares_of_keeps
  · intro st outer _ _
    exact spares_addScope
  · intro j n b st st' named
    exact spares_defineVar fun same => quiet (.inl (same ▸ named))
  · intro j n a st st' named
    exact spares_defineMethod fun same => quiet (.inl (same ▸ named))
  · intro a args st asked
    exact perform_spares fun defines => quiet (.inr ⟨a, args, st, asked, defines⟩)

theorem run_grows (s : Session) (xs : List Step) : s.store.Grows (s.run xs).2.store := by
  induction xs generalizing s with
  | nil => exact refl_of _ s.store
  | cons x xs ih => exact trans_of _ (step_grows s x) (ih (s.step x).2)

theorem run_snoc (s : Session) (xs : List Step) (x : Step) :
    (s.run (xs ++ [x])).2 = ((s.run xs).2.step x).2 := by
  induction xs generalizing s with
  | nil => rfl
  | cons y ys ih => exact ih (s.step y).2

/-- Whatever the steps, a scope stays where it is, with the surroundings and the names that it has,
    each bound to what it was bound to. Only a step that writes to it gives it more. -/
theorem append_only (s : Session) (steps : List Step) (i : ScopeId)
    (present : i < s.store.scopes.length) :
    i < (s.run steps).2.store.scopes.length ∧
    (s.store.scope i).Extends ((s.run steps).2.store.scope i) ∧
    (∀ n b, (s.store.scope i).vars.lookup n = some b →
      ((s.run steps).2.store.scope i).vars.lookup n = some b) ∧
    (∀ n a, (s.store.scope i).methods.lookup n = some a →
      ((s.run steps).2.store.scope i).methods.lookup n = some a) ∧
    ∀ before x rest, steps = before ++ x :: rest →
      (s.run (before ++ [x])).2.store.scope i ≠ (s.run before).2.store.scope i →
      x.Writes (s.run before).2 i := by
  have grows := run_grows s steps
  have own := grows.own i present
  refine ⟨Nat.lt_of_lt_of_le present grows.count, own, ?_, ?_, ?_⟩
  · intro n b bound
    exact lookup_of_prefix own.vars bound
  · intro n a bound
    exact lookup_of_prefix own.methods bound
  · intro before x rest _ changed
    have still := Nat.lt_of_lt_of_le present (run_grows s before).count
    refine Classical.byContradiction fun quiet => changed ?_
    rw [run_snoc]
    exact (step_spares quiet still).2

def reentrant : Session :=
  ⟨⟨[⟨[("x", .value (.integer 1))], [("d", .define 0), ("f", .evaluate 0)], none⟩], [], [], 0, []⟩,
    [("s", 0)], [], []⟩

theorem append_only_reentrant : 0 < reentrant.store.scopes.length ∧
    ((reentrant.run [.eval "s" "f('d(\"x\", 2)')" none,
      .define "s" "x" (.plain .null)]).2.store.scope 0).vars.lookup "x" =
        some (.value (.integer 1)) := by
  have present : 0 < reentrant.store.scopes.length := by decide
  exact ⟨present, (append_only reentrant _ 0 present).2.2.1 "x" _ rfl⟩

end ScopedFormula
