import ScopedFormula.Proofs.Evaluation.Order
import ScopedFormula.Proofs.Scopes

/- What evaluation does to scopes it does through actions. A property of stores before and after
   that every action asked has, the evaluation has too, as it follows its visits. -/
namespace ScopedFormula

variable {r : Store → Store → Prop} [IsPreorder Store r] {st st' : Store} {i : ScopeId}
variable {perform : Performer} {scope : ScopeId} {e : Expr} {a : Action} {args : List Value}
variable {α β : Type}

theorem eval_follow (perform : Performer) (scope : ScopeId) (e : Expr) (st : Store) :
    Follow perform st (visits perform scope e.code [] st) (e.evalWith perform scope st).2 := by
  rcases result : e.evalWith perform scope st with ⟨f | v, st'⟩
  · obtain ⟨_, _, _, _, _, _, _, _, _, follow⟩ := run_breaks (run_code_of_error (s := []) result)
    exact follow
  · exact (run_completes (run_code_of_ok (s := []) result)).2

theorem follow_store {vs : List Visit} (each : ∀ v ∈ vs, r v.before (v.after perform))
    (h : Follow perform st vs st') : r st st' ∧ ∀ v ∈ vs, r st v.before := by
  induction vs generalizing st with
  | nil =>
    obtain rfl : st' = st := h
    exact ⟨refl_of r _, fun _ none => nomatch none⟩
  | cons v vs ih =>
    obtain ⟨rfl, rest⟩ := h
    have first := each v List.mem_cons_self
    obtain ⟨all, before⟩ := ih (fun w later => each w (List.mem_cons_of_mem v later)) rest
    refine ⟨trans_of r first all, fun w visited => ?_⟩
    rcases List.mem_cons.mp visited with rfl | later
    · exact refl_of r _
    · exact trans_of r first (before w later)

theorem visit_store {v : Visit}
    (asked : ∀ a args, v.asked = some (a, args) → r v.before (perform a args v.before).2) :
    r v.before (v.after perform) := by
  rw [Visit.after]
  rcases asks : v.asked with _ | ⟨a, args⟩
  · exact refl_of r _
  · exact asked a args asks

theorem evalWith_store (asked : ∀ v ∈ visits perform scope e.code [] st, ∀ a args,
    v.asked = some (a, args) → r v.before (perform a args v.before).2) :
    r st (e.evalWith perform scope st).2 :=
  (follow_store (fun v visited => visit_store (asked v visited))
    (eval_follow perform scope e st)).1

theorem lift_store {x : Except Failure α} {k : α → Effect β}
    (rest : ∀ a, x = .ok a → r st (k a st).2) : r st ((Effect.lift x >>= k) st).2 := by
  rcases h : x with f | a
  · exact refl_of r st
  · exact rest a h

/-- Scopes are changed by two actions at most. -/
theorem perform_store {evaluate : ScopeId → String → Effect Value}
    (same : ∀ {st' : Store}, st'.scopes = st.scopes → r st st')
    (defines : ∀ j n v st', a = .define j → st.defineVar j n (.value v) = .ok st' → r st st')
    (evaluates : ∀ j source, a = .evaluate j → (firstArg args).toText = .ok source →
      r st (evaluate j source st).2) :
    r st (a.perform evaluate args st).2 := by
  cases a with
  | half | not | quote => exact lift_store fun _ _ => refl_of r st
  | define j =>
    refine lift_store fun n _ => bind_store (update_store fun st' defined => ?_) fun _ st' _ => ?_
    · exact defines j n _ st' rfl defined
    · exact refl_of r st'
  | evaluate j => exact lift_store fun source read => evaluates j source rfl read
  | _ => exact same rfl

section
variable (same : ∀ {st st' : Store}, st'.scopes = st.scopes → r st st')
variable (vars : ∀ {j n v} {st st' : Store}, st.defineVar j n (.value v) = .ok st' → r st st')
include same vars

theorem evaluateAt_store (depth : Nat) (j : ScopeId) (source : String) (st : Store) :
    r st (evaluateAt depth j source st).2 := by
  induction depth generalizing j source st with
  | zero => exact refl_of _ st
  | succ depth ih =>
    refine lift_store fun e _ => evalWith_store fun v _ a args _ => ?_
    exact perform_store same (fun _ _ _ _ _ => vars) (fun j source _ _ => ih j source v.before)

theorem performAt_store (depth : Nat) (a : Action) (args : List Value) (st : Store) :
    r st (a.perform (evaluateAt depth) args st).2 :=
  perform_store same (fun _ _ _ _ _ => vars)
    (fun j source _ _ => evaluateAt_store same vars depth j source st)

theorem visits_store {depth : Nat} {v : Visit}
    (visited : v ∈ visits (Action.perform (evaluateAt depth)) scope e.code [] st) :
    r st v.before :=
  (follow_store (fun _ _ => visit_store fun a args _ => performAt_store same vars depth a args _)
    (eval_follow _ scope e st)).2 v visited
end

theorem perform_widens (depth : Nat) (a : Action) (args : List Value) (st : Store) :
    st.Widens (a.perform (evaluateAt depth) args st).2 :=
  performAt_store widens_of_scopes widens_defineVar depth a args st

theorem visits_widen {depth : Nat} {v : Visit}
    (visited : v ∈ visits (Action.perform (evaluateAt depth)) scope e.code [] st) :
    st.Widens v.before :=
  visits_store widens_of_scopes widens_defineVar visited

/-- The action comes to define a name in the scope: it is the one that does so, or the text that
    it evaluates asks, at some visit, for an action that comes to it. -/
inductive Defines (i : ScopeId) : Nat → Action → List Value → Store → Prop where
  | itself {depth : Nat} {args : List Value} {st : Store} : Defines i depth (.define i) args st
  | inside {depth : Nat} {j : ScopeId} {source : String} {e : Expr} {v : Visit} {b : Action}
      {args inner : List Value} {st : Store} (text : (firstArg args).toText = .ok source)
      (parsed : read source = .ok e)
      (visited : v ∈ visits (Action.perform (evaluateAt depth)) j e.code [] st)
      (asked : v.asked = some (b, inner)) (defines : Defines i depth b inner v.before) :
      Defines i (depth + 1) (.evaluate j) args st

theorem perform_spares {depth : Nat} (none : ¬ Defines i depth a args st) :
    Store.Spares i st (a.perform (evaluateAt depth) args st).2 := by
  induction depth generalizing a args st with
  | zero =>
    refine perform_store spares_of_scopes (fun j n v st' itself => ?_) fun _ _ _ _ => refl_of _ st
    exact spares_defineVar fun same => none (itself ▸ same ▸ .itself)
  | succ depth ih =>
    refine perform_store spares_of_scopes (fun j n v st' itself => ?_) ?_
    · exact spares_defineVar fun same => none (itself ▸ same ▸ .itself)
    · rintro j source rfl text
      refine lift_store fun e parsed => evalWith_store fun v visited b inner asked => ih ?_
      exact fun defines => none (.inside text parsed visited asked defines)

end ScopedFormula
