import Mathlib
import ScopedFormula.Proofs.Evaluation.Plain

/- Variables stand for what they were defined as. In a scope of the command line an expression
   comes to the same whether a name is bound to a value, or the expression of that value is written
   in the place of the name. -/
namespace ScopedFormula

mutual
/-- The tree with a grouping for every node that reads the name x without an owner. The name of a
    method stays. -/
def Expr.subst (e : Expr) (x : String) (meant : Expr) : Expr :=
  match e with
  | .name n => if n = x then .grouping meant else .name n
  | .grouping inner => .grouping (inner.subst x meant)
  | .unary op operand => .unary op (operand.subst x meant)
  | .binary left op right => .binary (left.subst x meant) op (right.subst x meant)
  | .member owner n => .member (owner.subst x meant) n
  | .call (.name n) args => .call (.name n) (substAll args x meant)
  | .call callee args => .call (callee.subst x meant) (substAll args x meant)
  | leaf => leaf

def substAll (es : List Expr) (x : String) (meant : Expr) : List Expr :=
  match es with
  | [] => []
  | e :: es => e.subst x meant :: substAll es x meant
end

/-- The same value, or the same failure up to what is no call target. -/
def Matches {α : Type} : Except Failure α → Except Failure α → Prop
  | .ok a, .ok b => a = b
  | .error f, .error g => f = g ∨ ∃ c d, f = .invalidCallee c ∧ g = .invalidCallee d
  | _, _ => False

variable {α β : Type} {x : String} {meant : Expr} {v : Value}
variable {values : String → Option Value} {builtins : String → Option Builtin}

theorem matches_refl (r : Except Failure α) : Matches r r := by
  cases r with
  | error f => exact .inl rfl
  | ok a => rfl

theorem matches_callee (c d : String) :
    Matches (.error (.invalidCallee c) : Except Failure α) (.error (.invalidCallee d)) :=
  .inr ⟨c, d, rfl, rfl⟩

theorem matches_bind {r s : Except Failure α} {k l : α → Except Failure β} (first : Matches r s)
    (rest : ∀ a, Matches (k a) (l a)) : Matches (r >>= k) (s >>= l) := by
  cases r with
  | error f =>
    cases s with
    | error g => exact first
    | ok b => contradiction
  | ok a =>
    cases s with
    | error g => contradiction
    | ok b =>
      obtain rfl : a = b := first
      exact rest a

theorem subst_call (callee : Expr) (args : List Expr) (x : String) (meant : Expr) :
    ∃ c cs, (Expr.call callee args).subst x meant = .call c cs := by
  cases callee <;> exact ⟨_, _, rfl⟩

mutual
theorem result_subst (known : meant.result values builtins = .ok v) : ∀ e : Expr,
    Matches (e.result (fun n => if n = x then some v else values n) builtins)
      ((e.subst x meant).result values builtins)
  | .string _ | .integer _ | .float _ | .boolean _ | .nil => rfl
  | .grouping inner => result_subst known inner
  | .unary op operand => matches_bind (result_subst known operand) fun _ => matches_refl _
  | .binary left op right => by
    apply matches_bind (result_subst known left)
    intro l
    exact matches_bind (result_subst known right) fun _ => matches_refl _
  | .name n => by
    rw [Expr.subst, Expr.result]
    by_cases same : n = x
    · rw [if_pos same, if_pos same]
      exact known ▸ matches_refl (meant.result values builtins)
    · rw [if_neg same, if_neg same]
      exact matches_refl _
  | .member owner n => matches_bind (result_subst known owner) fun _ => matches_refl _
  | .call (.name n) args => by
    unfold Expr.subst Expr.result
    cases builtins n with
    | none => exact matches_refl _
    | some b => exact matches_bind (resultAll_subst known args) fun _ => matches_refl _
  | .call (.member owner n) args =>
    matches_bind (result_subst known owner) fun _ => matches_refl _
  | .call (.string _) _ | .call (.integer _) _ | .call (.float _) _ | .call (.boolean _) _
  | .call .nil _ | .call (.grouping _) _ | .call (.unary ..) _ | .call (.binary ..) _ =>
    matches_callee _ _
  | .call (.call callee args) rest => by
    obtain ⟨c, cs, call⟩ := subst_call callee args x meant
    have outer : (Expr.call (.call callee args) rest).subst x meant =
        .call (.call c cs) (substAll rest x meant) := congrArg (Expr.call · _) call
    rw [outer]
    exact matches_callee _ _

theorem resultAll_subst (known : meant.result values builtins = .ok v) : ∀ es : List Expr,
    Matches (resultAll (fun n => if n = x then some v else values n) builtins es)
      (resultAll values builtins (substAll es x meant))
  | [] => rfl
  | e :: es => by
    unfold substAll resultAll
    apply matches_bind (result_subst known e)
    intro w
    exact matches_bind (resultAll_subst known es) fun _ => rfl
end

/-- A name that the scope of a command line leaves free can be given a value. Any expression then
    comes to what it comes to with the value's expression in the place of the name, and neither way
    of finding it changes the store. -/
theorem evaluation_by_value {r : Request} {st : Store} (started : startStore r = .ok st)
    (free : (st.scope startScope).vars.lookup x = none)
    (evaluated : (meant.eval startScope st).1 = .ok v) :
    ∃ st', st.defineVar startScope x (.value v) = .ok st' ∧ ∀ e : Expr,
      Matches (e.eval startScope st').1 ((e.subst x meant).eval startScope st).1 ∧
      (e.eval startScope st').2 = st' ∧ ((e.subst x meant).eval startScope st).2 = st := by
  have plain := startStore_plain started
  have known : meant.result (st.scope startScope).value? (st.scope startScope).builtin? =
      .ok v := by
    rw [Expr.eval, evalWith_plain plain.plain] at evaluated
    exact evaluated
  have lone := lone_result (fun _ w => value_plain plain.plain w) meant v known
  obtain ⟨st', defined⟩ : ∃ st', st.defineVar startScope x (.value v) = .ok st' :=
    ⟨_, defineVar_eq_ok.mpr ⟨free, rfl⟩⟩
  obtain ⟨more, values, builtins⟩ := defineVar_plain plain lone defined
  refine ⟨st', defined, fun e => ?_⟩
  unfold Expr.eval
  rw [evalWith_plain more.plain, evalWith_plain plain.plain, values, builtins]
  exact ⟨result_subst known e, rfl, rfl⟩

def oneVariable : Store :=
  ⟨[⟨[("a", .value (.integer 1))], Builtin.all.map fun b => (b.name, .builtin b), none⟩],
    [], [], 0, []⟩

def sumWithTwo : Expr := .binary (.name "a") ⟨.plus, "+", 1, none⟩ (.integer 2)

theorem evaluation_by_value_owner :
    startStore ⟨.interactive, [("a", "1")], true⟩ = .ok oneVariable ∧
    (oneVariable.scope startScope).vars.lookup "x" = none ∧
    (sumWithTwo.eval startScope oneVariable).1 = .ok (.integer 3) ∧
    ∃ st', oneVariable.defineVar startScope "x" (.value (.integer 3)) = .ok st' ∧
      Matches
        ((Expr.call (.name "max") [.name "x", .member (.name "x") "y"]).eval startScope st').1
        ((Expr.call (.name "max") [.grouping sumWithTwo,
          .member (.grouping sumWithTwo) "y"]).eval startScope oneVariable).1 := by
  have started : startStore ⟨.interactive, [("a", "1")], true⟩ = .ok oneVariable := by
    cbv
  have free : (oneVariable.scope startScope).vars.lookup "x" = none := by decide
  have evaluated : (sumWithTwo.eval startScope oneVariable).1 = .ok (.integer 3) := by
    cbv
  obtain ⟨st', defined, alike⟩ := evaluation_by_value started free evaluated
  exact ⟨started, free, evaluated, st', defined, (alike _).1⟩

end ScopedFormula
