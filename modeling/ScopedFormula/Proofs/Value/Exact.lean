import Mathlib
import ScopedFormula.Eval

/- Results that are exact or refused. An operation on items that stand for integers gives the item
   of its exact result, or overflows for want of one. -/
namespace ScopedFormula

variable {α : Type} {mark : α → Int} {make : α → Value} {op : String} {n : Int} {x : α}
  {r : Except Failure Value} {v w u : Value} {f : Failure}

/-- The result is the item that stands for n, or an overflow if none does. -/
def Exact (mark : α → Int) (make : α → Value) (op : String) (n : Int)
    (r : Except Failure Value) : Prop :=
  (∃ x, mark x = n ∧ r = .ok (make x)) ∨ (∀ x, mark x ≠ n) ∧ r = .error (.overflow op)

theorem exact_ok (h : Exact mark make op n r) (done : r = .ok v) :
    ∃ x, mark x = n ∧ v = make x := by
  rcases h with ⟨x, same, given⟩ | ⟨-, given⟩
  · exact ⟨x, same, Except.ok.inj (done.symm.trans given)⟩
  · exact nomatch done.symm.trans given

theorem exact_error (h : Exact mark make op n r) (fails : r = .error f) (x : α) : mark x ≠ n := by
  rcases h with ⟨y, -, given⟩ | ⟨none, -⟩
  · exact nomatch fails.symm.trans given
  · exact none x

theorem exact_item (h : Exact mark make op n r) (one : ∀ x y, mark x = mark y → x = y)
    (same : mark x = n) : r = .ok (make x) := by
  rcases h with ⟨y, other, given⟩ | ⟨none, -⟩
  · rw [given, one x y (same.trans other.symm)]
  · exact absurd same (none x)

abbrev ExactInteger (op : String) (n : Int) (r : Except Failure Value) : Prop :=
  Exact Int64.toInt .integer op n r

theorem exists_toInt_iff :
    (∃ m : Int64, m.toInt = n) ↔ -2 ^ (63 : Nat) ≤ n ∧ n < 2 ^ (63 : Nat) := by
  constructor
  · rintro ⟨m, rfl⟩
    exact ⟨m.le_toInt, m.toInt_lt⟩
  · rintro ⟨low, high⟩
    exact ⟨.ofInt n, Int64.toInt_ofInt_of_le low high⟩

theorem checked_exact (op : String) (n : Int) : ExactInteger op n (checked op n) := by
  unfold checked
  split
  · rename_i range
    exact .inl ⟨.ofInt n, Int64.toInt_ofInt_of_le range.1 range.2, rfl⟩
  · rename_i range
    exact .inr ⟨fun m same => range (exists_toInt_iff.mp ⟨m, same⟩), rfl⟩

variable {perform : Performer} {scope : ScopeId} {st st₁ st₂ : Store} {a b e : Expr}

/-- The expression has the value, and finding it changes nothing. -/
def AmountsTo (perform : Performer) (scope : ScopeId) (st : Store) (e : Expr) (v : Value) : Prop :=
  e.evalWith perform scope st = (.ok v, st)

theorem amounts_name {x : String} (bound : st.binding? x (.scope scope) = some (.value v)) :
    AmountsTo perform scope st (.name x) v := by
  have found : Effect.read (·.binding? x (.scope scope)) st = (.ok (some (.value v)), st) :=
    congrArg (fun b => (Except.ok b, st)) bound
  unfold AmountsTo
  rw [Expr.evalWith, readName, Effect.bind_of_ok found]
  rfl

theorem amounts_grouping (inside : AmountsTo perform scope st e v) :
    AmountsTo perform scope st (.grouping e) v :=
  inside

theorem evalWith_binary (left : a.evalWith perform scope st = (.ok v, st₁))
    (right : b.evalWith perform scope st₁ = (.ok w, st₂)) (t : Token) :
    (Expr.binary a t b).evalWith perform scope st = (v.binary t.kind w, st₂) := by
  rw [Expr.evalWith, Effect.bind_of_ok left, Effect.bind_of_ok right]
  cases v.binary t.kind w <;> rfl

theorem amounts_binary (left : AmountsTo perform scope st a v)
    (right : AmountsTo perform scope st b w) (t : Token) (done : v.binary t.kind w = .ok u) :
    AmountsTo perform scope st (.binary a t b) u := by
  rw [AmountsTo, evalWith_binary left right, done]

theorem evaluate_of_read {source : String} (reads : read source = .ok e) (scope : ScopeId) :
    evaluate scope source = e.eval scope := by
  rw [evaluate, reads]
  rfl

end ScopedFormula
