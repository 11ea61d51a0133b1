import ScopedFormula.Proofs.Reprint

/- The text of an integer evaluated. The text of a negative integer is read as the negation of a
   positive one, and the least integer is the negation of none. -/
namespace ScopedFormula

variable {t : Expr} {n : Int64}

theorem evaluate_print (levelled : WellLevelled t) (room : t.nest ≤ maxDepth)
    (lexed : Legible t) (printable : Printable t) (exact : ∀ x, ¬ Within (.float x) t)
    (scope : ScopeId) : evaluate scope t.print = t.eval scope := by
  obtain ⟨u, reads, same⟩ := read_print levelled room lexed printable
  have bare : u.bare = t.bare :=
    same.trans (remake_congr fun x inside => absurd inside (exact x))
  have parsed : evaluate scope t.print = u.eval scope := by
    rw [evaluate, reads]
    rfl
  rw [parsed]
  exact evalWith_of_bare bare

theorem evaluate_literal (positive : 0 ≤ n.toInt) (scope : ScopeId) (st : Store) :
    evaluate scope (Value.integer n).text st = (.ok (.integer n), st) := by
  have lexed : Legible (.integer n) :=
    legible_of_children positive (by simp [Expr.children])
  have exact : ∀ x, ¬ Within (.float x) (.integer n) :=
    fun x inside => nomatch within_leaf inside rfl
  exact congrFun (evaluate_print (.integer n) (Nat.zero_le _) lexed
    (printable_leaf rfl (by simp)) exact scope) st

def opposite (n : Int64) : Expr := .unary ⟨.minus, "-", 0, none⟩ (.integer n)

theorem evaluate_opposite (positive : 0 ≤ n.toInt) (scope : ScopeId) (st : Store) :
    evaluate scope (opposite n).print st = (.ok (.integer (-n)), st) := by
  have tight : 9 ≤ primaryLevel := by decide
  have levelled : WellLevelled (opposite n) := .unary rfl (.integer n) tight
  have room : 0 + 1 ≤ maxDepth := by decide
  have lexed : Legible (opposite n) := by
    refine legible_of_children rfl fun c child => ?_
    obtain rfl := List.mem_singleton.mp child
    exact legible_of_children positive (by simp [Expr.children])
  have printable : Printable (opposite n) := by
    refine printable_iff.mpr ⟨by simp [opposite], by simp [opposite], fun c child => ?_⟩
    obtain rfl := List.mem_singleton.mp child
    exact printable_leaf rfl (by simp)
  have exact : ∀ x, ¬ Within (.float x) (opposite n) := by
    intro x inside
    rcases within_iff.mp inside with same | ⟨c, child, deeper⟩
    · contradiction
    · obtain rfl := List.mem_singleton.mp child
      cases within_leaf deeper rfl
  have negated : checked "-" (-n.toInt) = .ok (.integer (-n)) := by
    have small := n.toInt_lt
    have range : -integerLimit ≤ -n.toInt ∧ -n.toInt < integerLimit := by
      unfold integerLimit
      omega
    rw [checked, if_pos range, Int64.ofInt_neg, Int64.ofInt_toInt]
  rw [evaluate_print levelled room lexed printable exact scope]
  have evaluated : (opposite n).eval scope st = (checked "-" (-n.toInt), st) := rfl
  rw [evaluated, negated]

theorem text_negative {k : Nat} (value : n.toInt = Int.negSucc k) (other : n ≠ Int64.minValue) :
    (Value.integer n).text = (opposite (-n)).print ∧ 0 ≤ (-n).toInt := by
  have bounded := n.le_toInt
  have least : n.toInt ≠ -2 ^ 63 := fun same => other (Int64.toInt_inj.mp same)
  have back : (-n).toInt = ((k + 1 : Nat) : Int) := by
    rw [Int64.toInt_neg, Int.bmod_eq_of_le] <;> omega
  rw [Value.text, Value.datum, Datum.text, integerText, opposite, Expr.print, Expr.print, value,
    back]
  exact ⟨rfl, Int.natCast_nonneg _⟩

theorem scan_least : scan "-9223372036854775808" =
    .error (.invalidNumber "9223372036854775808" 1) := by
  decide +kernel

/-- An integer comes back from its text in every scope, but for the least one, whose digits are
    too large a number. -/
theorem evaluate_integer_text (n : Int64) (scope : ScopeId) (st : Store) :
    evaluate scope (Value.integer n).text st = (if n = Int64.minValue then
      .error (.scan (.invalidNumber "9223372036854775808" 1)) else .ok (.integer n), st) := by
  by_cases least : n = Int64.minValue
  · subst least
    have text : (Value.integer Int64.minValue).text = "-9223372036854775808" := by decide +kernel
    rw [if_pos rfl, text, evaluate, read, scan_least]
    rfl
  · rw [if_neg least]
    rcases value : n.toInt with k | k
    · exact evaluate_literal (value ▸ Int.natCast_nonneg k) scope st
    · obtain ⟨text, positive⟩ := text_negative value least
      rw [text, evaluate_opposite positive, Int64.neg_neg]

theorem least_integer_lost : ¬ ∀ (n : Int64) (scope : ScopeId) (st : Store),
    (evaluate scope (Value.integer n).text st).1 = .ok (.integer n) := by
  intro all
  have text : (Value.integer (-9223372036854775808)).text = "-9223372036854775808" := by
    decide +kernel
  have fails := all (-9223372036854775808) 0 Store.empty
  rw [text, evaluate, read, scan_least] at fails
  contradiction

end ScopedFormula
