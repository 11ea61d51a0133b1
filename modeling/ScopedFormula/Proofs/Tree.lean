import ScopedFormula.Eval
import ScopedFormula.Proofs.Grammar

/- Trees as nodes and children, and trees compared by what their operators mean: by the kind of
   the operator tokens, not by where the tokens were read or how they were written. -/
namespace ScopedFormula

def Expr.children : Expr → List Expr
  | .grouping inner => [inner]
  | .unary _ operand => [operand]
  | .binary left _ right => [left, right]
  | .member owner _ => [owner]
  | .call callee args => callee :: args
  | _ => []

/-- The first tree is the second one or stands somewhere below its root. -/
inductive Within : Expr → Expr → Prop where
  | here (e : Expr) : Within e e
  | down {e c t : Expr} (inside : Within e c) (child : c ∈ t.children) : Within e t

theorem within_iff {e t : Expr} : Within e t ↔ e = t ∨ ∃ c ∈ t.children, Within e c := by
  constructor
  · intro h
    cases h with
    | here => exact .inl rfl
    | down inside child => exact .inr ⟨_, child, inside⟩
  · rintro (rfl | ⟨c, child, inside⟩)
    · exact .here e
    · exact .down inside child

theorem within_leaf {x t : Expr} (inside : Within x t) (leaf : t.children = []) : x = t := by
  rcases within_iff.mp inside with same | ⟨c, child, -⟩
  · exact same
  · simp [leaf] at child

def Token.bare (t : Token) : Token := { t with lexeme := "", position := 0 }

mutual
def Expr.remake (f : Float → Expr) : Expr → Expr
  | .string s => .string s
  | .integer n => .integer n
  | .float x => f x
  | .boolean b => .boolean b
  | .nil => .nil
  | .grouping inner => .grouping (inner.remake f)
  | .unary op operand => .unary op.bare (operand.remake f)
  | .binary left op right => .binary (left.remake f) op.bare (right.remake f)
  | .name n => .name n
  | .member owner n => .member (owner.remake f) n
  | .call callee args => .call (callee.remake f) (remakeAll f args)

def remakeAll (f : Float → Expr) : List Expr → List Expr
  | [] => []
  | e :: es => e.remake f :: remakeAll f es
end

/-- The tree up to the lexemes and positions of its operators. -/
def Expr.bare (e : Expr) : Expr := e.remake .float

variable {f g : Float → Expr}

mutual
theorem remake_congr : ∀ {e : Expr}, (∀ x, Within (.float x) e → f x = g x) →
    e.remake f = e.remake g
  | .float x, same => same x (.here _)
  | .string _, _ | .integer _, _ | .boolean _, _ | .nil, _ | .name _, _ => rfl
  | .grouping inner, same => by
    rw [Expr.remake, Expr.remake,
      remake_congr (e := inner) fun x h => same x (.down h (by simp [Expr.children]))]
  | .unary op operand, same => by
    rw [Expr.remake, Expr.remake,
      remake_congr (e := operand) fun x h => same x (.down h (by simp [Expr.children]))]
  | .binary left op right, same => by
    rw [Expr.remake, Expr.remake,
      remake_congr (e := left) fun x h => same x (.down h (by simp [Expr.children])),
      remake_congr (e := right) fun x h => same x (.down h (by simp [Expr.children]))]
  | .member owner n, same => by
    rw [Expr.remake, Expr.remake,
      remake_congr (e := owner) fun x h => same x (.down h (by simp [Expr.children]))]
  | .call callee args, same => by
    rw [Expr.remake, Expr.remake,
      remake_congr (e := callee) fun x h => same x (.down h (by simp [Expr.children])),
      remakeAll_congr (l := args) fun a mem x h =>
        same x (.down h (by simp [Expr.children, mem]))]

theorem remakeAll_congr : ∀ {l : List Expr},
    (∀ e ∈ l, ∀ x, Within (.float x) e → f x = g x) → remakeAll f l = remakeAll g l
  | [], _ => rfl
  | e :: es, same => by
    rw [remakeAll, remakeAll, remake_congr (same e (by simp)),
      remakeAll_congr fun a mem => same a (by simp [mem])]
end

def Leaves (f : Float → Expr) : Prop :=
  ∀ x, (f x).level = primaryLevel ∧ (f x).steps = 0 ∧ (f x).nest = 0

theorem leaves_float : Leaves .float := fun _ => ⟨rfl, rfl, rfl⟩

theorem level_remake (leaf : Leaves f) (e : Expr) : (e.remake f).level = e.level := by
  cases e with
  | float x => exact (leaf x).1
  | _ => rfl

theorem steps_remake (leaf : Leaves f) : ∀ e : Expr, (e.remake f).steps = e.steps
  | .float x => (leaf x).2.1
  | .string _ | .integer _ | .boolean _ | .nil | .name _ | .grouping _ | .unary .. | .binary .. =>
    rfl
  | .member owner _ => congrArg (· + 1) (steps_remake leaf owner)
  | .call callee _ => congrArg (· + 1) (steps_remake leaf callee)

mutual
theorem nest_remake (leaf : Leaves f) : ∀ e : Expr, (e.remake f).nest = e.nest
  | .float x => (leaf x).2.2
  | .string _ | .integer _ | .boolean _ | .nil | .name _ => rfl
  | .grouping inner => by rw [Expr.remake, Expr.nest, Expr.nest, nest_remake leaf inner]
  | .unary op operand => by rw [Expr.remake, Expr.nest, Expr.nest, nest_remake leaf operand]
  | .binary left op right => by
    rw [Expr.remake, Expr.nest, Expr.nest, nest_remake leaf left, nest_remake leaf right]
  | .member owner n => by
    rw [Expr.remake, Expr.nest, Expr.nest, nest_remake leaf owner, steps_remake leaf]
  | .call callee args => by
    rw [Expr.remake, Expr.nest, Expr.nest, nest_remake leaf callee, steps_remake leaf,
      nestAll_remake leaf args]

theorem nestAll_remake (leaf : Leaves f) : ∀ es : List Expr, nestAll (remakeAll f es) = nestAll es
  | [] => rfl
  | e :: es => by rw [remakeAll, nestAll, nestAll, nest_remake leaf e, nestAll_remake leaf es]
end

mutual
theorem print_remake : ∀ {e : Expr},
    (∀ x, Within (.float x) e → (f x).print = (Expr.float x).print) → (e.remake f).print = e.print
  | .float x, same => same x (.here _)
  | .string _, _ | .integer _, _ | .boolean _, _ | .nil, _ | .name _, _ => rfl
  | .grouping inner, same => by
    rw [Expr.remake, Expr.print, Expr.print,
      print_remake (e := inner) fun x h => same x (.down h (by simp [Expr.children]))]
  | .unary op operand, same => by
    rw [Expr.remake, Expr.print, Expr.print, Token.bare,
      print_remake (e := operand) fun x h => same x (.down h (by simp [Expr.children]))]
  | .binary left op right, same => by
    rw [Expr.remake, Expr.print, Expr.print, Token.bare,
      print_remake (e := left) fun x h => same x (.down h (by simp [Expr.children])),
      print_remake (e := right) fun x h => same x (.down h (by simp [Expr.children]))]
  | .member owner n, same => by
    rw [Expr.remake, Expr.print, Expr.print,
      print_remake (e := owner) fun x h => same x (.down h (by simp [Expr.children]))]
  | .call callee args, same => by
    rw [Expr.remake, Expr.print, Expr.print,
      print_remake (e := callee) fun x h => same x (.down h (by simp [Expr.children])),
      printAll_remake (l := args) fun a mem x h =>
        same x (.down h (by simp [Expr.children, mem]))]

theorem printAll_remake : ∀ {l : List Expr},
    (∀ e ∈ l, ∀ x, Within (.float x) e → (f x).print = (Expr.float x).print) →
      printAll (remakeAll f l) = printAll l
  | [], _ => rfl
  | e :: es, same => by
    rw [remakeAll, printAll, printAll, print_remake (same e (by simp)),
      printAll_remake fun a mem => same a (by simp [mem])]
end

theorem print_bare (e : Expr) : e.bare.print = e.print := print_remake fun _ _ => rfl

variable {perform : Performer} {scope : ScopeId}

theorem fail_bare (callee : Expr) :
    (Effect.fail (.invalidCallee callee.bare.print) : Effect Value) =
      Effect.fail (.invalidCallee callee.print) := by
  rw [print_bare]

mutual
theorem evalWith_bare : ∀ e : Expr, e.bare.evalWith perform scope = e.evalWith perform scope
  | .string _ | .integer _ | .float _ | .boolean _ | .nil | .name _ => rfl
  | .grouping inner => by
    have ih := evalWith_bare inner
    simp only [Expr.bare] at ih
    simp only [Expr.bare, Expr.remake, Expr.evalWith, ih]
  | .unary op operand => by
    have ih := evalWith_bare operand
    simp only [Expr.bare] at ih
    simp only [Expr.bare, Expr.remake, Expr.evalWith, ih, Token.bare]
  | .binary left op right => by
    have first := evalWith_bare left
    have second := evalWith_bare right
    simp only [Expr.bare] at first second
    simp only [Expr.bare, Expr.remake, Expr.evalWith, first, second, Token.bare]
  | .member owner n => by
    have ih := evalWith_bare owner
    simp only [Expr.bare] at ih
    simp only [Expr.bare, Expr.remake, Expr.evalWith, ih]
  | .call (.name n) args => by
    have ih := evalAll_bare args
    simp only [Expr.bare, Expr.remake, Expr.evalWith, ih]
  | .call (.member owner n) args => by
    have first := evalWith_bare owner
    have second := evalAll_bare args
    simp only [Expr.bare] at first
    simp only [Expr.bare, Expr.remake, Expr.evalWith, first, second]
  | .call (.string _) _ | .call (.integer _) _ | .call (.float _) _ | .call (.boolean _) _
  | .call .nil _ => rfl
  | .call (.grouping inner) _ => fail_bare (.grouping inner)
  | .call (.unary op operand) _ => fail_bare (.unary op operand)
  | .call (.binary left op right) _ => fail_bare (.binary left op right)
  | .call (.call callee args) _ => fail_bare (.call callee args)

theorem evalAll_bare : ∀ es : List Expr,
    evalAll perform scope (remakeAll .float es) = evalAll perform scope es
  | [] => rfl
  | e :: es => by
    have first := evalWith_bare e
    simp only [Expr.bare] at first
    simp only [remakeAll, evalAll, first, evalAll_bare es]
end

theorem evalWith_of_bare {e t : Expr} (same : e.bare = t.bare) :
    e.evalWith perform scope = t.evalWith perform scope := by
  rw [← evalWith_bare e, same, evalWith_bare t]

end ScopedFormula
