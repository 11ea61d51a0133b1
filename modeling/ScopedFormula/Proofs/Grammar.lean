import Mathlib.Data.List.Forall2
import ScopedFormula.Expr.Parse

/- The grammar of expressions, said without the parser: how strongly a tree binds, which
   trees need no further grouping, how deep a tree nests, and the tokens that spell it. -/
namespace ScopedFormula

def Expr.level : Expr → Nat
  | .unary op _ => (prefixLevel? op.kind).getD 0
  | .binary _ op _ => (binaryLevel? op.kind).getD 0
  | .member .. | .call .. => postfixLevel
  | _ => primaryLevel

/-- Operators stand on operands that bind at least as strongly, the right operand of a binary
    operator more strongly. What brackets enclose may bind as it likes. -/
inductive WellLevelled : Expr → Prop where
  | string (s : String) : WellLevelled (.string s)
  | integer (n : Int64) : WellLevelled (.integer n)
  | float (x : Float) : WellLevelled (.float x)
  | boolean (b : Bool) : WellLevelled (.boolean b)
  | nil : WellLevelled .nil
  | name (n : String) : WellLevelled (.name n)
  | grouping {inner : Expr} (inside : WellLevelled inner) : WellLevelled (.grouping inner)
  | unary {op : Token} {operand : Expr} {level : Nat} (known : prefixLevel? op.kind = some level)
      (below : WellLevelled operand) (tight : level ≤ operand.level) :
      WellLevelled (.unary op operand)
  | binary {left right : Expr} {op : Token} {level : Nat}
      (known : binaryLevel? op.kind = some level)
      (before : WellLevelled left) (after : WellLevelled right)
      (loose : level ≤ left.level) (tight : level < right.level) :
      WellLevelled (.binary left op right)
  | member {owner : Expr} {n : String} (below : WellLevelled owner)
      (tight : postfixLevel ≤ owner.level) : WellLevelled (.member owner n)
  | call {callee : Expr} {args : List Expr} (below : WellLevelled callee)
      (tight : postfixLevel ≤ callee.level) (inside : ∀ a ∈ args, WellLevelled a) :
      WellLevelled (.call callee args)

def Expr.steps : Expr → Nat
  | .member owner _ => owner.steps + 1
  | .call callee _ => callee.steps + 1
  | _ => 0

mutual
/-- Groupings and prefix operators nest their operand. A chain of calls and member accesses
    nests by its length, and the arguments of one of its calls by one more than the steps up
    to that call. -/
def Expr.nest : Expr → Nat
  | .grouping inner => inner.nest + 1
  | .unary _ operand => operand.nest + 1
  | .binary left _ right => max left.nest right.nest
  | .member owner _ => max owner.nest (owner.steps + 1)
  | .call callee args => max callee.nest (callee.steps + 2 + nestAll args)
  | _ => 0

def nestAll : List Expr → Nat
  | [] => 0
  | e :: es => max e.nest (nestAll es)
end

/-- One position of the token sequence of a tree: an operator is its very token, brackets,
    commas, dots and the words true, false and nil count by their kind alone. -/
inductive Piece where
  | mark (kind : TokenKind)
  | operator (op : Token)
  | literal (value : Literal)
  | name (n : String)
  deriving DecidableEq, Repr

def Literal.kind : Literal → TokenKind
  | .integer _ => .integer
  | .float _ => .float
  | .string _ => .string

def Piece.Is : Piece → Token → Prop
  | .mark kind, t => t.kind = kind
  | .operator op, t => t = op
  | .literal value, t => t.kind = value.kind ∧ t.literal = some value
  | .name n, t => t.kind = .ident ∧ t.lexeme = n

def Piece.kind : Piece → TokenKind
  | .mark kind => kind
  | .operator op => op.kind
  | .literal value => value.kind
  | .name _ => .ident

theorem kind_of_is {p : Piece} {t : Token} (h : p.Is t) : t.kind = p.kind := by
  cases p with
  | mark kind => exact h
  | operator op => exact h ▸ rfl
  | literal value => exact h.1
  | name n => exact h.1

mutual
def Expr.pieces : Expr → List Piece
  | .string s => [.literal (.string s)]
  | .integer n => [.literal (.integer n)]
  | .float x => [.literal (.float x)]
  | .boolean b => [.mark (if b then .true else .false)]
  | .nil => [.mark .nil]
  | .name n => [.name n]
  | .grouping inner => .mark .lparen :: inner.pieces ++ [.mark .rparen]
  | .unary op operand => .operator op :: operand.pieces
  | .binary left op right => left.pieces ++ .operator op :: right.pieces
  | .member owner n => owner.pieces ++ [.mark .period, .name n]
  | .call callee args => callee.pieces ++ .mark .lparen :: separated args ++ [.mark .rparen]

def separated : List Expr → List Piece
  | [] => []
  | [e] => e.pieces
  | e :: f :: es => e.pieces ++ .mark .comma :: separated (f :: es)
end

/-- The tokens are the token sequence of the tree. -/
def Spells (e : Expr) (ts : List Token) : Prop := List.Forall₂ Piece.Is e.pieces ts

theorem binaryLevel_bounds {kind : TokenKind} {level : Nat} (h : binaryLevel? kind = some level) :
    1 ≤ level ∧ level ≤ 8 ∧ level ≠ 3 := by
  cases kind <;> simp [binaryLevel?] at h <;> omega

theorem prefixLevel_cases {kind : TokenKind} {level : Nat} (h : prefixLevel? kind = some level) :
    (kind = .bang ∧ level = 3) ∨ (kind = .minus ∧ level = 9) := by
  cases kind <;> simp_all [prefixLevel?]

theorem level_pos {e : Expr} (h : WellLevelled e) : 1 ≤ e.level := by
  cases h with
  | unary known below tight =>
    have := prefixLevel_cases known
    simp only [Expr.level, known, Option.getD_some]
    omega
  | binary known before after loose tight =>
    have := binaryLevel_bounds known
    simp only [Expr.level, known, Option.getD_some]
    omega
  | _ => simp [Expr.level, primaryLevel, postfixLevel]

theorem pieces_head {e : Expr} (h : WellLevelled e) :
    ∃ p ps, e.pieces = p :: ps ∧ p.kind ≠ .rparen := by
  induction h with
  | string | integer | float | nil | name =>
    exact ⟨_, _, rfl, by simp [Piece.kind, Literal.kind]⟩
  | boolean b => exact ⟨_, _, rfl, by cases b <;> decide⟩
  | grouping inside ih => exact ⟨_, _, rfl, by decide⟩
  | unary known below tight ih =>
    refine ⟨_, _, rfl, fun same => ?_⟩
    simp only [Piece.kind] at same
    simp [same, prefixLevel?] at known
  | binary known before after loose tight first second =>
    obtain ⟨p, ps, start, other⟩ := first
    exact ⟨p, _, by rw [Expr.pieces, start]; rfl, other⟩
  | member below tight ih =>
    obtain ⟨p, ps, start, other⟩ := ih
    exact ⟨p, _, by rw [Expr.pieces, start]; rfl, other⟩
  | call below tight inside ih args =>
    obtain ⟨p, ps, start, other⟩ := ih
    exact ⟨p, _, by rw [Expr.pieces, start]; rfl, other⟩

theorem nest_le_nestAll {a : Expr} {args : List Expr} (h : a ∈ args) : a.nest ≤ nestAll args := by
  induction args with
  | nil => simp at h
  | cons b bs ih =>
    simp only [nestAll]
    rcases List.mem_cons.mp h with same | later
    · subst b
      omega
    · have := ih later
      omega

theorem nestAll_append (as bs : List Expr) :
    nestAll (as ++ bs) = max (nestAll as) (nestAll bs) := by
  induction as with
  | nil => simp [nestAll]
  | cons a as ih =>
    simp only [List.cons_append, nestAll, ih]
    omega

theorem forall₂_append_iff {α β : Type} {r : α → β → Prop} {ps qs : List α} {ts : List β} :
    List.Forall₂ r (ps ++ qs) ts ↔
      ∃ us vs, ts = us ++ vs ∧ List.Forall₂ r ps us ∧ List.Forall₂ r qs vs := by
  constructor
  · intro h
    induction ps generalizing ts with
    | nil => exact ⟨[], ts, rfl, .nil, h⟩
    | cons p ps ih =>
      obtain ⟨t, ts', head, tail, rfl⟩ := List.forall₂_cons_left_iff.mp h
      obtain ⟨us, vs, rfl, first, second⟩ := ih tail
      exact ⟨t :: us, vs, rfl, .cons head first, second⟩
  · rintro ⟨us, vs, rfl, first, second⟩
    exact List.rel_append first second

theorem spells_grouping_iff {inner : Expr} {ts : List Token} :
    Spells (.grouping inner) ts ↔ ∃ t us u, ts = t :: us ++ [u] ∧
      t.kind = .lparen ∧ Spells inner us ∧ u.kind = .rparen := by
  simp only [Spells, Expr.pieces, List.cons_append, List.forall₂_cons_left_iff,
    forall₂_append_iff, List.forall₂_nil_left_iff, Piece.Is]
  constructor
  · rintro ⟨t, _, opening, ⟨us, _, rfl, inside, u, _, closing, rfl, rfl⟩, rfl⟩
    exact ⟨t, us, u, rfl, opening, inside, closing⟩
  · rintro ⟨t, us, u, rfl, opening, inside, closing⟩
    exact ⟨t, us ++ [u], opening, ⟨us, [u], rfl, inside, u, [], closing, rfl, rfl⟩, rfl⟩

theorem spells_unary_iff {op : Token} {operand : Expr} {ts : List Token} :
    Spells (.unary op operand) ts ↔ ∃ us, ts = op :: us ∧ Spells operand us := by
  simp only [Spells, Expr.pieces, List.forall₂_cons_left_iff, Piece.Is]
  constructor
  · rintro ⟨_, us, rfl, below, rfl⟩
    exact ⟨us, rfl, below⟩
  · rintro ⟨us, rfl, below⟩
    exact ⟨op, us, rfl, below, rfl⟩

theorem spells_binary_iff {left right : Expr} {op : Token} {ts : List Token} :
    Spells (.binary left op right) ts ↔
      ∃ us vs, ts = us ++ op :: vs ∧ Spells left us ∧ Spells right vs := by
  simp only [Spells, Expr.pieces, List.forall₂_cons_left_iff, forall₂_append_iff, Piece.Is]
  constructor
  · rintro ⟨us, _, rfl, before, _, vs, rfl, after, rfl⟩
    exact ⟨us, vs, rfl, before, after⟩
  · rintro ⟨us, vs, rfl, before, after⟩
    exact ⟨us, op :: vs, rfl, before, op, vs, rfl, after, rfl⟩

theorem spells_member_iff {owner : Expr} {n : String} {ts : List Token} :
    Spells (.member owner n) ts ↔ ∃ us t u, ts = us ++ [t, u] ∧
      Spells owner us ∧ t.kind = .period ∧ u.kind = .ident ∧ u.lexeme = n := by
  simp only [Spells, Expr.pieces, List.forall₂_cons_left_iff, forall₂_append_iff,
    List.forall₂_nil_left_iff, Piece.Is]
  constructor
  · rintro ⟨us, _, rfl, below, t, _, dot, ⟨u, _, ident, rfl, rfl⟩, rfl⟩
    exact ⟨us, t, u, rfl, below, dot, ident⟩
  · rintro ⟨us, t, u, rfl, below, dot, ident⟩
    exact ⟨us, [t, u], rfl, below, t, [u], dot, ⟨u, [], ident, rfl, rfl⟩, rfl⟩

theorem spells_call_iff {callee : Expr} {args : List Expr} {ts : List Token} :
    Spells (.call callee args) ts ↔ ∃ us t vs u, ts = us ++ t :: vs ++ [u] ∧
      Spells callee us ∧ t.kind = .lparen ∧
      List.Forall₂ Piece.Is (separated args) vs ∧ u.kind = .rparen := by
  simp only [Spells, Expr.pieces, List.forall₂_cons_left_iff, forall₂_append_iff,
    List.append_assoc, List.cons_append, List.forall₂_nil_left_iff, Piece.Is]
  constructor
  · rintro ⟨us, _, rfl, below, t, _, opening, ⟨vs, _, rfl, inside, u, _, closing, rfl, rfl⟩, rfl⟩
    exact ⟨us, t, vs, u, rfl, below, opening, inside, closing⟩
  · rintro ⟨us, t, vs, u, rfl, below, opening, inside, closing⟩
    exact ⟨us, t :: (vs ++ [u]), rfl, below, t, vs ++ [u], opening,
      ⟨vs, [u], rfl, inside, u, [], closing, rfl, rfl⟩, rfl⟩

end ScopedFormula
