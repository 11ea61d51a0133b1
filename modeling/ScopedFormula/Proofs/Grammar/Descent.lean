import ScopedFormula.Expr.Parse

/- The grammar as rules that call each other, with the nesting in a counter that all of them
   change. A rule that nests puts the counter back itself, behind errors too; behind the calls
   and member accesses of a chain it is put back only once the chain is complete. -/
namespace ScopedFormula

/-- What a rule finds: tokens still to read, at most n of them, and the counter. The counter is
    an integer, so that one taken below zero would show. -/
structure Ledger (n : Nat) where
  rest : List Token
  few : rest.length ≤ n
  depth : Int

structure Report (n : Nat) where
  result : Except ParseError Expr
  left : Ledger n
  trace : List Int

abbrev Descent (n : Nat) := Ledger n → Report n

variable {m n : Nat}

def Ledger.widen (c : Ledger m) (h : m ≤ n) : Ledger n :=
  ⟨c.rest, Nat.le_trans c.few h, c.depth⟩

def Report.widen (r : Report m) (h : m ≤ n) : Report n := ⟨r.result, r.left.widen h, r.trace⟩

def Report.after (trace : List Int) (r : Report n) : Report n :=
  { r with trace := trace ++ r.trace }

def Report.shallower (r : Report n) : Report n :=
  ⟨r.result, { r.left with depth := r.left.depth - 1 }, r.trace ++ [r.left.depth - 1]⟩

def Ledger.start (ts : List Token) : Ledger ts.length := ⟨ts, Nat.le_refl _, 0⟩

namespace Descent

def give (e : Expr) : Descent n := fun c => ⟨.ok e, c, []⟩

def refuse (t : Token) (fault : Fault) : Descent n := fun c => ⟨.error ⟨t, fault⟩, c, []⟩

def refuseNext (stop : Token) (fault : Fault) : Descent n :=
  fun c => refuse (c.rest.headD stop) fault c

def andThen (first : Descent n) (next : Expr → Descent n) : Descent n := fun c =>
  match (first c).result with
  | .ok e => (next e (first c).left).after (first c).trace
  | .error _ => first c

def assign (depth : Int) (next : Descent n) : Descent n :=
  fun c => (next { c with depth }).after [depth]

def deeper (t : Token) (next : Descent n) : Descent n := fun c =>
  if (maxDepth : Int) ≤ c.depth then refuse t .tooDeep c else assign (c.depth + 1) next c

def nestedAt (t : Token) (inner : Descent n) : Descent n := deeper t fun c => (inner c).shallower

def nestedNext (stop : Token) (inner : Descent n) : Descent n :=
  fun c => nestedAt (c.rest.headD stop) inner c

def onNext (kind : TokenKind → Bool) (yes : (m : Nat) → m < n → Token → Descent m)
    (no : Descent n) : Descent n := fun c =>
  match c with
  | ⟨[], _, _⟩ => no c
  | ⟨t :: ts, few, depth⟩ =>
      if kind t.kind then (yes ts.length few t ⟨ts, Nat.le_refl _, depth⟩).widen (Nat.le_of_lt few)
      else no c

def single (stop : Token) : Descent n := fun c =>
  match c with
  | ⟨[], _, _⟩ => refuse stop .noExpression c
  | ⟨t :: ts, few, depth⟩ =>
      match primary t with
      | .ok e => give e ⟨ts, Nat.le_of_lt few, depth⟩
      | .error fault => refuse t fault c

end Descent

/-- Operands of a level and stronger; the operators of a level behind a left operand; the calls
    and member accesses behind a tree, with the counter from before them; the arguments of a
    call, and those behind the arguments read. -/
inductive Rule where
  | operand (level : Nat)
  | fold (level : Nat) (left : Expr)
  | chain (base : Int) (e : Expr)
  | arguments (callee : Expr)
  | more (callee : Expr) (args : List Expr)
  deriving Repr

def Rule.rank : Rule → Nat
  | .operand level => 12 - level
  | .arguments _ => 13
  | _ => 0

open Descent in
def Rule.descent (stop : Token) (r : Rule) (n : Nat) : Descent n :=
  match r with
  | .operand level =>
      if level < postfixLevel then
        onNext (prefixLevel? · == some level)
          (fun m _ op => (nestedNext stop ((Rule.operand level).descent stop m)).andThen fun e =>
            give (.unary op e))
          (((Rule.operand (level + 1)).descent stop n).andThen fun left =>
            (Rule.fold level left).descent stop n)
      else if level = postfixLevel then
        fun c => (((Rule.operand primaryLevel).descent stop n).andThen fun e =>
          (Rule.chain c.depth e).descent stop n) c
      else
        onNext (· == .lparen)
          (fun m _ t => (nestedAt t ((Rule.operand 1).descent stop m)).andThen fun e =>
            onNext (· == .rparen) (fun _ _ _ => give (.grouping e)) (refuseNext stop .openGrouping))
          (single stop)
  | .fold level left =>
      onNext (binaryLevel? · == some level)
        (fun m _ op => ((Rule.operand (level + 1)).descent stop m).andThen fun right =>
          (Rule.fold level (.binary left op right)).descent stop m)
        (give left)
  | .chain base e =>
      onNext (· == .lparen)
        (fun m _ t => deeper t ((nestedNext stop ((Rule.arguments e).descent stop m)).andThen
          fun e => (Rule.chain base e).descent stop m))
        (onNext (· == .period)
          (fun m _ t => deeper t (onNext (· == .ident)
            (fun k _ u => (Rule.chain base (.member e u.lexeme)).descent stop k)
            (refuseNext stop .noProperty)))
          (assign base (give e)))
  | .arguments callee =>
      onNext (· == .rparen) (fun _ _ _ => give (.call callee []))
        (((Rule.operand 1).descent stop n).andThen fun a => (Rule.more callee [a]).descent stop n)
  | .more callee args =>
      onNext (· == .comma)
        (fun m _ _ => ((Rule.operand 1).descent stop m).andThen fun a =>
          (Rule.more callee (args ++ [a])).descent stop m)
        (onNext (· == .rparen) (fun _ _ _ => give (.call callee args))
          (refuseNext stop .openArguments))
termination_by (n, r.rank)
decreasing_by
  all_goals simp only [Prod.lex_def, Rule.rank, postfixLevel, primaryLevel, true_and] at *
  all_goals omega

open Descent in
theorem descent_arguments (stop : Token) (callee : Expr) :
    (Rule.arguments callee).descent stop n =
      onNext (· == .rparen) (fun _ _ _ => give (.call callee []))
        (((Rule.operand 1).descent stop n).andThen fun a =>
          (Rule.more callee [a]).descent stop n) := by
  conv => lhs; rw [Rule.descent]

/-- Where the counter is before the operand of a chain, elsewhere where it is now. -/
def Rule.floor (depth : Int) : Rule → Int
  | .chain base _ => base
  | _ => depth

/-- The counter stays between the floor and the cap, and with a tree it is at the floor again. -/
structure Report.Kept (floor : Int) (r : Report n) : Prop where
  within : ∀ d ∈ r.trace, floor ≤ d ∧ d ≤ maxDepth
  above : floor ≤ r.left.depth
  below : r.left.depth ≤ maxDepth
  back : ∀ e, r.result = .ok e → r.left.depth = floor

section Kept
open Descent

variable {c : Ledger n} {t stop : Token} {e : Expr} {fault : Fault} {floor : Int} {x : Descent n}

theorem kept_widen {r : Report m} (kept : r.Kept floor) (h : m ≤ n) : (r.widen h).Kept floor :=
  ⟨kept.within, kept.above, kept.below, kept.back⟩

theorem kept_after {r : Report n} {trace : List Int} (kept : r.Kept floor)
    (before : ∀ d ∈ trace, floor ≤ d ∧ d ≤ maxDepth) : (r.after trace).Kept floor := by
  refine ⟨fun d mem => ?_, kept.above, kept.below, kept.back⟩
  rcases List.mem_append.mp mem with first | second
  · exact before d first
  · exact kept.within d second

theorem kept_give (cap : c.depth ≤ maxDepth) (same : c.depth = floor) :
    (give e c).Kept floor :=
  ⟨by simp [give], Int.le_of_eq same.symm, cap, fun _ _ => same⟩

theorem kept_refuse (low : floor ≤ c.depth) (cap : c.depth ≤ maxDepth) :
    (refuse t fault c).Kept floor :=
  ⟨by simp [refuse], low, cap, by simp [refuse]⟩

theorem kept_andThen {next : Expr → Descent n} (inner : Int) (low : floor ≤ inner)
    (first : (x c).Kept inner)
    (second : ∀ e (l : Ledger n), l.depth = inner → (next e l).Kept floor) :
    (andThen x next c).Kept floor := by
  have before : ∀ d ∈ (x c).trace, floor ≤ d ∧ d ≤ maxDepth := fun d mem =>
    ⟨Int.le_trans low (first.within d mem).1, (first.within d mem).2⟩
  unfold andThen
  split
  · rename_i e done
    exact kept_after (second e _ (first.back e done)) before
  · rename_i error failed
    exact ⟨before, Int.le_trans low first.above, first.below, by simp [failed]⟩

theorem kept_assign {depth : Int} (low : floor ≤ depth) (cap : depth ≤ maxDepth)
    (next : (x { c with depth }).Kept floor) : (assign depth x c).Kept floor :=
  kept_after next (by simpa using ⟨low, cap⟩)

theorem kept_deeper (low : floor ≤ c.depth) (cap : c.depth ≤ maxDepth)
    (next : ∀ l : Ledger n, l.depth = c.depth + 1 → l.depth ≤ maxDepth → (x l).Kept floor) :
    (deeper t x c).Kept floor := by
  unfold deeper
  split
  · exact kept_refuse low cap
  · have room : c.depth + 1 ≤ maxDepth := by omega
    exact kept_assign (by omega) room (next _ rfl room)

theorem kept_nested (cap : c.depth ≤ maxDepth)
    (inner : ∀ l : Ledger n, l.depth ≤ maxDepth → (x l).Kept l.depth) :
    (nestedAt t x c).Kept c.depth := by
  refine kept_deeper (Int.le_refl _) cap fun l deep room => ?_
  have kept := inner l room
  have above := kept.above
  have below := kept.below
  refine ⟨fun d mem => ?_, ?_, ?_, fun e done => ?_⟩
  · simp only [Report.shallower, List.mem_append, List.mem_singleton] at mem
    rcases mem with inside | rfl
    · have := kept.within d inside
      omega
    · omega
  · simp only [Report.shallower]
    omega
  · simp only [Report.shallower]
    omega
  · have := kept.back e done
    simp only [Report.shallower]
    omega

theorem kept_onNext {kind : TokenKind → Bool} {yes : (m : Nat) → m < n → Token → Descent m}
    (read : ∀ m less t (l : Ledger m), l.depth = c.depth → (yes m less t l).Kept floor)
    (other : (x c).Kept floor) : (onNext kind yes x c).Kept floor := by
  obtain ⟨ts, few, depth⟩ := c
  cases ts with
  | nil => exact other
  | cons t ts =>
    simp only [onNext]
    split
    · exact kept_widen (read ts.length few t ⟨ts, Nat.le_refl _, depth⟩ rfl) _
    · exact other

theorem kept_single (cap : c.depth ≤ maxDepth) : (single stop c).Kept c.depth := by
  obtain ⟨ts, few, depth⟩ := c
  cases ts with
  | nil => exact kept_refuse (Int.le_refl _) cap
  | cons t ts =>
    simp only [single]
    split
    · exact kept_give cap rfl
    · exact kept_refuse (Int.le_refl _) cap

/-- Every rule keeps the counter from its floor up. -/
theorem descent_kept (stop : Token) (r : Rule) (n : Nat) (c : Ledger n)
    (low : r.floor c.depth ≤ c.depth) (cap : c.depth ≤ maxDepth) :
    (r.descent stop n c).Kept (r.floor c.depth) := by
  induction r, n using Rule.descent.induct with
  | case1 n level weak nests weaker folds =>
    simp only [Rule.floor] at *
    rw [Rule.descent, if_pos weak]
    refine kept_onNext (fun m less op l same => ?_) ?_
    · refine kept_andThen c.depth (Int.le_refl _) ?_ fun e l back =>
        kept_give (back ▸ cap) back
      rw [← same]
      exact kept_nested (same ▸ cap) fun l room => nests m less l (Int.le_refl _) room
    · refine kept_andThen _ (Int.le_refl _) (weaker c low cap) fun left l back => ?_
      rw [← back]
      exact folds left l (Int.le_refl _) (back ▸ cap)
  | case2 n strong operand chains =>
    simp only [Rule.floor] at *
    rw [Rule.descent, if_neg strong, if_pos rfl]
    refine kept_andThen _ (Int.le_refl _) (operand c low cap) fun e l back => ?_
    exact chains c e l (Int.le_of_eq back.symm) (back ▸ cap)
  | case3 n level strong stronger inside =>
    simp only [Rule.floor] at *
    rw [Rule.descent, if_neg strong, if_neg stronger]
    refine kept_onNext (fun m less t l same => ?_) (kept_single cap)
    rw [← same] at low cap ⊢
    refine kept_andThen _ (Int.le_refl _)
      (kept_nested cap fun l room => inside m less l (Int.le_refl _) room) fun e k back => ?_
    refine kept_onNext (fun _ _ _ j here => kept_give (by omega) (by omega)) ?_
    exact kept_refuse (Int.le_of_eq back.symm) (back ▸ cap)
  | case4 n level left right folds =>
    simp only [Rule.floor] at *
    rw [Rule.descent]
    refine kept_onNext (fun m less op l same => ?_) (kept_give cap rfl)
    rw [← same] at low cap ⊢
    refine kept_andThen _ (Int.le_refl _) (right m less l low cap) fun e k back => ?_
    rw [← back]
    exact folds m less op e k (Int.le_refl _) (back ▸ cap)
  | case5 n base e inside called accessed =>
    simp only [Rule.floor] at *
    rw [Rule.descent]
    refine kept_onNext (fun m less t l same => ?_)
      (kept_onNext (fun m less t l same => ?_) (kept_assign (Int.le_refl _) (by omega)
        (kept_give (by simpa using by omega) rfl)))
    · refine kept_deeper (by omega) (by omega) fun k deep room => ?_
      refine kept_andThen k.depth (by omega)
        (kept_nested room fun j room => inside m less j (Int.le_refl _) room) fun e j back => ?_
      exact called m less e j (by omega) (by omega)
    · refine kept_deeper (by omega) (by omega) fun k deep room => ?_
      refine kept_onNext (fun i fewer u j here => ?_) (kept_refuse (by omega) room)
      exact accessed m less i fewer u j (by omega) (by omega)
  | case6 n callee first others =>
    simp only [Rule.floor] at *
    rw [descent_arguments]
    refine kept_onNext (fun _ _ _ l same => kept_give (by omega) same) ?_
    refine kept_andThen _ (Int.le_refl _) (first c low cap) fun a l back => ?_
    rw [← back]
    exact others a l (Int.le_refl _) (back ▸ cap)
  | case7 n callee args next others =>
    simp only [Rule.floor] at *
    rw [Rule.descent]
    refine kept_onNext (fun m less _ l same => ?_)
      (kept_onNext (fun _ _ _ l same => kept_give (by omega) same) (kept_refuse low cap))
    rw [← same] at low cap ⊢
    refine kept_andThen _ (Int.le_refl _) (next m less l low cap) fun a k back => ?_
    rw [← back]
    exact others m less a k (Int.le_refl _) (back ▸ cap)

end Kept

def Rule.blank : Rule → Rule
  | .operand level => .operand level
  | .fold level _ => .fold level .nil
  | .chain base _ => .chain base .nil
  | .arguments _ => .arguments .nil
  | .more _ _ => .more .nil []

def Report.blank (r : Report n) : Report n := { r with result := r.result.map fun _ => .nil }

def Alike (x y : Descent n) : Prop := ∀ c, (x c).blank = (y c).blank

section Alike
open Descent

variable {t stop : Token} {fault : Fault} {x y : Descent n}

theorem alike_refl (x : Descent n) : Alike x x := fun _ => rfl

theorem alike_give (e e' : Expr) : Alike (give (n := n) e) (give e') := fun _ => rfl

theorem blank_cases {r s : Report n} (same : r.blank = s.blank) :
    r.left = s.left ∧ r.trace = s.trace ∧
      ((∃ e e', r.result = .ok e ∧ s.result = .ok e') ∨
        ∃ error, r.result = .error error ∧ s.result = .error error) := by
  obtain ⟨result, left, trace⟩ := r
  obtain ⟨result', left', trace'⟩ := s
  simp only [Report.blank, Report.mk.injEq] at same
  obtain ⟨result_eq, rfl, rfl⟩ := same
  cases result <;> cases result' <;> simp_all [Except.map]

theorem alike_andThen {next next' : Expr → Descent n} (first : Alike x y)
    (second : ∀ e e', Alike (next e) (next' e')) :
    Alike (x.andThen next) (y.andThen next') := by
  intro c
  obtain ⟨left, trace, ⟨e, e', here, there⟩ | ⟨error, here, there⟩⟩ := blank_cases (first c)
  · simp only [andThen, here, there]
    rw [← left, ← trace]
    exact congrArg (Report.after (x c).trace) (second e e' (x c).left)
  · simp only [andThen, here, there]
    exact first c

theorem alike_assign (depth : Int) (same : Alike x y) :
    Alike (assign depth x) (assign depth y) :=
  fun c => congrArg (Report.after [depth]) (same { c with depth })

theorem alike_deeper (same : Alike x y) : Alike (deeper t x) (deeper t y) := by
  intro c
  unfold deeper
  split
  · rfl
  · exact alike_assign _ same c

theorem alike_nestedNext (same : Alike x y) : Alike (nestedNext stop x) (nestedNext stop y) := by
  have back : Alike (fun c => (x c).shallower) (fun c => (y c).shallower) :=
    fun c => congrArg Report.shallower (same c)
  exact fun c => alike_deeper back c

theorem alike_onNext {kind : TokenKind → Bool} {yes yes' : (m : Nat) → m < n → Token → Descent m}
    (read : ∀ m less t, Alike (yes m less t) (yes' m less t)) (other : Alike x y) :
    Alike (onNext kind yes x) (onNext kind yes' y) := by
  rintro ⟨ts, few, depth⟩
  cases ts with
  | nil => exact other _
  | cons t ts =>
    simp only [onNext]
    split
    · exact congrArg (Report.widen · (Nat.le_of_lt few)) (read ts.length few t _)
    · exact other _

/-- The trees read before have no part in what is accepted and how deep it goes. -/
theorem descent_alike (stop : Token) (r r' : Rule) (n : Nat) (same : r'.blank = r.blank) :
    Alike (r.descent stop n) (r'.descent stop n) := by
  induction r, n using Rule.descent.induct generalizing r' with
  | case1 n level | case2 n | case3 n level =>
    cases r' <;> simp only [Rule.blank, Rule.operand.injEq, reduceCtorEq] at same
    exact same ▸ alike_refl _
  | case4 n level left right folds =>
    cases r' <;> simp only [Rule.blank, Rule.fold.injEq, reduceCtorEq] at same
    obtain ⟨rfl, -⟩ := same
    rw [Rule.descent, Rule.descent]
    exact alike_onNext (fun m less op => alike_andThen (alike_refl _) fun e e' =>
      folds m less op e _ rfl) (alike_give _ _)
  | case5 n base e inside called accessed =>
    cases r' <;> simp only [Rule.blank, Rule.chain.injEq, reduceCtorEq] at same
    obtain ⟨rfl, -⟩ := same
    rw [Rule.descent, Rule.descent]
    refine alike_onNext (fun m less t => alike_deeper (alike_andThen
      (alike_nestedNext (inside m less _ rfl)) fun e e' => called m less e _ rfl)) ?_
    refine alike_onNext (fun m less t => alike_deeper (alike_onNext
      (fun k fewer u => accessed m less k fewer u _ rfl) (alike_refl _))) ?_
    exact alike_assign _ (alike_give _ _)
  | case6 n callee first others =>
    cases r' <;> simp only [Rule.blank, reduceCtorEq] at same
    rw [descent_arguments, descent_arguments]
    exact alike_onNext (fun _ _ _ => alike_give _ _)
      (alike_andThen (alike_refl _) fun a a' => others a (.more _ [a']) rfl)
  | case7 n callee args next others =>
    cases r' <;> simp only [Rule.blank, reduceCtorEq] at same
    rw [Rule.descent, Rule.descent]
    refine alike_onNext (fun m less _ => alike_andThen (alike_refl _) fun a a' =>
      others m less a _ rfl) ?_
    exact alike_onNext (fun _ _ _ => alike_give _ _) (alike_refl _)

end Alike

end ScopedFormula
